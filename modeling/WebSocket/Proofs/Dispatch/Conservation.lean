import Mathlib.Data.List.Perm.Basic
import WebSocket.Dispatch.Race

/-!
# No task is lost

A pool shared by threads keeps account of its tasks in every order of their steps.  A task that was
queued stays in the queue until a worker or a stop takes it out, in the order of queueing; a worker
that took it does it once, and a stop hands it back once.  A task that was not queued was handed
back once and is never done.

## Main definitions

* `Pool.tasksAccepted`, `Pool.tasksTurnedAway`, `Pool.tasksDone`, `Pool.tasksRefused` — what submits
  returned, and which callbacks were called.
* `Pool.Race.Change` — what a step can do.
* `Pool.Race.Ledger`, `Pool.Race.Staffed` — what every step keeps.

## Main results

* `Pool.Race.change_of_step` — a step does nothing else.
* `Pool.Race.Reachable.ledger`, `Pool.Race.Reachable.staffed` — the invariants hold in every order.
* `Pool.Race.conserves_tasks` — **no task is lost or done twice.**
-/

namespace WebSocket

variable {τ : Type}

/-! ### Accounts -/

namespace Pool

/-- The tasks among calls that the application was given to do. -/
def tasksDone (calls : List (Call τ)) : List τ :=
  calls.filterMap fun
    | .handled task _ => some task
    | _ => none

/-- The tasks among calls that the application was handed back. -/
def tasksRefused (calls : List (Call τ)) : List τ :=
  calls.filterMap fun
    | .rejected task => some task
    | _ => none

/-- The tasks whose submits returned that they were queued. -/
def tasksAccepted (returned : List (τ × Except DispatchError Unit)) : List τ :=
  returned.filterMap fun
    | (task, .ok ()) => some task
    | (_, .error _) => none

/-- The tasks whose submits returned an error. -/
def tasksTurnedAway (returned : List (τ × Except DispatchError Unit)) : List τ :=
  returned.filterMap fun
    | (task, .error _) => some task
    | (_, .ok ()) => none

@[simp] theorem tasksDone_append (xs ys : List (Call τ)) :
    tasksDone (xs ++ ys) = tasksDone xs ++ tasksDone ys :=
  List.filterMap_append

@[simp] theorem tasksRefused_append (xs ys : List (Call τ)) :
    tasksRefused (xs ++ ys) = tasksRefused xs ++ tasksRefused ys :=
  List.filterMap_append

@[simp] theorem tasksAccepted_append (xs ys : List (τ × Except DispatchError Unit)) :
    tasksAccepted (xs ++ ys) = tasksAccepted xs ++ tasksAccepted ys :=
  List.filterMap_append

@[simp] theorem tasksTurnedAway_append (xs ys : List (τ × Except DispatchError Unit)) :
    tasksTurnedAway (xs ++ ys) = tasksTurnedAway xs ++ tasksTurnedAway ys :=
  List.filterMap_append

@[simp] theorem tasksDone_rejected (task : τ) : tasksDone [.rejected task] = [] := rfl

@[simp] theorem tasksRefused_rejected (task : τ) : tasksRefused [.rejected task] = [task] := rfl

@[simp] theorem tasksAccepted_ok (task : τ) : tasksAccepted [(task, .ok ())] = [task] := rfl

@[simp] theorem tasksAccepted_error (task : τ) (e : DispatchError) :
    tasksAccepted [(task, .error e)] = [] := rfl

@[simp] theorem tasksTurnedAway_ok (task : τ) : tasksTurnedAway [(task, .ok ())] = [] := rfl

@[simp] theorem tasksTurnedAway_error (task : τ) (e : DispatchError) :
    tasksTurnedAway [(task, .error e)] = [task] := rfl

/-- A task that was done counts once, whether or not it went wrong. -/
@[simp] theorem tasksDone_settled (task : τ) (cause : Option HandlerError) :
    tasksDone (.handled task cause :: (cause.map (Call.failed task)).toList) = [task] := by
  cases cause <;> rfl

@[simp] theorem tasksRefused_settled (task : τ) (cause : Option HandlerError) :
    tasksRefused (.handled task cause :: (cause.map (Call.failed task)).toList) = [] := by
  cases cause <;> rfl

@[simp] theorem queue_refuse (h : Handler τ) (task : τ) (p : Pool τ) :
    (p.refuse h task).pool.queue = p.queue := rfl

@[simp] theorem handling_refuse (h : Handler τ) (task : τ) (p : Pool τ) :
    (p.refuse h task).pool.handling = p.handling := rfl

/-- The tasks that workers are at. -/
def Race.atWork (r : Race τ) : List τ := r.taken ++ r.pool.handling

/-- A stop has seen all workers leave, and has not ended. -/
def Holder.closes : Holder → Bool
  | .draining _ | .sweeping _ => true
  | _ => false

namespace Race

/-! ### What a step can do -/

/-- What a step can do to tasks, to workers and to the lock. -/
inductive Change (h : Handler τ) (m : Move τ) (r : Race τ) : Race τ → Prop
  /-- A submit begins or goes on. -/
  | went {pool : Pool τ} {submits : List (Submit τ)} :
      (∃ task, m = .enter task) ∨ r.submits ≠ [] →
      pool.queue = r.pool.queue → pool.handling = r.pool.handling →
      Change h m r { r with pool, submits }
  /-- A submit hands its task back and returns an error. -/
  | turnedAway {task : τ} {e : DispatchError} {submits : List (Submit τ)} : r.submits ≠ [] →
      Change h m r { r with
        pool := (r.pool.refuse h task).pool
        submits
        past := { r.past with
          calls := r.past.calls ++ [.rejected task]
          returned := r.past.returned ++ [(task, .error e)] } }
  /-- A submit puts its task at the end of the queue and returns. -/
  | queued {task : τ} {submits : List (Submit τ)} : r.submits ≠ [] →
      Change h m r { r with
        pool := { r.pool with queue := r.pool.queue ++ [task] }
        submits
        past := { r.past with
          queued := r.past.queued ++ [task]
          returned := r.past.returned ++ [(task, .ok ())] } }
  /-- A worker leaves. -/
  | left : r.idle ≠ 0 → Change h m r { r with alive := r.alive - 1 }
  /-- A worker stays. -/
  | stayed : r.idle ≠ 0 → Change h m r { r with looking := r.looking + 1 }
  /-- A worker finds nothing in the queue. -/
  | missed : r.looking ≠ 0 → Change h m r { r with looking := r.looking - 1 }
  /-- A worker takes what waits first. -/
  | took {task : τ} {queue : List τ} : r.looking ≠ 0 → r.pool.queue = task :: queue →
      Change h m r { r with
        looking := r.looking - 1
        pool := { r.pool with queue }
        taken := r.taken ++ [task]
        past := { r.past with dequeued := r.past.dequeued ++ [task] } }
  /-- A worker begins with the task that it took. -/
  | began {place : Nat} {task : τ} : r.taken[place]? = some task →
      Change h m r { r with
        pool := r.pool.releaseSlot.begin task
        taken := r.taken.eraseIdx place }
  /-- A worker gets done with its task. -/
  | settled {place : Nat} {task : τ} {pool : Pool τ} : r.pool.handling[place]? = some task →
      pool.queue = r.pool.queue → pool.handling = r.pool.handling.eraseIdx place →
      Change h m r { r with
        pool
        past := { r.past with
          calls := r.past.calls ++
            .handled task (h.handle task) :: ((h.handle task).map (Call.failed task)).toList } }
  /-- A stop hands back what waits first. -/
  | handedBack {task : τ} {queue : List τ} {again : Bool} :
      r.holder = .draining again → r.pool.queue = task :: queue →
      Change h m r { r with
        pool := (({ r.pool with queue } : Pool τ).refuse h task).pool
        drained := r.drained + 1
        past := { r.past with
          dequeued := r.past.dequeued ++ [task]
          handedBack := r.past.handedBack ++ [task]
          calls := r.past.calls ++ [.rejected task] } }
  /-- A start or a stop goes on. -/
  | locked {holder : Holder} {pool : Pool τ} {restarts drained wiped : Nat} :
      r.holder ≠ .abandoning → pool.queue = r.pool.queue → pool.handling = r.pool.handling →
      (holder.closes = true → r.holder.closes = true ∨ r.alive = 0) →
      (∀ again, holder = .sweeping again → r.pool.queue = []) →
      Change h m r { r with pool, holder, restarts, drained, wiped }
  /-- A start gives life to a worker. -/
  | spawned {missing : Nat} : r.holder = .spawning (missing + 1) →
      Change h m r { r with alive := r.alive + 1, holder := .spawning missing }
  /-- The pool is given up, and its queue with it. -/
  | lost : r.holder = .abandoning →
      Change h m r { r with pool := { r.pool with queue := [] }, gone := true }

variable {h : Handler τ} {m : Move τ} {r s : Race τ}

theorem dequeue?_eq_some {p q : Pool τ} {task : τ} (hd : p.dequeue? = some (task, q)) :
    ∃ queue, p.queue = task :: queue ∧ q = { p with queue } := by
  unfold dequeue? at hd
  split at hd
  · simp at hd
  · next first queue hq =>
    obtain ⟨rfl, rfl⟩ : first = task ∧ _ = q := by simpa using hd
    exact ⟨queue, hq, rfl⟩

theorem change_of_submitStep {place : Nat} {sub : Submit τ}
    (hsub : r.submits[place]? = some sub) (hs : r.submitStep h m place sub = some s) :
    Change h m r s := by
  have hne : r.submits ≠ [] := by
    rintro hnil
    simp [hnil] at hsub
  unfold submitStep at hs
  split at hs
  · split at hs
    · obtain rfl := Option.some.inj hs
      exact .went (.inr hne) rfl rfl
    · obtain rfl := Option.some.inj hs
      simp only [work, finish, calls_refuse]
      exact .turnedAway hne
  · obtain rfl := Option.some.inj hs
    exact .went (.inr hne) rfl rfl
  · obtain rfl := Option.some.inj hs
    exact .went (.inr hne) rfl rfl
  · obtain rfl := Option.some.inj hs
    simp only [work, finish, calls_refuse]
    exact .turnedAway hne
  · obtain rfl := Option.some.inj hs
    exact .went (.inr hne) rfl rfl
  · obtain rfl := Option.some.inj hs
    simp only [work, finish, append, PoolEffect.calls, List.filterMap_cons, List.filterMap_nil,
      List.append_nil]
    exact .queued hne
  · simp at hs

theorem change_of_handBack {again : Bool} (hholder : r.holder = .draining again)
    (hs : r.handBack h = some s) : Change h m r s := by
  unfold handBack at hs
  split at hs
  · simp at hs
  · next task q hq =>
    obtain rfl := Option.some.inj hs
    obtain ⟨queue, hqueue, rfl⟩ := dequeue?_eq_some hq
    simp only [work, calls_refuse]
    exact .handedBack hholder hqueue

/-- Most steps of whoever holds the lock only pass the lock on. -/
theorem change_of_lockStep (hs : r.lockStep h m = some s) : Change h m r s := by
  unfold lockStep at hs
  split at hs
  · next again hholder =>
    obtain rfl := Option.some.inj hs
    exact .locked (by simp [hholder]) rfl rfl (by simp [Holder.closes]) (by simp)
  · next again hholder =>
    -- All workers have left.
    split at hs
    · next halive =>
      obtain rfl := Option.some.inj hs
      exact .locked (by simp [hholder]) rfl rfl (fun _ => .inr halive) (by simp)
    · simp at hs
  · next again hholder => exact change_of_handBack hholder hs
  · next again hholder =>
    -- Nothing waits.
    split at hs
    · next hempty =>
      obtain rfl := Option.some.inj hs
      exact .locked (by simp [hholder]) rfl rfl (fun _ => .inl (by simp [hholder, Holder.closes]))
        (fun _ _ => List.isEmpty_iff.1 hempty)
    · simp at hs
  · next again hholder =>
    obtain rfl := Option.some.inj hs
    exact .locked (by simp [hholder]) rfl rfl (by simp [Holder.closes]) (by simp)
  · next hholder =>
    split at hs
    · simp at hs
    · obtain rfl := Option.some.inj hs
      exact .locked (by simp [hholder]) rfl rfl (by simp [Holder.closes]) (by simp)
  · next missing hholder =>
    obtain rfl := Option.some.inj hs
    exact .spawned hholder
  · next hholder =>
    obtain rfl := Option.some.inj hs
    exact .locked (by simp [hholder]) rfl rfl (by simp [Holder.closes]) (by simp)
  · next missing hholder =>
    obtain rfl := Option.some.inj hs
    exact .locked (by simp [hholder]) rfl rfl (by simp [Holder.closes]) (by simp)
  · next hholder =>
    split at hs
    · obtain rfl := Option.some.inj hs
      exact .locked (by simp [hholder]) rfl rfl (by simp [Holder.closes]) (by simp)
    · simp at hs
  · next hholder =>
    -- What is queued is lost.
    split at hs
    · obtain rfl := Option.some.inj hs
      exact .lost hholder
    · simp at hs
  · simp at hs

theorem change_of_look (hs : r.look = some s) : Change h m r s := by
  unfold look at hs
  split at hs
  · simp at hs
  · next hidle =>
    split at hs
    · obtain rfl := Option.some.inj hs
      exact .left hidle
    · obtain rfl := Option.some.inj hs
      exact .stayed hidle

theorem change_of_take (hs : r.take = some s) : Change h m r s := by
  unfold take at hs
  split at hs
  · simp at hs
  · next hlooking =>
    simp only at hs
    split at hs
    · obtain rfl := Option.some.inj hs
      exact .missed hlooking
    · next task q hq =>
      obtain rfl := Option.some.inj hs
      obtain ⟨queue, hqueue, rfl⟩ := dequeue?_eq_some hq
      exact .took hlooking hqueue

theorem change_of_settle {place : Nat} (hplace : place < r.pool.handling.length) :
    Change h m r (r.work (r.pool.finish h place)) := by
  have htask : r.pool.handling[place]? = some r.pool.handling[place] :=
    List.getElem?_eq_getElem hplace
  have hfinish : r.pool.finish h place =
      ({ r.pool with handling := r.pool.handling.eraseIdx place } : Pool τ).settle h
        r.pool.handling[place] := by
    simp only [Pool.finish, htask]
  rw [hfinish]
  simp only [work, calls_settle]
  refine .settled htask ?_ ?_
  · unfold settle
    split <;> rfl
  · unfold settle
    split <;> rfl

/-- **A step does nothing else.** -/
theorem change_of_step (hs : r.step h m = some s) : Change h m r s := by
  cases m with
  | enter task =>
    simp only [step] at hs
    split at hs
    · simp at hs
    · obtain rfl := Option.some.inj hs
      exact .went (.inl ⟨task, rfl⟩) rfl rfl
  | checkRunning | checkRoom | retry | giveUp | count | append =>
    obtain ⟨sub, hsub, hs⟩ := Option.bind_eq_some_iff.1 hs
    exact change_of_submitStep hsub hs
  | look => exact change_of_look hs
  | take => exact change_of_take hs
  | release place =>
    obtain ⟨task, htask, rfl⟩ := Option.map_eq_some_iff.1 hs
    exact .began htask
  | settle place =>
    simp only [step] at hs
    split at hs
    · next hplace =>
      obtain rfl := Option.some.inj hs
      exact change_of_settle hplace
    · simp at hs
  | dismiss | join | handBack | sweep | reset | reopen | spawn | finishStart | spawnFails | abandon
  | lose => exact change_of_lockStep hs

/-! ### What every step keeps -/

/-- An item taken out of its place is one item less. -/
theorem count_eraseIdx_add [DecidableEq τ] {xs : List τ} {place : Nat} {task : τ}
    (htask : xs[place]? = some task) (x : τ) :
    (xs.eraseIdx place).count x + [task].count x = xs.count x := by
  obtain ⟨hplace, rfl⟩ := List.getElem?_eq_some_iff.1 htask
  rw [← (List.getElem_cons_eraseIdx_perm hplace).count_eq x, Nat.add_comm, ← List.count_append,
    List.singleton_append]

/-- How the workers and the lock stand to each other. -/
structure Staffed (r : Race τ) : Prop where
  /-- Each task that workers are at has its own worker. -/
  workers : r.looking + r.taken.length + r.pool.handling.length ≤ r.alive
  /-- No worker is left when a stop empties the queue. -/
  left : r.holder.closes = true → r.alive = 0
  /-- A pool that is gone is not stopped any more. -/
  gone : r.gone = true → r.holder = .abandoning

theorem Staffed.change (hr : r.Staffed) (hc : Change h m r s) : s.Staffed := by
  have hworkers := hr.workers
  cases hc with
  | went _ hqueue hhandling => exact ⟨by simpa [hhandling] using hworkers, hr.left, hr.gone⟩
  | turnedAway => exact ⟨hworkers, hr.left, hr.gone⟩
  | queued => exact ⟨hworkers, hr.left, hr.gone⟩
  | left hidle =>
    refine ⟨?_, fun hcloses => ?_, hr.gone⟩
    · simp only [idle] at hidle
      show r.looking + r.taken.length + r.pool.handling.length ≤ r.alive - 1
      omega
    · show r.alive - 1 = 0
      rw [hr.left hcloses]
  | stayed hidle =>
    refine ⟨?_, hr.left, hr.gone⟩
    simp only [idle] at hidle
    show r.looking + 1 + r.taken.length + r.pool.handling.length ≤ r.alive
    omega
  | missed =>
    refine ⟨?_, hr.left, hr.gone⟩
    show r.looking - 1 + r.taken.length + r.pool.handling.length ≤ r.alive
    omega
  | took hlooking =>
    -- The worker no longer looks, and its task counts instead.
    refine ⟨?_, hr.left, hr.gone⟩
    show r.looking - 1 + (r.taken ++ [_]).length + r.pool.handling.length ≤ r.alive
    rw [List.length_append, List.length_singleton]
    omega
  | @began place task htask =>
    refine ⟨?_, hr.left, hr.gone⟩
    obtain ⟨hplace, -⟩ := List.getElem?_eq_some_iff.1 htask
    show r.looking + (r.taken.eraseIdx place).length + (r.pool.handling ++ [task]).length ≤ r.alive
    rw [List.length_eraseIdx_of_lt hplace, List.length_append, List.length_singleton]
    omega
  | @settled place task pool htask _ hhandling =>
    refine ⟨?_, hr.left, hr.gone⟩
    show r.looking + r.taken.length + pool.handling.length ≤ r.alive
    have hle := List.length_eraseIdx_le r.pool.handling place
    rw [hhandling]
    omega
  | handedBack => exact ⟨hworkers, hr.left, hr.gone⟩
  | locked hholder _ hhandling hcloses =>
    refine ⟨by simpa [hhandling] using hworkers, fun hc => ?_, fun hg => ?_⟩
    · exact (hcloses hc).elim hr.left fun halive => halive
    · exact absurd (hr.gone hg) hholder
  | spawned hholder =>
    refine ⟨?_, by simp [Holder.closes], fun hg => ?_⟩
    · show r.looking + r.taken.length + r.pool.handling.length ≤ r.alive + 1
      omega
    · exact absurd (hr.gone hg) (by simp [hholder])
  | lost hholder => exact ⟨hworkers, hr.left, fun _ => hholder⟩

theorem Reachable.staffed {name : String} {workers capacity : Nat}
    (hr : Reachable h (.new name workers capacity) r) : r.Staffed := by
  induction hr with
  | start => exact ⟨Nat.le_refl 0, fun _ => rfl, fun hgone => nomatch hgone⟩
  | next m _ hs ih => exact ih.change (change_of_step hs)

/-- A submit only begins when it is told to. -/
theorem Change.submits_eq_nil (hc : Change h m r s) (hm : ∀ task, m ≠ .enter task)
    (hsubmits : r.submits = []) : s.submits = [] := by
  cases hc with
  | went hbegins =>
    -- Where no submit is in progress, only a new one can go on.
    rcases hbegins with ⟨task, rfl⟩ | hne
    · exact absurd rfl (hm task)
    · exact absurd hsubmits hne
  | turnedAway hne | queued hne => exact absurd hsubmits hne
  | left | stayed | missed | took | began | settled | handedBack | locked | spawned | lost =>
    exact hsubmits

/-- No submit is in progress, and a stop that has found the queue empty leaves it so. -/
structure Undisturbed (r : Race τ) : Prop where
  submits : r.submits = []
  swept : ∀ again, r.holder = .sweeping again → r.pool.queue = []

/-- Only the beginning of a submit changes this. -/
theorem Undisturbed.change (hr : r.Undisturbed) (hm : ∀ task, m ≠ .enter task)
    (hc : Change h m r s) : s.Undisturbed := by
  obtain ⟨hsubmits, hswept⟩ := hr
  cases hc with
  | went hbegins =>
    -- Where no submit is in progress, only a new one can go on.
    rcases hbegins with ⟨task, rfl⟩ | hne
    · exact absurd rfl (hm task)
    · exact absurd hsubmits hne
  | turnedAway hne => exact absurd hsubmits hne
  | queued hne => exact absurd hsubmits hne
  | left | stayed | missed | began => exact ⟨hsubmits, hswept⟩
  | took _ hqueue | handedBack _ hqueue =>
    refine ⟨hsubmits, fun again hagain => ?_⟩
    have hempty := hswept again hagain
    simp [hqueue] at hempty
  | settled _ hqueue => exact ⟨hsubmits, by simpa only [hqueue] using hswept⟩
  | locked _ hqueue _ _ hempty => exact ⟨hsubmits, by simpa only [hqueue] using hempty⟩
  | spawned => exact ⟨hsubmits, by simp⟩
  | lost => exact ⟨hsubmits, fun _ _ => rfl⟩

theorem Staffed.atWork_eq_nil (hr : r.Staffed) (halive : r.alive = 0) : r.atWork = [] := by
  have hworkers := hr.workers
  rw [atWork, List.append_eq_nil_iff, ← List.length_eq_zero_iff, ← List.length_eq_zero_iff]
  omega

/-- Nothing is left in the pool. -/
structure Closed (r : Race τ) : Prop where
  submits : r.submits = []
  queue : r.pool.queue = []
  alive : r.alive = 0
  gone : r.gone = false

/-- Only a stop that has swept the queue can end. -/
theorem closed_of_reset (hr : r.Staffed) (hundisturbed : r.Undisturbed)
    (hs : r.step h .reset = some s) : s.Closed := by
  obtain ⟨again, hholder, rfl⟩ : ∃ again, r.holder = .sweeping again ∧ s = r.reset again := by
    simp only [Race.step, lockStep] at hs
    split at hs <;> simp_all
  refine ⟨hundisturbed.submits, hundisturbed.swept again hholder, ?_, ?_⟩
  · exact hr.left (by simp [hholder, Holder.closes])
  · show r.gone = false
    rw [← Bool.not_eq_true]
    intro hgone
    simp [hr.gone hgone] at hholder

/-- When a stop ends that no submit overlapped, nothing waits and no worker is at anything. -/
theorem empty_of_reset {again : Bool} {moves : List (Move τ)} (hr : r.Staffed)
    (hsubmits : r.submits = []) (hm : ∀ task, .enter task ∉ moves)
    (hs : r.run h (.dismiss again :: (moves ++ [.reset])) = some s) :
    s.pool.queue = [] ∧ s.atWork = [] ∧ s.gone = false := by
  obtain ⟨t, hdismiss, hs⟩ := run_cons.1 hs
  obtain ⟨u, hmoves, hs⟩ := run_append.1 hs
  obtain ⟨v, hreset, hend⟩ := run_cons.1 hs
  obtain rfl : v = s := by simpa [Race.run] using hend
  have hnobody : r.holder = .nobody := by
    simp only [Race.step, lockStep] at hdismiss
    split at hdismiss <;> simp_all
  -- The lock was free, so no stop had found the queue empty yet.
  have hundisturbed : r.Undisturbed := ⟨hsubmits, by simp [hnobody]⟩
  have ht : t.Staffed ∧ t.Undisturbed :=
    ⟨hr.change (change_of_step hdismiss), hundisturbed.change (by simp) (change_of_step hdismiss)⟩
  have hu : u.Staffed ∧ u.Undisturbed := by
    refine run_keeps (P := fun r => r.Staffed ∧ r.Undisturbed) ?_ ht hmoves
    rintro r s m hin ⟨hstaffed, hquiet⟩ hstep
    have hc := change_of_step hstep
    exact ⟨hstaffed.change hc, hquiet.change (fun task heq => hm task (heq ▸ hin)) hc⟩
  have hclosed := closed_of_reset hu.1 hu.2 hreset
  have hstaffed := hu.1.change (change_of_step hreset)
  exact ⟨hclosed.queue, hstaffed.atWork_eq_nil hclosed.alive, hclosed.gone⟩

/-! ### The tasks -/

/-- What is known of the tasks. -/
structure Ledger [DecidableEq τ] (r : Race τ) : Prop where
  /-- What submits returned is what they queued. -/
  accepted : tasksAccepted r.past.returned = r.past.queued
  /-- Tasks leave the queue in the order in which they were queued. -/
  order : r.gone = false → r.past.queued = r.past.dequeued ++ r.pool.queue
  /-- A task that left the queue is with a worker, or it was done or handed back. -/
  dequeued (x : τ) : r.past.dequeued.count x =
    r.atWork.count x + (tasksDone r.past.calls).count x + r.past.handedBack.count x
  /-- The application was handed back what submits turned away and what stops found. -/
  rejected (x : τ) : (tasksRefused r.past.calls).count x =
    (tasksTurnedAway r.past.returned).count x + r.past.handedBack.count x

variable [DecidableEq τ]

theorem Ledger.change (hr : r.Ledger) (hc : Change h m r s) : s.Ledger := by
  obtain ⟨haccepted, horder, hdequeued, hrejected⟩ := hr
  simp only [atWork, List.count_append] at hdequeued
  cases hc with
  | went _ hqueue hhandling =>
    refine ⟨haccepted, by simpa only [hqueue] using horder, fun x => ?_, hrejected⟩
    simpa [atWork, hhandling] using hdequeued x
  | @turnedAway task =>
    refine ⟨by simpa using haccepted, horder, fun x => ?_, fun x => ?_⟩
    · simpa [atWork] using hdequeued x
    · have hx := hrejected x
      simp only [tasksRefused_append, tasksTurnedAway_append, tasksRefused_rejected,
        tasksTurnedAway_error, List.count_append]
      omega
  | queued =>
    refine ⟨by simpa using haccepted, fun hgone => ?_, fun x => ?_, fun x => ?_⟩
    · simpa using congrArg (· ++ [_]) (horder hgone)
    · simpa [atWork] using hdequeued x
    · simpa using hrejected x
  | left | stayed | missed | spawned =>
    exact ⟨haccepted, horder, by simpa [atWork] using hdequeued, hrejected⟩
  | @took task queue _ hqueue =>
    refine ⟨haccepted, fun hgone => ?_, fun x => ?_, hrejected⟩
    · simpa [hqueue] using horder hgone
    · have hx := hdequeued x
      simp only [atWork, List.count_append]
      omega
  | @began place task htask =>
    refine ⟨haccepted, horder, fun x => ?_, hrejected⟩
    have hx := hdequeued x
    have herase := count_eraseIdx_add htask x
    simp only [atWork, begin, releaseSlot, List.count_append]
    omega
  | @settled place task pool htask hqueue hhandling =>
    -- A task that went wrong was told of twice, but done once.
    refine ⟨haccepted, by simpa only [hqueue] using horder, fun x => ?_, fun x => ?_⟩
    · have hx := hdequeued x
      have herase := count_eraseIdx_add htask x
      simp only [atWork, hhandling, tasksDone_append, tasksDone_settled, List.count_append]
      omega
    · simpa using hrejected x
  | @handedBack task queue _ _ hqueue =>
    refine ⟨haccepted, fun hgone => ?_, fun x => ?_, fun x => ?_⟩
    · simpa [hqueue] using horder hgone
    · have hx := hdequeued x
      simp only [atWork, handling_refuse, tasksDone_append, tasksDone_rejected, List.count_append,
        List.append_nil]
      omega
    · have hx := hrejected x
      simp only [tasksRefused_append, tasksRefused_rejected, List.count_append]
      omega
  | locked _ hqueue hhandling =>
    refine ⟨haccepted, by simpa only [hqueue] using horder, fun x => ?_, hrejected⟩
    simpa [atWork, hhandling] using hdequeued x
  | lost =>
    refine ⟨haccepted, by simp, fun x => ?_, hrejected⟩
    simpa [atWork] using hdequeued x

theorem Reachable.ledger {name : String} {workers capacity : Nat}
    (hr : Reachable h (.new name workers capacity) r) : r.Ledger := by
  induction hr with
  | start => exact ⟨rfl, fun _ => rfl, fun _ => rfl, fun _ => rfl⟩
  | next m _ hs ih => exact ih.change (change_of_step hs)

/-! ### No task is lost -/

/-- A pool has lost no task and done none twice. -/
structure Conserves (r : Race τ) : Prop where
  /-- The application is handed back a task once for every submit that turned it away, and once for
  every time that a stop took it out of the queue. -/
  refused (x : τ) : (tasksRefused r.past.calls).count x =
    (tasksTurnedAway r.past.returned).count x + r.past.handedBack.count x
  /-- A task is at one place for every submit that accepted it. -/
  placed (x : τ) : (tasksAccepted r.past.returned).count x =
    r.pool.queue.count x + r.atWork.count x + (tasksDone r.past.calls).count x +
      r.past.handedBack.count x
  /-- Tasks leave the queue in the order in which they were queued. -/
  order : tasksAccepted r.past.returned = r.past.dequeued ++ r.pool.queue
  /-- A worker is at one task. -/
  workers : r.atWork.length ≤ r.alive

theorem Ledger.conserves (hr : r.Ledger) (hstaffed : r.Staffed) (hgone : r.gone = false) :
    r.Conserves where
  refused := hr.rejected
  placed x := by
    rw [hr.accepted, hr.order hgone, List.count_append, hr.dequeued x]
    omega
  order := by rw [hr.accepted, hr.order hgone]
  workers := by
    have hworkers := hstaffed.workers
    rw [atWork, List.length_append]
    omega

/-- **No task is lost or done twice**, whatever the callbacks do and in whatever order the threads
take their steps.  A task of one submit that returned an error was handed back once and is not done.
A task of one submit that was accepted is at one place: in the queue, with a worker, done once, or
handed back once.  When a stop ends that no submit overlapped, it is one of the last two. -/
theorem conserves_tasks {name : String} {workers capacity : Nat}
    (hr : Reachable h (.new name workers capacity) r) (hgone : r.gone = false) :
    r.Conserves ∧
      (∀ x, (tasksTurnedAway r.past.returned).count x = 1 →
        (tasksAccepted r.past.returned).count x = 0 →
        (tasksRefused r.past.calls).count x = 1 ∧ (tasksDone r.past.calls).count x = 0) ∧
      (∀ x, (tasksAccepted r.past.returned).count x = 1 →
        (tasksTurnedAway r.past.returned).count x = 0 →
        r.pool.queue.count x + r.atWork.count x + (tasksDone r.past.calls).count x +
          (tasksRefused r.past.calls).count x = 1) ∧
      ∀ again moves s, r.submits = [] → (∀ task, .enter task ∉ moves) →
        r.run h (.dismiss again :: (moves ++ [.reset])) = some s →
        s.Conserves ∧ s.pool.queue = [] ∧ s.atWork = [] ∧
          ∀ x, (tasksAccepted s.past.returned).count x = 1 →
            (tasksTurnedAway s.past.returned).count x = 0 →
            (tasksDone s.past.calls).count x + (tasksRefused s.past.calls).count x = 1 := by
  have hconserves := hr.ledger.conserves hr.staffed hgone
  refine ⟨hconserves, fun x haway haccepted => ?_, fun x haccepted haway => ?_, ?_⟩
  · have hrefused := hconserves.refused x
    have hplaced := hconserves.placed x
    omega
  · have hrefused := hconserves.refused x
    have hplaced := hconserves.placed x
    omega
  · intro again moves s hsubmits hm hs
    obtain ⟨hqueue, hwork, hgone'⟩ := empty_of_reset hr.staffed hsubmits hm hs
    have hs' := hr.run hs
    have hstopped := hs'.ledger.conserves hs'.staffed hgone'
    refine ⟨hstopped, hqueue, hwork, fun x haccepted haway => ?_⟩
    have hrefused := hstopped.refused x
    have hplaced := hstopped.placed x
    rw [hqueue, hwork, List.count_nil] at hplaced
    omega

/-- Every callback panics. -/
def panicking : Handler Nat := ⟨fun _ => some (.panicked "boom"), fun _ _ => true, fun _ => true⟩

/-- A task before the start, a task that a worker takes, and a task that waits behind it. -/
def threeSubmits : List (Move Nat) :=
  [.enter 1, .checkRunning 0] ++
    [.dismiss true, .join, .sweep, .reset, .reopen, .spawn, .finishStart] ++
    submitMoves 2 ++ [.look, .take, .release 0] ++ submitMoves 3

/-- The first task is turned away, the worker gets done with the second, and the stop finds the
third. -/
theorem conserves_tasks_panicking : ∃ r s : Race Nat,
    (Race.new (.new "pool" 1 1)).run panicking threeSubmits = some r ∧
      r.run panicking [.dismiss false, .settle 0, .look, .join, .handBack, .sweep, .reset] =
        some s ∧
      tasksTurnedAway r.past.returned = [1] ∧ tasksAccepted r.past.returned = [2, 3] ∧
      r.pool.queue = [3] ∧ r.atWork = [2] ∧ s.past.handedBack = [3] ∧
      (tasksRefused r.past.calls).count 1 = 1 ∧
      r.pool.queue.count 3 + r.atWork.count 3 + (tasksDone r.past.calls).count 3 +
        (tasksRefused r.past.calls).count 3 = 1 ∧
      (tasksDone s.past.calls).count 2 + (tasksRefused s.past.calls).count 2 = 1 ∧
      tasksDone s.past.calls = [2] ∧ tasksRefused s.past.calls = [1, 3] := by
  have hall := fun (r : Race Nat)
      (hr : (Race.new (.new "pool" 1 1)).run panicking threeSubmits = some r)
      (hgone : r.gone = false) => conserves_tasks (Reachable.run .start hr) hgone
  obtain ⟨-, haway, hplaced, hstop⟩ := hall _ rfl rfl
  obtain ⟨-, -, -, hstopped⟩ :=
    hstop false [.settle 0, .look, .join, .handBack, .sweep] _ rfl (by simp) rfl
  exact ⟨_, _, rfl, rfl, rfl, rfl, rfl, rfl, rfl, (haway 1 rfl rfl).1, hplaced 3 rfl rfl,
    hstopped 2 rfl rfl, rfl, rfl⟩

end Race
end Pool
end WebSocket
