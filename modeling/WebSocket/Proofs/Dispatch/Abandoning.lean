import WebSocket.Proofs.Dispatch.AtRest
import WebSocket.Proofs.Dispatch.Conservation

/-!
# A pool that is given up

A pool that is given up waits for its workers, as a stop does.  A stop then hands back what is still
queued, and a pool that is given up loses it.  Workers that had seen no reason to leave before they
were asked to may each take one task more.  All other tasks that were queued by then are lost: no
callback is ever called for them.

## Main definitions

* `Pool.Race.GivenUp` — a pool that was given up, with what workers have taken since.
* `Pool.Race.Wanes` — what a step can do to it.
* `Pool.Race.effort` — how much workers have to do before all of them have left.
* `Pool.Race.Shut` — a pool that takes in no task.

## Main results

* `Pool.calls_stop` — a stop calls what giving up calls, and hands back what is queued.
* `Pool.Race.GivenUp.wanes` — a step does nothing else.
* `Pool.Race.GivenUp.step`, `Pool.Race.GivenUp.run` — what workers leave behind.
* `Pool.Race.queue_eq_nil_of_stopped` — a pool that was stopped is empty.
* `Pool.Race.exists_gone` — a pool that is given up comes to its end.
* `Pool.Race.tasks_of_abandon` — **which tasks are settled when a pool is gone.**
-/

namespace WebSocket

namespace Pool

variable {τ : Type} {h : Handler τ}

/-! ### One call after the other -/

theorem calls_refuseAll (p : Pool τ) :
    PoolEffect.calls (p.refuseAll h).effects = p.queue.map Call.rejected := by
  have hall : ∀ (tasks : List τ) (s : Step τ),
      PoolEffect.calls (s.forEach tasks fun task p => refuse h task p).effects =
        PoolEffect.calls s.effects ++ tasks.map Call.rejected := by
    intro tasks
    induction tasks with
    | nil => exact fun s => (List.append_nil _).symm
    | cons task tasks ih =>
      intro s
      have hrest := ih (s.andThen fun p => refuse h task p)
      have hfirst : PoolEffect.calls (s.andThen fun p => refuse h task p).effects =
          PoolEffect.calls s.effects ++ [.rejected task] :=
        (PoolEffect.calls_append _ _).trans (congrArg _ (calls_refuse h task s.pool))
      rw [hfirst, List.append_assoc] at hrest
      exact hrest
  exact hall p.queue ⟨{ p with queue := [] }, []⟩

/-- **A stop calls what giving up calls, and hands back what is queued**, which giving up does
not. -/
theorem calls_stop (p : Pool τ) :
    PoolEffect.calls (p.stop h).effects =
      PoolEffect.calls (p.abandon h).effects ++ p.queue.map Call.rejected := by
  obtain ⟨errors, hjoined⟩ := pool_join (h := h) p.dismiss
  have hqueue : (p.dismiss.join h).pool.queue = p.queue := by
    rw [hjoined]
    rfl
  have hlog : ∀ n : Notice,
      PoolEffect.calls (if p.running then [PoolEffect.notice n] else ([] : List (PoolEffect τ))) =
        [] := by
    intro n
    split <;> rfl
  show PoolEffect.calls (((p.dismiss.join h).effects ++
      ((p.dismiss.join h).pool.refuseAll h).effects) ++ if p.running then [.notice _] else []) =
    PoolEffect.calls ((p.dismiss.join h).effects ++ []) ++ _
  rw [PoolEffect.calls_append, PoolEffect.calls_append, calls_refuseAll, hqueue, hlog,
    List.append_nil, List.append_nil]

namespace Race

variable {m : Move τ} {moves : List (Move τ)} {r s t : Race τ} {served left : List τ}

/-! ### What workers leave behind -/

/-- A pool that was given up, since when workers have taken some of what was queued and left the
rest. -/
structure GivenUp (r : Race τ) (served left : List τ) (s : Race τ) : Prop where
  holder : s.holder = .abandoning
  submits : s.submits = []
  stopping : s.pool.stopping = true
  queue : r.pool.queue = served ++ left
  waiting : s.gone = false → s.pool.queue = left
  gone : s.gone = true → s.pool.queue = [] ∧ s.alive = 0
  /-- Each task was taken by a worker that had seen no reason to leave. -/
  looking : served.length + s.looking ≤ r.looking
  dequeued : s.past.dequeued = r.past.dequeued ++ served
  handedBack : s.past.handedBack = r.past.handedBack
  returned : s.past.returned = r.past.returned

/-- A pool is only given up when no call is in progress. -/
theorem quiet_of_abandon (hs : r.step h .abandon = some s) :
    r.Quiet ∧ s = { r with pool := r.pool.dismiss, holder := .abandoning } := by
  simp only [step, lockStep] at hs
  split at hs
  all_goals try contradiction
  next hholder =>
    split at hs
    · next hquiet =>
      obtain ⟨hsubmits, hrestarts⟩ : r.submits = [] ∧ r.restarts = 0 := by simpa using hquiet
      exact ⟨⟨hsubmits, hholder, hrestarts⟩, (Option.some.inj hs).symm⟩
    · simp at hs

/-- A pool whose lock nobody holds is still there. -/
theorem Staffed.gone_eq_false (hr : r.Staffed) (hholder : r.holder = .nobody) : r.gone = false := by
  rw [← Bool.not_eq_true]
  intro hgone
  exact absurd (hr.gone hgone) (by simp [hholder])

theorem givenUp_of_abandon (hstaffed : r.Staffed) (hs : r.step h .abandon = some s) :
    GivenUp r [] r.pool.queue s := by
  obtain ⟨⟨hsubmits, hholder, -⟩, rfl⟩ := quiet_of_abandon hs
  refine ⟨rfl, hsubmits, rfl, rfl, fun _ => rfl, fun hgone => ?_, ?_, ?_, rfl, rfl⟩
  · exact absurd (hstaffed.gone_eq_false hholder) (by simpa using hgone)
  · exact Nat.le_of_eq (Nat.zero_add _)
  · exact (List.append_nil _).symm

/-- What a step can do to a pool that was given up. -/
inductive Wanes (s : Race τ) : Race τ → Prop
  /-- A worker leaves. -/
  | left : s.idle ≠ 0 → Wanes s { s with alive := s.alive - 1 }
  /-- A worker finds nothing in the queue. -/
  | missed : s.looking ≠ 0 → Wanes s { s with looking := s.looking - 1 }
  /-- A worker takes what waits first. -/
  | took {task : τ} {queue : List τ} : s.looking ≠ 0 → s.pool.queue = task :: queue →
      Wanes s { s with
        looking := s.looking - 1
        pool := { s.pool with queue }
        taken := s.taken ++ [task]
        past := { s.past with dequeued := s.past.dequeued ++ [task] } }
  /-- A worker begins with the task that it took. -/
  | began {place : Nat} {task : τ} : place < s.taken.length →
      Wanes s { s with
        pool := s.pool.releaseSlot.begin task
        taken := s.taken.eraseIdx place }
  /-- A worker gets done with its task. -/
  | settled {place errors : Nat} {calls : List (Call τ)} : place < s.pool.handling.length →
      Wanes s { s with
        pool := { s.pool with handling := s.pool.handling.eraseIdx place, errors }
        past := { s.past with calls } }
  /-- All workers have left, and the queue is lost. -/
  | lost : s.alive = 0 → Wanes s { s with pool := { s.pool with queue := [] }, gone := true }

/-- **Only workers take steps any more**, until the pool is gone. -/
theorem GivenUp.wanes (hg : GivenUp r served left s) (hs : s.step h m = some t) : Wanes s t := by
  cases m with
  | enter task => simp [Race.step, hg.holder] at hs
  | checkRunning | checkRoom | retry | giveUp | count | append =>
    simp [Race.step, hg.submits] at hs
  | look =>
    simp only [Race.step, look, hg.stopping] at hs
    split at hs
    · simp at hs
    · next hidle =>
      obtain rfl : { s with alive := s.alive - 1 } = t := by simpa using hs
      exact .left hidle
  | take =>
    simp only [Race.step, take] at hs
    split at hs
    · simp at hs
    · next hlooking =>
      split at hs
      · obtain rfl := Option.some.inj hs
        exact .missed hlooking
      · next task pool hdequeue =>
        obtain rfl := Option.some.inj hs
        obtain ⟨queue, hqueue, rfl⟩ := dequeue?_eq_some hdequeue
        exact .took hlooking hqueue
  | release place =>
    obtain ⟨task, htask, rfl⟩ := Option.map_eq_some_iff.1 hs
    exact .began (List.getElem?_eq_some_iff.1 htask).1
  | settle place =>
    simp only [Race.step] at hs
    split at hs
    · next hplace =>
      obtain rfl := Option.some.inj hs
      obtain ⟨errors, hfinished⟩ := pool_finish (h := h) s.pool place
      rw [work, hfinished]
      exact .settled hplace
    · simp at hs
  | lose =>
    simp only [Race.step, lockStep, hg.holder] at hs
    split at hs
    · next halive =>
      obtain rfl := Option.some.inj hs
      have hlost := Wanes.lost halive
      rwa [hg.holder] at hlost
    · simp at hs
  | dismiss | join | handBack | sweep | reset | reopen | spawn | finishStart | spawnFails
  | abandon =>
    simp [Race.step, lockStep, hg.holder] at hs

/-- While something waits, the pool is still there, and what waits is what was left. -/
theorem GivenUp.left_eq (hg : GivenUp r served left s) {task : τ} {queue : List τ}
    (hqueue : s.pool.queue = task :: queue) : s.gone = false ∧ left = task :: queue := by
  have hhere : s.gone = false := by
    rw [← Bool.not_eq_true]
    intro hgone
    exact absurd (hg.gone hgone).1 (by simp [hqueue])
  exact ⟨hhere, (hg.waiting hhere).symm.trans hqueue⟩

/-- **What one step leaves behind.** -/
theorem GivenUp.step (hg : GivenUp r served left s) (hw : Wanes s t) :
    ∃ served left, GivenUp r served left t := by
  have hlooking := hg.looking
  cases hw with
  | left =>
    refine ⟨served, left, { hg with gone := fun hgone => ?_ }⟩
    obtain ⟨hempty, halive⟩ := hg.gone hgone
    exact ⟨hempty, by simp [halive]⟩
  | missed =>
    refine ⟨served, left, { hg with looking := ?_ }⟩
    exact Nat.le_trans (Nat.add_le_add_left (Nat.sub_le _ _) _) hlooking
  | @took task queue hlooks hqueue =>
    obtain ⟨hhere, rfl⟩ := hg.left_eq hqueue
    refine ⟨served ++ [task], queue, { hg with
      queue := ?_, waiting := fun _ => rfl, gone := ?_, looking := ?_, dequeued := ?_ }⟩
    · rw [hg.queue, List.append_assoc, List.singleton_append]
    · intro hgone
      exact absurd hhere (by simpa using hgone)
    · show (served ++ [task]).length + (s.looking - 1) ≤ r.looking
      rw [List.length_append, List.length_singleton]
      omega
    · show s.past.dequeued ++ [task] = _
      rw [hg.dequeued, List.append_assoc]
  | began => exact ⟨served, left, { hg with }⟩
  | settled => exact ⟨served, left, { hg with }⟩
  | lost halive =>
    exact ⟨served, left, { hg with waiting := by simp, gone := fun _ => ⟨rfl, halive⟩ }⟩

/-- **What any steps leave behind.** -/
theorem GivenUp.run (hg : GivenUp r served left s) (hs : s.run h moves = some t) :
    ∃ served left, GivenUp r served left t := by
  refine run_keeps (P := fun s => ∃ served left, GivenUp r served left s) ?_ ⟨served, left, hg⟩ hs
  rintro s t m - ⟨served, left, hg⟩ hstep
  exact hg.step (hg.wanes hstep)

/-! ### The end -/

/-- How much workers have to do before all of them have left. -/
def effort (r : Race τ) : Nat :=
  r.idle + 2 * r.pool.handling.length + 3 * r.taken.length + 4 * r.looking

/-- Every step brings the end nearer, as long as there is a worker. -/
theorem Wanes.effort_lt (hw : Wanes s t) (hstaffed : s.Staffed) (halive : s.alive ≠ 0) :
    t.effort < s.effort := by
  have hworkers := hstaffed.workers
  cases hw with
  | left hidle =>
    simp only [effort, idle] at hidle ⊢
    omega
  | missed =>
    simp only [effort, idle]
    omega
  | took =>
    simp only [effort, idle, List.length_append, List.length_singleton]
    omega
  | began hplace =>
    simp only [effort, idle, begin, releaseSlot, List.length_append, List.length_singleton,
      List.length_eraseIdx_of_lt hplace]
    omega
  | settled hplace =>
    simp only [effort, idle, List.length_eraseIdx_of_lt hplace]
    omega
  | lost hleft => exact absurd hleft halive

/-- Some worker can go on as long as there is one. -/
theorem GivenUp.exists_step (hg : GivenUp r served left s) (halive : s.alive ≠ 0)
    (h : Handler τ) : ∃ m, (s.step h m).isSome := by
  by_cases hhandling : 0 < s.pool.handling.length
  · exact ⟨.settle 0, by simp [Race.step, hhandling]⟩
  by_cases htaken : 0 < s.taken.length
  · exact ⟨.release 0, by simp [Race.step, List.getElem?_eq_getElem htaken]⟩
  by_cases hlooking : s.looking = 0
  · -- All workers are at nothing, and leave.
    have hidle : s.idle ≠ 0 := by
      simp only [idle]
      omega
    exact ⟨.look, by simp [Race.step, look, hidle, hg.stopping]⟩
  · refine ⟨.take, ?_⟩
    simp only [Race.step, take, if_neg hlooking]
    split <;> rfl

/-- Workers can go on until the pool is gone.  The induction is on what they have to do. -/
theorem GivenUp.exists_run (hg : GivenUp r served left s) (hstaffed : s.Staffed)
    (h : Handler τ) : ∃ moves t, s.run h moves = some t ∧ t.gone = true := by
  induction heffort : s.effort using Nat.strongRecOn generalizing s served left with
  | ind n ih =>
    by_cases halive : s.alive = 0
    · refine ⟨[.lose], { s with pool := { s.pool with queue := [] }, gone := true }, ?_, rfl⟩
      refine run_cons.2 ⟨_, ?_, rfl⟩
      simp [Race.step, lockStep, hg.holder, halive]
    · obtain ⟨m, hsome⟩ := hg.exists_step halive h
      obtain ⟨t, ht⟩ := Option.isSome_iff_exists.1 hsome
      have hw := hg.wanes ht
      have hless := hw.effort_lt hstaffed halive
      obtain ⟨served, left, hnext⟩ := hg.step hw
      obtain ⟨moves, u, hu, hgone⟩ := ih t.effort (heffort ▸ hless) hnext
        (hstaffed.change (change_of_step ht)) rfl
      exact ⟨m :: moves, u, run_cons.2 ⟨t, ht, hu⟩, hgone⟩

/-- **A pool that is given up comes to its end**: when no call is in progress, it can be given up,
and workers can go on until all of them have left. -/
theorem exists_gone (hr : r.Staffed) (hquiet : r.Quiet) (h : Handler τ) :
    ∃ moves s, r.run h (.abandon :: moves) = some s ∧ s.gone = true := by
  obtain ⟨hsubmits, hholder, hrestarts⟩ := hquiet
  have habandon : r.step h .abandon =
      some { r with pool := r.pool.dismiss, holder := .abandoning } := by
    simp [Race.step, lockStep, hsubmits, hholder, hrestarts]
  have hstaffed := hr.change (change_of_step habandon)
  obtain ⟨moves, s, hs, hgone⟩ := (givenUp_of_abandon hr habandon).exists_run hstaffed h
  exact ⟨moves, s, run_cons.2 ⟨_, habandon, hs⟩, hgone⟩

/-! ### A pool that takes in no task -/

/-- A pool that takes in no task: it does not run, and no submit has found it running.  A stop that
has found its queue empty leaves it so. -/
structure Shut (r : Race τ) : Prop where
  running : r.pool.running = false
  submits : ∀ sub ∈ r.submits, sub.stage = .entered
  swept : ∀ again, r.holder = .sweeping again → r.pool.queue = []

/-- While something waits, no stop has found the queue empty. -/
theorem Shut.holder_ne_sweeping (hr : r.Shut) {task : τ} {queue : List τ}
    (hqueue : r.pool.queue = task :: queue) (again : Bool) : r.holder ≠ .sweeping again := by
  intro hagain
  exact absurd (hr.swept again hagain) (by simp [hqueue])

theorem Shut.lockStep (hr : r.Shut) (hm : m ≠ .reopen) (hs : r.lockStep h m = some s) :
    s.Shut ∧ s.pool.queue <:+ r.pool.queue := by
  have hrefl : r.pool.queue <:+ r.pool.queue := List.suffix_refl _
  unfold Race.lockStep at hs
  split at hs
  · obtain rfl := Option.some.inj hs
    exact ⟨⟨rfl, hr.submits, by simp⟩, hrefl⟩
  · split at hs
    · obtain rfl := Option.some.inj hs
      exact ⟨⟨hr.running, hr.submits, by simp⟩, hrefl⟩
    · simp at hs
  · -- What waits first is handed back.
    unfold Race.handBack at hs
    split at hs
    · simp at hs
    · next task pool hdequeue =>
      obtain rfl := Option.some.inj hs
      obtain ⟨queue, hqueue, rfl⟩ := dequeue?_eq_some hdequeue
      refine ⟨⟨hr.running, hr.submits, fun again hagain => ?_⟩, ?_⟩
      · exact absurd hagain (hr.holder_ne_sweeping hqueue again)
      · rw [hqueue]
        exact List.suffix_cons task queue
  · split at hs
    · next hempty =>
      obtain rfl := Option.some.inj hs
      exact ⟨⟨hr.running, hr.submits, fun _ _ => List.isEmpty_iff.1 hempty⟩, hrefl⟩
    · simp at hs
  · obtain rfl := Option.some.inj hs
    exact ⟨⟨hr.running, hr.submits, by simp [reset]⟩, hrefl⟩
  · exact absurd rfl hm
  · obtain rfl := Option.some.inj hs
    exact ⟨⟨hr.running, hr.submits, by simp⟩, hrefl⟩
  · obtain rfl := Option.some.inj hs
    exact ⟨⟨hr.running, hr.submits, by simp⟩, hrefl⟩
  · obtain rfl := Option.some.inj hs
    exact ⟨⟨hr.running, hr.submits, by simp⟩, hrefl⟩
  · split at hs
    · obtain rfl := Option.some.inj hs
      exact ⟨⟨rfl, hr.submits, by simp⟩, hrefl⟩
    · simp at hs
  · split at hs
    · obtain rfl := Option.some.inj hs
      exact ⟨⟨hr.running, hr.submits, fun _ _ => rfl⟩, List.nil_suffix⟩
    · simp at hs
  · simp at hs

/-- Only a start can change this, and until then the queue only becomes shorter. -/
theorem Shut.step (hr : r.Shut) (hm : m ≠ .reopen) (hs : r.step h m = some s) :
    s.Shut ∧ s.pool.queue <:+ r.pool.queue := by
  have ⟨hrunning, hsubmits, hswept⟩ := hr
  have hrefl : r.pool.queue <:+ r.pool.queue := List.suffix_refl _
  cases m with
  | enter task =>
    simp only [Race.step] at hs
    split at hs
    · simp at hs
    · obtain rfl := Option.some.inj hs
      refine ⟨⟨hrunning, ?_, hswept⟩, hrefl⟩
      rw [List.forall_mem_append, List.forall_mem_singleton]
      exact ⟨hsubmits, rfl⟩
  | checkRunning place =>
    -- A submit finds that the pool does not run.
    obtain ⟨sub, hsub, hs⟩ := Option.bind_eq_some_iff.1 hs
    have hstage := hsubmits sub (List.mem_of_getElem? hsub)
    simp only [submitStep, hstage, hrunning] at hs
    obtain rfl := Option.some.inj hs
    refine ⟨⟨hrunning, fun other hother => ?_, hswept⟩, hrefl⟩
    exact hsubmits other (List.mem_of_mem_eraseIdx hother)
  | checkRoom | retry | giveUp | count | append =>
    obtain ⟨sub, hsub, hs⟩ := Option.bind_eq_some_iff.1 hs
    have hstage := hsubmits sub (List.mem_of_getElem? hsub)
    simp [submitStep, hstage] at hs
  | look =>
    simp only [Race.step, look] at hs
    split at hs
    · simp at hs
    · split at hs
      all_goals
        obtain rfl := Option.some.inj hs
        exact ⟨⟨hrunning, hsubmits, hswept⟩, hrefl⟩
  | take =>
    simp only [Race.step, take] at hs
    split at hs
    · simp at hs
    · split at hs
      · obtain rfl := Option.some.inj hs
        exact ⟨⟨hrunning, hsubmits, hswept⟩, hrefl⟩
      · next task pool hdequeue =>
        obtain rfl := Option.some.inj hs
        obtain ⟨queue, hqueue, rfl⟩ := dequeue?_eq_some hdequeue
        refine ⟨⟨hrunning, hsubmits, fun again hagain => ?_⟩, ?_⟩
        · exact absurd hagain (hr.holder_ne_sweeping hqueue again)
        · rw [hqueue]
          exact List.suffix_cons task queue
  | release place =>
    obtain ⟨task, -, rfl⟩ := Option.map_eq_some_iff.1 hs
    exact ⟨⟨hrunning, hsubmits, hswept⟩, hrefl⟩
  | settle place =>
    simp only [Race.step] at hs
    split at hs
    · obtain rfl := Option.some.inj hs
      obtain ⟨errors, hfinished⟩ := pool_finish (h := h) r.pool place
      have hqueue : (r.pool.finish h place).pool.queue = r.pool.queue := by rw [hfinished]
      refine ⟨⟨?_, hsubmits, fun again hagain => ?_⟩, ?_⟩
      · simpa [work, hfinished] using hrunning
      · exact hqueue.trans (hswept again hagain)
      · exact hqueue ▸ hrefl
    · simp at hs
  | reopen => exact absurd rfl hm
  | dismiss | join | handBack | sweep | reset | spawn | finishStart | spawnFails | abandon | lose =>
    exact hr.lockStep hm hs

/-- **A pool that was stopped is empty until it is started again**, if no submit had found it
running before it was stopped. -/
theorem queue_eq_nil_of_stopped {again : Bool} {mid later : List (Move τ)}
    (hsubmits : ∀ sub ∈ r.submits, sub.stage = .entered) (hmid : .reopen ∉ mid)
    (hlater : .reopen ∉ later)
    (hs : r.run h (.dismiss again :: (mid ++ .reset :: later)) = some s) : s.pool.queue = [] := by
  have hkeeps : ∀ {moves : List (Move τ)} {s t : Race τ}, .reopen ∉ moves → s.Shut →
      s.run h moves = some t → t.Shut ∧ t.pool.queue <:+ s.pool.queue := by
    intro moves s t hmoves hshut ht
    refine run_keeps (P := fun t => t.Shut ∧ t.pool.queue <:+ s.pool.queue) ?_
      ⟨hshut, List.suffix_refl _⟩ ht
    rintro t u m hm ⟨hshut, hsuffix⟩ hstep
    obtain ⟨hnext, hshorter⟩ := hshut.step (ne_of_mem_of_not_mem hm hmoves) hstep
    exact ⟨hnext, hshorter.trans hsuffix⟩
  obtain ⟨t, hdismiss, hs⟩ := run_cons.1 hs
  obtain ⟨u, hu, hs⟩ := run_append.1 hs
  obtain ⟨v, hreset, hs⟩ := run_cons.1 hs
  have ht : t.Shut := by
    simp only [Race.step, Race.lockStep] at hdismiss
    split at hdismiss
    all_goals try contradiction
    obtain rfl := Option.some.inj hdismiss
    exact ⟨rfl, hsubmits, by simp⟩
  obtain ⟨hshut, -⟩ := hkeeps hmid ht hu
  -- The stop can only end when it has found the queue empty.
  obtain ⟨restarts, hholder⟩ : ∃ restarts, u.holder = .sweeping restarts := by
    simp only [Race.step, Race.lockStep] at hreset
    split at hreset <;> simp_all
  have hends : (Move.reset : Move τ) ≠ .reopen := by simp
  obtain ⟨hv, hshorter⟩ := hshut.step hends hreset
  rw [hshut.swept restarts hholder, List.suffix_nil] at hshorter
  obtain ⟨-, hsuffix⟩ := hkeeps hlater hv hs
  rwa [hshorter, List.suffix_nil] at hsuffix

/-! ### The tasks -/

variable [DecidableEq τ]

/-- **Which tasks are settled when a pool is gone**, whatever the callbacks do and in whatever order
the threads took their steps.  When a pool is given up, workers take some of what is queued, at most
one task for each worker that was about to look into the queue, and what is left is lost.  Workers
get done with what they are at and what they take; nothing is handed back.  So a task of one submit
that was accepted is done once or handed back once unless it is among those that are lost.  After a
stop none is, if no submit had found the pool running before it was stopped, and it was not started
again. -/
theorem tasks_of_abandon {name : String} {workers capacity : Nat}
    (hr : Reachable h (.new name workers capacity) r)
    (hs : r.run h (.abandon :: moves) = some s) (hgone : s.gone = true) :
    ∃ served lost, r.pool.queue = served ++ lost ∧ served.length ≤ r.looking ∧
      s.past.returned = r.past.returned ∧
      s.submits = [] ∧ s.pool.queue = [] ∧ s.atWork = [] ∧
      (∀ x, (tasksDone s.past.calls).count x =
        (tasksDone r.past.calls).count x + r.atWork.count x + served.count x) ∧
      (∀ x, (tasksRefused s.past.calls).count x = (tasksRefused r.past.calls).count x) ∧
      (∀ x, (tasksAccepted s.past.returned).count x +
          (tasksTurnedAway s.past.returned).count x =
        (tasksDone s.past.calls).count x + (tasksRefused s.past.calls).count x + lost.count x) ∧
      (∀ x, (tasksAccepted s.past.returned).count x = 1 →
        (tasksTurnedAway s.past.returned).count x = 0 →
        ((tasksDone s.past.calls).count x + (tasksRefused s.past.calls).count x = 1 ↔
          x ∉ lost)) ∧
      ∀ (p : Race τ) again mid later, (∀ sub ∈ p.submits, sub.stage = .entered) →
        .reopen ∉ mid → .reopen ∉ later →
        p.run h (.dismiss again :: (mid ++ .reset :: later)) = some r → lost = [] := by
  obtain ⟨t, habandon, hafter⟩ := run_cons.1 hs
  obtain ⟨served, lost, hg⟩ := (givenUp_of_abandon hr.staffed habandon).run hafter
  have hs' := hr.run hs
  have hbefore := hr.ledger
  have hledger := hs'.ledger
  obtain ⟨hempty, halive⟩ := hg.gone hgone
  have hwork : s.atWork = [] := hs'.staffed.atWork_eq_nil halive
  have hhere : r.gone = false := hr.staffed.gone_eq_false (quiet_of_abandon habandon).1.2.1
  have hdone : ∀ x, (tasksDone s.past.calls).count x =
      (tasksDone r.past.calls).count x + r.atWork.count x + served.count x := by
    intro x
    have hx := hledger.dequeued x
    have hxr := hbefore.dequeued x
    rw [hg.dequeued, hg.handedBack, hwork, List.count_append, List.count_nil] at hx
    omega
  have hrefused : ∀ x, (tasksRefused s.past.calls).count x =
      (tasksRefused r.past.calls).count x := by
    intro x
    rw [hledger.rejected, hbefore.rejected, hg.returned, hg.handedBack]
  have hall : ∀ x, (tasksAccepted s.past.returned).count x +
        (tasksTurnedAway s.past.returned).count x =
      (tasksDone s.past.calls).count x + (tasksRefused s.past.calls).count x + lost.count x := by
    intro x
    have hx := hbefore.dequeued x
    rw [hg.returned, hbefore.accepted, hbefore.order hhere, hg.queue, hdone, hrefused,
      hbefore.rejected, List.count_append, List.count_append, hx]
    omega
  refine ⟨served, lost, hg.queue, Nat.le_of_add_right_le hg.looking, hg.returned, hg.submits,
    hempty, hwork, hdone, hrefused, hall, ?_, ?_⟩
  · intro x haccepted haway
    have hx := hall x
    rw [← List.count_eq_zero]
    omega
  · intro p again mid later hsubmits hmid hlater hp
    have hqueue := queue_eq_nil_of_stopped hsubmits hmid hlater hp
    exact (List.append_eq_nil_iff.1 (hg.queue.symm.trans hqueue)).2

/-- Two tasks wait for one worker, which is about to look into the queue. -/
def twoQueued : List (Move Nat) :=
  [.dismiss true, .join, .sweep, .reset, .reopen, .spawn, .finishStart] ++
    submitMoves 1 ++ submitMoves 2 ++ [.look]

/-- The worker takes the first task and gets done with it; the second one is lost. -/
theorem tasks_of_abandon_twoQueued : ∃ r s : Race Nat,
    Reachable panicking (.new "pool" 1 10) r ∧
      r.run panicking [.abandon, .take, .release 0, .settle 0, .look, .lose] = some s ∧
      s.gone = true ∧ r.pool.queue = [1, 2] ∧ r.looking = 1 ∧
      tasksDone s.past.calls = [1] ∧ tasksRefused s.past.calls = [] ∧
      ∃ served lost, [1, 2] = served ++ lost ∧ served.length ≤ 1 ∧ 1 ∉ lost ∧ 2 ∈ lost := by
  obtain ⟨r, hrun, s, hs, hgone, hqueue, hlooking, hdone, hrefused, haccepted, haway⟩ :
      ∃ r, (Race.new (.new "pool" 1 10)).run panicking twoQueued = some r ∧
        ∃ s, r.run panicking [.abandon, .take, .release 0, .settle 0, .look, .lose] = some s ∧
          s.gone = true ∧ r.pool.queue = [1, 2] ∧ r.looking = 1 ∧
          tasksDone s.past.calls = [1] ∧ tasksRefused s.past.calls = [] ∧
          tasksAccepted s.past.returned = [1, 2] ∧ tasksTurnedAway s.past.returned = [] :=
    ⟨_, rfl, _, rfl, rfl, rfl, rfl, rfl, rfl, rfl, rfl⟩
  have hr : Reachable panicking (.new "pool" 1 10) r := Reachable.run .start hrun
  obtain ⟨served, lost, hsplit, hserved, -, -, -, -, -, -, -, hsettled, -⟩ :=
    tasks_of_abandon hr hs hgone
  rw [hqueue] at hsplit
  rw [hlooking] at hserved
  rw [haccepted, haway, hdone, hrefused] at hsettled
  refine ⟨r, s, hr, hs, hgone, hqueue, hlooking, hdone, hrefused, served, lost, hsplit, hserved,
    (hsettled 1 rfl rfl).1 rfl, ?_⟩
  rw [← Decidable.not_not (p := 2 ∈ lost), ← hsettled 2 rfl rfl]
  decide

/-- **A task is lost**: it is accepted, and no callback is ever called for it. -/
theorem not_settled_of_gone :
    ¬ ∀ (h : Handler Nat) (r : Race Nat), Reachable h (.new "pool" 1 10) r → r.gone = true →
      ∀ x, (tasksAccepted r.past.returned).count x = 1 →
        (tasksTurnedAway r.past.returned).count x = 0 →
        (tasksDone r.past.calls).count x + (tasksRefused r.past.calls).count x = 1 := by
  intro hall
  obtain ⟨r, hrun, hgone, haccepted, haway, hcalls⟩ :
      ∃ r, (Race.new (.new "pool" 1 10)).run panicking
          ([.dismiss true, .join, .sweep, .reset, .reopen, .spawn, .finishStart] ++
            submitMoves 1 ++ [.abandon, .look, .lose]) = some r ∧
        r.gone = true ∧ tasksAccepted r.past.returned = [1] ∧
        tasksTurnedAway r.past.returned = [] ∧ r.past.calls = [] :=
    ⟨_, rfl, rfl, rfl, rfl, rfl⟩
  have hone := hall panicking r (Reachable.run .start hrun) hgone 1
  rw [haccepted, haway, hcalls] at hone
  exact absurd (hone rfl rfl) (by decide)

end Race

end Pool

end WebSocket
