import WebSocket.Proofs.Dispatch.AtRest
import WebSocket.Proofs.Dispatch.Conservation

/-!
# What a shared pool counts

A submit counts its task before it queues it, and a worker takes the task off the count after it
has taken it out of the queue.  A stop counts afresh, without asking who is in between: a submit
that has counted its task by then queues a task that is not counted.  From then on the count is too
small, and a worker may find nothing to take its task off.

What matters are a few figures.  Every step of a thread changes them in one of nine ways, and what
is known of the count is kept by each of these.

## Main definitions

* `Pool.Race.Figures`, `Pool.Race.figures` — the figures that belong to the count.
* `Pool.Race.Figures.Change` — what a step can do to them.
* `Pool.Race.Audit` — a pool, with what has to be remembered to judge its count.
* `Pool.Race.Figures.Sound` — what every step keeps.

## Main results

* `Pool.Race.figures_of_step` — a step does nothing else.
* `Pool.Race.Figures.Sound.change`, `Pool.Race.Audit.Sound.run` — the invariant holds in every
  order.
* `Pool.Race.count_in_every_order` — **how far the count can be from what is there.**
-/

namespace WebSocket

namespace Pool

variable {τ : Type}

/-- The submit has seen room and has not counted its task. -/
def Stage.isAdmitted : Stage → Bool
  | .admitted => true
  | .entered | .waiting | .crowded | .counted _ => false

/-- The submit has counted its task and has not queued it. -/
def Stage.isCounted : Stage → Bool
  | .counted _ => true
  | .entered | .waiting | .crowded | .admitted => false

namespace Race

/-- Counting starts afresh. -/
def Move.resets : Move τ → Bool
  | .reset => true
  | _ => false

/-- The submits at some of the stages. -/
def atStage (isIn : Stage → Bool) (r : Race τ) : Nat := r.submits.countP fun s => isIn s.stage

/-- The tasks that are to be counted: those that wait, those that workers took and have not taken
off the count, those that the stop at work has handed back, and those about to be queued. -/
def present (r : Race τ) : Nat := r.pool.queue.length + r.taken.length + r.drained + r.counted

theorem counted_eq_atStage (r : Race τ) : r.counted = r.atStage Stage.isCounted := by
  rw [counted, atStage, List.countP_eq_length_filter]
  congr 2
  funext s
  cases s.stage <;> rfl

/-! ### Figures -/

/-- The figures that belong to the count. -/
structure Figures where
  capacity : Nat
  length : Nat
  peak : Nat
  /-- The tasks that wait. -/
  queued : Nat
  /-- The tasks that workers took and that still count. -/
  taken : Nat
  /-- The tasks that the stop at work has handed back. -/
  drained : Nat
  /-- The submits that have seen room. -/
  admitted : Nat
  /-- The submits that have counted their tasks. -/
  counted : Nat
  gone : Bool

/-- The figures of a pool. -/
def figures (r : Race τ) : Figures where
  capacity := r.pool.capacity
  length := r.pool.length
  peak := r.pool.peak
  queued := r.pool.queue.length
  taken := r.taken.length
  drained := r.drained
  admitted := r.atStage Stage.isAdmitted
  counted := r.atStage Stage.isCounted
  gone := r.gone

namespace Figures

/-- What a step can do to the figures, and whether it makes counting start afresh. -/
inductive Change (f : Figures) : Bool → Figures → Prop
  /-- They stay. -/
  | stays {admitted counted : Nat} : admitted = f.admitted → counted = f.counted →
      Change f false { f with admitted, counted }
  /-- A submit sees room. -/
  | admits {admitted counted : Nat} : f.length < f.capacity → admitted = f.admitted + 1 →
      counted = f.counted → Change f false { f with admitted, counted }
  /-- A submit counts its task. -/
  | counts {admitted counted : Nat} : admitted + 1 = f.admitted → counted = f.counted + 1 →
      Change f false { f with
        length := f.length + 1
        peak := max f.peak (f.length + 1)
        admitted
        counted }
  /-- A submit queues its task. -/
  | queues {queued admitted counted : Nat} : queued = f.queued + 1 → admitted = f.admitted →
      counted + 1 = f.counted → Change f false { f with queued, admitted, counted }
  /-- A worker takes a task. -/
  | takes {queued taken : Nat} : queued + 1 = f.queued → taken = f.taken + 1 →
      Change f false { f with queued, taken }
  /-- A worker takes its task off the count. -/
  | releases {taken : Nat} : taken + 1 = f.taken →
      Change f false { f with taken, length := f.length - 1 }
  /-- A stop hands a task back. -/
  | handsBack {queued : Nat} : queued + 1 = f.queued →
      Change f false { f with queued, drained := f.drained + 1 }
  /-- Counting starts afresh, when no worker is at work. -/
  | resets : f.taken = 0 → Change f true { f with length := 0, peak := 0, drained := 0 }
  /-- The queue is lost with the pool. -/
  | loses : Change f false { f with queued := 0, gone := true }

/-- The tasks that are to be counted. -/
def present (f : Figures) : Nat := f.queued + f.taken + f.drained + f.counted

/-- What is known of the figures, when at most `k` submits were in progress at once, and
`overlooked` tasks were to be counted when counting last started afresh. -/
structure Sound (k overlooked : Nat) (f : Figures) : Prop where
  /-- What is counted is there. -/
  covered : f.gone = false → f.length ≤ f.present
  /-- What is there and is not counted was overlooked. -/
  excess : f.present ≤ f.length + overlooked
  /-- The submits that have seen room are within the bound already. -/
  room : f.length + f.admitted ≤ f.capacity + k - 1
  peak : f.peak ≤ f.capacity + k - 1

variable {f g : Figures} {k l overlooked : Nat} {afresh : Bool}

/-- What is counted is there, as long as the queue is. -/
theorem Change.covered (hc : f.Change afresh g) (hgone : g.gone = false)
    (hf : f.gone = false → f.length ≤ f.present) : g.length ≤ g.present := by
  cases hc with
  | loses => simp at hgone
  | _ =>
    have hlength := hf hgone
    simp only [present] at *
    omega

/-- What is there and is not counted does not become more, until counting starts afresh. -/
theorem Change.excess (hc : f.Change false g) :
    g.present - g.length ≤ f.present - f.length := by
  cases hc <;> simp only [present] <;> omega

/-- Nothing is taken off a count of zero. -/
theorem Change.length (hc : f.Change afresh g) :
    g.length = f.length ∨ g.length = f.length + 1 ∨ g.length + 1 = f.length ∨
      afresh = true ∧ g.length = 0 := by
  cases hc with
  | counts => exact .inr (.inl rfl)
  | releases =>
    rcases Nat.eq_zero_or_pos f.length with hzero | hpos
    · exact .inl (by simp [hzero])
    · exact .inr (.inr (.inl (Nat.sub_add_cancel hpos)))
  | resets => exact .inr (.inr (.inr ⟨rfl, rfl⟩))
  | stays | admits | queues | takes | handsBack | loses => exact .inl rfl

/-- When counting starts afresh, what waits and what is about to be queued is overlooked. -/
theorem Change.present_of_afresh (hc : f.Change true g) : g.present = f.counted + f.queued := by
  cases hc with
  | resets hidle =>
    simp only [present, hidle]
    omega

/-- What is counted and the submits that have seen room do not grow together, unless one more sees
room: and then the count is below the capacity. -/
theorem Change.room (hc : f.Change afresh g) : g.capacity = f.capacity ∧
    (g.length + g.admitted ≤ f.length + f.admitted ∨ g.length < f.capacity) ∧
    (g.peak ≤ f.peak ∨ g.peak ≤ f.length + f.admitted) := by
  cases hc <;> simp only [true_and] <;> omega

/-- **What every step keeps.**  A submit that sees room is one of those in progress, and what it saw
is below the capacity. -/
theorem Sound.change (hf : f.Sound k overlooked) (hc : f.Change afresh g) (hk : k ≤ l)
    (hl : g.admitted ≤ l) :
    g.Sound l (if afresh then f.counted + f.queued else overlooked) := by
  obtain ⟨hcovered, hexcess, hroom, hpeak⟩ := hf
  obtain ⟨hcapacity, hseen, hmost⟩ := hc.room
  refine ⟨fun hgone => hc.covered hgone hcovered, ?_, ?_, ?_⟩
  · cases afresh with
    | false =>
      have hmore := hc.excess
      show g.present ≤ g.length + overlooked
      omega
    | true => exact Nat.le_trans (Nat.le_of_eq hc.present_of_afresh) (Nat.le_add_left _ _)
  · omega
  · omega

end Figures

section

variable {h : Handler τ} {m : Move τ} {r s : Race τ}

theorem countP_cons_toNat (isIn : Submit τ → Bool) (s : Submit τ) (submits : List (Submit τ)) :
    (s :: submits).countP isIn = submits.countP isIn + (isIn s).toNat := by
  rw [List.countP_cons]
  cases isIn s <;> rfl

/-- Only the submit at the place is another one. -/
theorem countP_set {submits : List (Submit τ)} {place : Nat} {old : Submit τ}
    (hold : submits[place]? = some old) (new : Submit τ) (isIn : Submit τ → Bool) :
    (submits.set place new).countP isIn + (isIn old).toNat =
      submits.countP isIn + (isIn new).toNat := by
  obtain ⟨hplace, rfl⟩ := List.getElem?_eq_some_iff.1 hold
  rw [← (List.getElem_cons_eraseIdx_perm hplace).countP_eq,
    (List.set_perm_cons_eraseIdx hplace new).countP_eq, countP_cons_toNat, countP_cons_toNat]
  omega

/-- Only the submit at the place is gone. -/
theorem countP_eraseIdx {submits : List (Submit τ)} {place : Nat} {old : Submit τ}
    (hold : submits[place]? = some old) (isIn : Submit τ → Bool) :
    (submits.eraseIdx place).countP isIn + (isIn old).toNat = submits.countP isIn := by
  obtain ⟨hplace, rfl⟩ := List.getElem?_eq_some_iff.1 hold
  rw [← (List.getElem_cons_eraseIdx_perm hplace).countP_eq, countP_cons_toNat]

/-- A submit that goes on is counted where it comes to, and no longer where it was. -/
theorem atStage_goOn {place : Nat} {sub : Submit τ} (hsub : r.submits[place]? = some sub)
    (pool : Pool τ) (stage : Stage) (isIn : Stage → Bool) :
    (({ r with pool } : Race τ).goOn place sub stage).atStage isIn + (isIn sub.stage).toNat =
      r.atStage isIn + (isIn stage).toNat :=
  countP_set hsub { sub with stage } fun s => isIn s.stage

/-- A submit that ends is no longer counted. -/
theorem atStage_finish {place : Nat} {sub : Submit τ} (hsub : r.submits[place]? = some sub)
    (past : History τ) (step : Pool.Step τ) (result : Except DispatchError Unit)
    (isIn : Stage → Bool) :
    ((({ r with past } : Race τ).work step).finish place sub result).atStage isIn +
      (isIn sub.stage).toNat = r.atStage isIn :=
  countP_eraseIdx hsub fun s => isIn s.stage

/-- The step of a submit. -/
theorem figures_of_submitStep {place : Nat} {sub : Submit τ}
    (hsub : r.submits[place]? = some sub) (hs : r.submitStep h m place sub = some s) :
    r.figures.Change false s.figures := by
  have hgo := atStage_goOn hsub
  have hend := atStage_finish hsub
  unfold submitStep at hs
  split at hs
  · next hstage =>
    rw [hstage] at hgo hend
    split at hs
    · obtain rfl := Option.some.inj hs
      exact .stays (hgo r.pool .waiting Stage.isAdmitted) (hgo r.pool .waiting Stage.isCounted)
    · obtain rfl := Option.some.inj hs
      exact .stays (hend r.past _ _ Stage.isAdmitted) (hend r.past _ _ Stage.isCounted)
  · next hstage =>
    rw [hstage] at hgo
    split at hs
    · obtain rfl := Option.some.inj hs
      exact .stays (hgo r.pool .crowded Stage.isAdmitted) (hgo r.pool .crowded Stage.isCounted)
    · next hroom =>
      obtain rfl := Option.some.inj hs
      have hlt : r.pool.length < r.pool.capacity := by simpa [isFull] using hroom
      exact .admits hlt (hgo r.pool .admitted Stage.isAdmitted)
        (hgo r.pool .admitted Stage.isCounted)
  · next hstage =>
    rw [hstage] at hgo
    obtain rfl := Option.some.inj hs
    exact .stays (hgo r.pool .waiting Stage.isAdmitted) (hgo r.pool .waiting Stage.isCounted)
  · next hstage =>
    rw [hstage] at hend
    obtain rfl := Option.some.inj hs
    exact .stays (hend r.past _ _ Stage.isAdmitted) (hend r.past _ _ Stage.isCounted)
  · next hstage =>
    rw [hstage] at hgo
    obtain rfl := Option.some.inj hs
    exact .counts (hgo r.pool.count (.counted (r.pool.length + 1)) Stage.isAdmitted)
      (hgo r.pool.count (.counted (r.pool.length + 1)) Stage.isCounted)
  · next length hstage =>
    rw [hstage] at hend
    obtain rfl := Option.some.inj hs
    exact .queues List.length_append (hend _ _ _ Stage.isAdmitted) (hend _ _ _ Stage.isCounted)
  · simp at hs

theorem figures_of_handBack (hs : r.handBack h = some s) : r.figures.Change false s.figures := by
  unfold handBack at hs
  split at hs
  · simp at hs
  · next task q hq =>
    obtain rfl := Option.some.inj hs
    obtain ⟨queue, hqueue, rfl⟩ := dequeue?_eq_some hq
    exact .handsBack (congrArg List.length hqueue).symm

/-- The steps of whoever holds the lock.  When counting starts afresh, all workers have left. -/
theorem figures_of_lockStep (hr : r.Staffed) (hs : r.lockStep h m = some s) :
    r.figures.Change m.resets s.figures := by
  unfold lockStep at hs
  split at hs
  case h_3 => exact figures_of_handBack hs
  case h_5 again hholder =>
    obtain rfl := Option.some.inj hs
    have hwork : r.atWork = [] := hr.atWork_eq_nil (hr.left (by simp [hholder, Holder.closes]))
    exact .resets (List.length_eq_zero_iff.2 (List.append_eq_nil_iff.1 hwork).1)
  case h_1 | h_7 | h_8 | h_9 =>
    obtain rfl := Option.some.inj hs
    exact .stays rfl rfl
  case h_2 | h_4 | h_6 | h_10 =>
    -- These steps wait for something.
    split at hs <;> first
      | obtain rfl := Option.some.inj hs
        exact .stays rfl rfl
      | simp at hs
  case h_11 =>
    split at hs
    · obtain rfl := Option.some.inj hs
      exact .loses
    · simp at hs
  case h_12 => simp at hs

theorem figures_of_look (hs : r.look = some s) : r.figures.Change false s.figures := by
  unfold look at hs
  split at hs
  · simp at hs
  · split at hs
    · obtain rfl := Option.some.inj hs
      exact .stays rfl rfl
    · obtain rfl := Option.some.inj hs
      exact .stays rfl rfl

theorem figures_of_take (hs : r.take = some s) : r.figures.Change false s.figures := by
  unfold take at hs
  split at hs
  · simp at hs
  · simp only at hs
    split at hs
    · obtain rfl := Option.some.inj hs
      exact .stays rfl rfl
    · next task q hq =>
      obtain rfl := Option.some.inj hs
      obtain ⟨queue, hqueue, rfl⟩ := dequeue?_eq_some hq
      exact .takes (congrArg List.length hqueue).symm List.length_append

/-- A worker gets done with a task that does not count any more. -/
theorem figures_of_settle (place : Nat) :
    r.figures.Change false (r.work (r.pool.finish h place)).figures := by
  obtain ⟨handling, errors, hfinish⟩ :
      ∃ handling errors, (r.pool.finish h place).pool = { r.pool with handling, errors } := by
    unfold Pool.finish
    split
    · exact ⟨r.pool.handling, r.pool.errors, rfl⟩
    · next task htask =>
      obtain ⟨errors, hsettle⟩ :=
        pool_settle (h := h) task { r.pool with handling := r.pool.handling.eraseIdx place }
      exact ⟨_, errors, hsettle⟩
  simp only [figures, work, hfinish]
  exact .stays rfl rfl

/-- **A step does nothing else.** -/
theorem figures_of_step (hr : r.Staffed) (hs : r.step h m = some s) :
    r.figures.Change m.resets s.figures := by
  cases m with
  | enter task =>
    simp only [step] at hs
    split at hs
    · simp at hs
    · obtain rfl := Option.some.inj hs
      exact .stays List.countP_append List.countP_append
  | checkRunning | checkRoom | retry | giveUp | count | append =>
    obtain ⟨sub, hsub, hs⟩ := Option.bind_eq_some_iff.1 hs
    exact figures_of_submitStep hsub hs
  | look => exact figures_of_look hs
  | take => exact figures_of_take hs
  | release place =>
    obtain ⟨task, htask, rfl⟩ := Option.map_eq_some_iff.1 hs
    obtain ⟨hplace, -⟩ := List.getElem?_eq_some_iff.1 htask
    refine .releases ?_
    rw [List.length_eraseIdx_of_lt hplace]
    exact Nat.sub_add_cancel (Nat.zero_lt_of_lt hplace)
  | settle place =>
    simp only [step] at hs
    split at hs
    · obtain rfl := Option.some.inj hs
      exact figures_of_settle place
    · simp at hs
  | dismiss | join | handBack | sweep | reset | reopen | spawn | finishStart | spawnFails | abandon
  | lose => exact figures_of_lockStep hr hs

end

theorem figures_counted (r : Race τ) : r.figures.counted = r.counted :=
  (counted_eq_atStage r).symm

theorem present_figures (r : Race τ) : r.figures.present = r.present := by
  rw [Figures.present, figures_counted]
  rfl

/-! ### Every order of the steps -/

/-- A pool, with what has to be remembered to judge its count. -/
structure Audit (τ : Type) where
  race : Race τ
  /-- The most submits that were in progress at once. -/
  busiest : Nat
  /-- The submits that had counted their tasks, with the tasks not out of the queue yet, when
  counting last started afresh. -/
  overlooked : Nat

namespace Audit

/-- A pool that no thread has touched. -/
def new (p : Pool τ) : Audit τ := ⟨.new p, 0, 0⟩

/-- One step of some thread, if it can be taken. -/
def step (h : Handler τ) (m : Move τ) (a : Audit τ) : Option (Audit τ) :=
  (a.race.step h m).map fun r =>
    { race := r
      busiest := max a.busiest r.submits.length
      overlooked :=
        if m.resets then a.race.counted + a.race.pool.queue.length else a.overlooked }

/-- The steps of a given order, if all of them can be taken. -/
def run (h : Handler τ) (moves : List (Move τ)) (a : Audit τ) : Option (Audit τ) :=
  moves.foldlM (fun a m => a.step h m) a

variable {h : Handler τ} {m : Move τ} {moves : List (Move τ)} {a b : Audit τ} {capacity : Nat}

theorem run_cons : a.run h (m :: moves) = some b ↔
    ∃ c, a.step h m = some c ∧ c.run h moves = some b := by
  simp [Audit.run, Option.bind_eq_some_iff]

/-- Remembering changes nothing: the steps are those of the pool.  The induction is on them. -/
theorem race_run (h : Handler τ) (moves : List (Move τ)) (a : Audit τ) :
    (a.run h moves).map race = a.race.run h moves := by
  induction moves generalizing a with
  | nil => rfl
  | cons m moves ih =>
    simp only [Audit.run, Race.run, List.foldlM_cons, Audit.step] at ih ⊢
    cases a.race.step h m with
    | none => rfl
    | some r => exact ih _

/-- What is known of a pool and its count. -/
structure Sound (capacity : Nat) (a : Audit τ) : Prop where
  fixed : a.race.pool.capacity = capacity
  staffed : a.race.Staffed
  figures : a.race.figures.Sound a.busiest a.overlooked

theorem sound_new (name : String) (workers capacity : Nat) :
    Sound capacity (new (.new name workers capacity) : Audit τ) where
  fixed := rfl
  staffed := ⟨Nat.le_refl 0, fun _ => rfl, fun hgone => nomatch hgone⟩
  figures := ⟨fun _ => Nat.le_refl 0, Nat.le_refl 0, Nat.zero_le _, Nat.zero_le _⟩

theorem Sound.step (ha : a.Sound capacity) (hs : a.step h m = some b) : b.Sound capacity := by
  obtain ⟨r, hr, rfl⟩ := Option.map_eq_some_iff.1 hs
  have hchange := figures_of_step ha.staffed hr
  refine ⟨hchange.room.1.trans ha.fixed, ha.staffed.change (change_of_step hr), ?_⟩
  have hadmitted : r.figures.admitted ≤ r.submits.length := List.countP_le_length
  have hsound := ha.figures.change hchange (Nat.le_max_left a.busiest _)
    (Nat.le_trans hadmitted (Nat.le_max_right a.busiest _))
  rwa [figures_counted] at hsound

/-- **The invariant holds in every order.**  The induction is on the steps. -/
theorem Sound.run (ha : a.Sound capacity) (hs : a.run h moves = some b) : b.Sound capacity := by
  induction moves generalizing a with
  | nil =>
    obtain rfl : a = b := by simpa [Audit.run] using hs
    exact ha
  | cons m moves ih =>
    obtain ⟨c, hc, hs⟩ := run_cons.1 hs
    exact ih (ha.step hc) hs

end Audit

/-- **How far the count can be from what is there**, in every order of the steps of submits,
workers, starts and stops.  A step adds one to the count, or takes one off a count that is not
zero, or leaves it, or starts afresh; and it never gets too long for its 64 bits.  What is counted
is there: it waits, or a worker took it and has yet to take it off the count, or the stop at work
has handed it back, or a submit is about to queue it.  What of this is not counted are no more
tasks than the submits that the last fresh start of the counting overlooked, and they do not become
more until the next.  And the length goes over the capacity by less than the number of submits that
were in progress at once. -/
theorem count_in_every_order {h : Handler τ} {moves : List (Move τ)} {r : Race τ} {name : String}
    {workers capacity : Nat} (hr : (new (.new name workers capacity)).run h moves = some r) :
    ∃ a, (Audit.new (.new name workers capacity)).run h moves = some a ∧ a.race = r ∧
      (∀ m s, r.step h m = some s →
        s.pool.length = r.pool.length ∨ s.pool.length = r.pool.length + 1 ∨
          s.pool.length + 1 = r.pool.length ∨ m.resets = true ∧ s.pool.length = 0) ∧
      (capacity + a.busiest ≤ UInt64.size → r.pool.length < UInt64.size) ∧
      (r.gone = false → r.pool.length ≤ r.present) ∧
      r.present - r.pool.length ≤ a.overlooked ∧
      (∀ m s, r.step h m = some s → m.resets = false →
        s.present - s.pool.length ≤ r.present - r.pool.length) ∧
      r.pool.peak ≤ capacity + a.busiest - 1 := by
  obtain ⟨a, hrun, rfl⟩ : ∃ a, (Audit.new (.new name workers capacity)).run h moves = some a ∧
      a.race = r := Option.map_eq_some_iff.1 ((Audit.race_run h moves _).trans hr)
  have ha := (Audit.sound_new name workers capacity).run hrun
  obtain ⟨hcovered, hexcess, hroom, hpeak⟩ := ha.figures
  have hfixed : a.race.figures.capacity = capacity := ha.fixed
  rw [hfixed] at hroom hpeak
  rw [present_figures] at hcovered hexcess
  refine ⟨a, hrun, rfl, fun m s hs => (figures_of_step ha.staffed hs).length, fun hfits => ?_,
    hcovered, Nat.sub_le_iff_le_add'.2 hexcess, fun m s hs hm => ?_, hpeak⟩
  · change a.race.pool.length + a.race.figures.admitted ≤ capacity + a.busiest - 1 at hroom
    have hpos : 0 < UInt64.size := by decide
    omega
  · have hchange := figures_of_step ha.staffed hs
    rw [hm] at hchange
    have hmore := hchange.excess
    rwa [present_figures, present_figures] at hmore

/-- A submit that counts its task before a stop and queues it after the next start, and the worker
that takes it. -/
def overtaken : List (Move Nat) :=
  [.dismiss true, .join, .sweep, .reset, .reopen, .spawn, .finishStart] ++
    [.enter 9, .checkRunning 0, .checkRoom 0, .count 0] ++
    [.dismiss true, .look, .join, .sweep, .reset, .reopen, .spawn, .finishStart] ++
    [.append 0, .look, .take]

/-- The task is there and is not counted, so the worker has nothing to take it off, and afterwards
what is there is counted again. -/
theorem count_in_every_order_overtaken : ∃ (r s : Race Nat) (overlooked : Nat),
    (new (.new "pool" 1 1)).run panicking overtaken = some r ∧
      r.taken = [9] ∧ r.pool.length = 0 ∧ r.present - r.pool.length = 1 ∧
      r.present - r.pool.length ≤ overlooked ∧ overlooked = 1 ∧ r.pool.length ≤ r.present ∧
      r.pool.peak ≤ 1 ∧ r.step panicking (.release 0) = some s ∧
      s.pool.length = 0 ∧ s.present - s.pool.length = 0 := by
  have hrun : (new (.new "pool" 1 1)).run panicking overtaken = some _ := rfl
  obtain ⟨a, ha, -, -, -, hcovered, hexcess, -, hpeak⟩ := count_in_every_order hrun
  obtain rfl := Option.some.inj ha
  exact ⟨_, _, _, rfl, rfl, rfl, rfl, hexcess, rfl, hcovered rfl, hpeak, rfl, rfl, rfl⟩

end Race
end Pool
end WebSocket
