import WebSocket.Proofs.Dispatch.Conservation

/-!
# How many workers a shared pool has

A start stops the pool, lets go of the lock on the list of workers, and takes it again to start as
many workers as the pool is to have.  No worker leaves before the next stop.  So two starts that
have both stopped the pool before either of them starts its workers leave twice as many behind.

What decides it are a few figures, and how many starts have begun with their workers since the last
stop.

## Main definitions

* `Pool.Race.Crew`, `Pool.Race.crew` — the figures that belong to the workers and the lock.
* `Pool.Race.begunSinceStop` — how many starts have begun with their workers since the last stop.
* `Pool.Race.Crew.Change` — what a step can do to the figures and to this count.
* `Pool.Race.Crew.Sound` — what every step keeps.

## Main results

* `Pool.Race.crew_of_step` — a step does nothing else.
* `Pool.Race.Crew.Sound.change`, `Pool.Race.crew_sound_run` — the invariant holds in every order.
* `Pool.Race.workers_in_every_order` — **how many workers live when no start or stop is at work**.
-/

namespace WebSocket

namespace Pool

variable {τ : Type}

namespace Race

/-- What a step does to the count of the starts that have begun with their workers since the last
stop. -/
def Move.startsBegun (begun : Nat) : Move τ → Nat
  | .dismiss _ => 0
  | .reopen => begun + 1
  | _ => begun

/-- How many starts have begun with their workers since the last stop. -/
def begunSinceStop (moves : List (Move τ)) : Nat := moves.foldl Move.startsBegun 0

/-! ### Figures -/

/-- The figures that belong to the workers and the lock on their list. -/
structure Crew where
  /-- How many workers the pool is to have. -/
  workers : Nat
  alive : Nat
  running : Bool
  stopping : Bool
  holder : Holder
  restarts : Nat

/-- The figures of a pool. -/
def crew (r : Race τ) : Crew where
  workers := r.pool.workers
  alive := r.alive
  running := r.pool.running
  stopping := r.pool.stopping
  holder := r.holder
  restarts := r.restarts

namespace Crew

/-- What a step can do to the figures, and to the count of the starts that have begun with their
workers. -/
inductive Change (c : Crew) (begun : Nat) : Nat → Crew → Prop
  | stays : Change c begun begun c
  /-- A worker is asked to leave, and does. -/
  | left : c.stopping = true → c.alive ≠ 0 →
      Change c begun begun { c with alive := c.alive - 1 }
  /-- A stop begins, or the first half of a start. -/
  | dismissed (again : Bool) : c.holder = .nobody →
      Change c begun 0 { c with running := false, stopping := true, holder := .joining again }
  /-- All workers have left. -/
  | joined {again : Bool} : c.holder = .joining again → c.alive = 0 →
      Change c begun begun { c with holder := .draining again }
  /-- Nothing is left to be handed back. -/
  | swept {again : Bool} : c.holder = .draining again →
      Change c begun begun { c with holder := .sweeping again }
  /-- A stop ends, or the first half of a start. -/
  | ended {again : Bool} : c.holder = .sweeping again →
      Change c begun begun { c with
        holder := .nobody
        restarts := if again then c.restarts + 1 else c.restarts }
  /-- The second half of a start begins. -/
  | reopened {restarts : Nat} : c.holder = .nobody → restarts + 1 = c.restarts →
      Change c begun (begun + 1) { c with
        running := true
        stopping := false
        holder := .spawning c.workers
        restarts }
  | spawned {missing : Nat} : c.holder = .spawning (missing + 1) →
      Change c begun begun { c with alive := c.alive + 1, holder := .spawning missing }
  /-- A start has started all its workers. -/
  | started : c.holder = .spawning 0 → Change c begun begun { c with holder := .nobody }
  /-- The pool is given up. -/
  | abandoned : c.holder = .nobody →
      Change c begun begun { c with running := false, stopping := true, holder := .abandoning }

/-- What is known of the workers, by who holds the lock. -/
def Sound (begun : Nat) (c : Crew) : Prop :=
  match c.holder with
  | .nobody =>
    c.alive = c.workers * begun ∧ (c.running = true ↔ 0 < begun) ∧
      (0 < begun → c.stopping = false)
  | .spawning missing =>
    c.alive + missing = c.workers * begun ∧ 0 < begun ∧ c.running = true ∧ c.stopping = false
  | .joining _ => begun = 0 ∧ c.running = false
  | .draining _ | .sweeping _ => begun = 0 ∧ c.running = false ∧ c.alive = 0
  | .abandoning => True

variable {c d : Crew} {begun after most : Nat}

/-- No step changes how many workers the pool is to have. -/
theorem Change.workers (hc : c.Change begun after d) : d.workers = c.workers := by
  cases hc <;> rfl

/-- A worker only leaves while a stop waits for it, or the pool is given up. -/
theorem Sound.left (hc : c.Sound begun) (hstopping : c.stopping = true) (halive : c.alive ≠ 0) :
    (∃ again, c.holder = .joining again) ∨ c.holder = .abandoning := by
  unfold Sound at hc
  split at hc
  · next hholder =>
    -- If a start had begun with its workers, none would be asked to leave; else there is none.
    obtain ⟨hworkers, -, hstays⟩ := hc
    rcases Nat.eq_zero_or_pos begun with rfl | hpos
    · exact absurd hworkers halive
    · rw [hstays hpos] at hstopping
      contradiction
  · rw [hc.2.2.2] at hstopping
    contradiction
  · next again hholder => exact .inl ⟨again, hholder⟩
  · exact absurd hc.2.2 halive
  · exact absurd hc.2.2 halive
  · next hholder => exact .inr hholder

/-- **What every step keeps.** -/
theorem Sound.change (hsound : c.Sound begun) (hc : c.Change begun after d) : d.Sound after := by
  cases hc with
  | stays => exact hsound
  | left hstopping halive =>
    rcases hsound.left hstopping halive with ⟨again, hholder⟩ | hholder
    · simp only [Sound, hholder] at hsound ⊢
      exact hsound
    · simp only [Sound, hholder]
  | dismissed again => exact ⟨rfl, rfl⟩
  | joined hholder halive =>
    simp only [Sound, hholder] at hsound
    exact ⟨hsound.1, hsound.2, halive⟩
  | swept hholder =>
    simp only [Sound, hholder] at hsound
    exact hsound
  | ended hholder =>
    simp only [Sound, hholder] at hsound
    obtain ⟨rfl, hrunning, halive⟩ := hsound
    exact ⟨halive, by simp [hrunning], fun hpos => absurd hpos (Nat.lt_irrefl 0)⟩
  | reopened hholder =>
    simp only [Sound, hholder] at hsound
    refine ⟨?_, Nat.succ_pos begun, rfl, rfl⟩
    show c.alive + c.workers = c.workers * (begun + 1)
    rw [hsound.1, Nat.mul_succ]
  | spawned hholder =>
    simp only [Sound, hholder] at hsound
    refine ⟨?_, hsound.2⟩
    rw [← hsound.1, Nat.add_right_comm, Nat.add_assoc]
  | started hholder =>
    simp only [Sound, hholder] at hsound
    obtain ⟨halive, hpos, hrunning, hstays⟩ := hsound
    exact ⟨halive, by simp [hrunning, hpos], fun _ => hstays⟩
  | abandoned => trivial

/-- The starts that have begun with their workers, and those that are between their two halves, do
not get more together, unless a stop has just ended: and then none has begun. -/
theorem Change.overlap (hc : c.Change begun after d) (hsound : c.Sound begun)
    (hmost : begun + c.restarts ≤ most) (hd : d.restarts ≤ most) : after + d.restarts ≤ most := by
  cases hc with
  | stays | left | joined | swept | spawned | started | abandoned => exact hmost
  | dismissed => exact Nat.le_trans (Nat.add_le_add_right (Nat.zero_le begun) _) hmost
  | ended hholder =>
    simp only [Sound, hholder] at hsound
    obtain ⟨rfl, -, -⟩ := hsound
    rwa [Nat.zero_add]
  | reopened _ hrestarts =>
    rw [Nat.add_right_comm, Nat.add_assoc, hrestarts]
    exact hmost

end Crew

/-! ### The steps -/

section

variable {h : Handler τ} {m : Move τ} {r s : Race τ} {begun most : Nat}

/-- A submit leaves workers and the lock alone. -/
theorem crew_of_submitStep {place : Nat} {sub : Submit τ}
    (hs : r.submitStep h m place sub = some s) : s.crew = r.crew := by
  unfold submitStep at hs
  split at hs
  case h_1 =>
    split at hs
    · obtain rfl := Option.some.inj hs
      rfl
    · obtain rfl := Option.some.inj hs
      rfl
  case h_7 => simp at hs
  all_goals
    obtain rfl := Option.some.inj hs
    rfl

theorem crew_of_handBack (hs : r.handBack h = some s) : s.crew = r.crew := by
  unfold handBack at hs
  split at hs
  · simp at hs
  · next task q hq =>
    obtain rfl := Option.some.inj hs
    obtain ⟨queue, -, rfl⟩ := dequeue?_eq_some hq
    rfl

/-- A worker that is asked to leave does so when it next looks. -/
theorem crew_of_look (hs : r.look = some s) : r.crew.Change begun begun s.crew := by
  unfold look at hs
  split at hs
  · simp at hs
  · next hidle =>
    split at hs
    · next hstopping =>
      obtain rfl := Option.some.inj hs
      refine .left hstopping fun halive => hidle ?_
      have hzero : r.alive = 0 := halive
      simp only [idle, hzero, Nat.zero_sub]
    · obtain rfl := Option.some.inj hs
      exact .stays

theorem crew_of_take (hs : r.take = some s) : s.crew = r.crew := by
  unfold take at hs
  split at hs
  · simp at hs
  · simp only at hs
    split at hs
    · obtain rfl := Option.some.inj hs
      rfl
    · next task q hq =>
      obtain rfl := Option.some.inj hs
      obtain ⟨queue, -, rfl⟩ := dequeue?_eq_some hq
      rfl

/-- A worker that gets done with a task stays. -/
theorem crew_of_settle (place : Nat) : (r.work (r.pool.finish h place)).crew = r.crew := by
  simp only [work, Pool.finish, crew]
  split
  · rfl
  · simp only [settle]
    split <;> rfl

/-- The steps of whoever holds the lock. -/
theorem crew_of_lockStep (hm : m ≠ .spawnFails) (hs : r.lockStep h m = some s) :
    r.crew.Change begun (m.startsBegun begun) s.crew := by
  unfold lockStep at hs
  split at hs
  · next again hholder =>
    obtain rfl := Option.some.inj hs
    exact .dismissed again hholder
  · next again hholder =>
    -- All workers have left.
    split at hs
    · next halive =>
      obtain rfl := Option.some.inj hs
      exact .joined hholder halive
    · simp at hs
  · rw [crew_of_handBack hs]
    exact .stays
  · next again hholder =>
    split at hs
    · obtain rfl := Option.some.inj hs
      exact .swept hholder
    · simp at hs
  · next again hholder =>
    obtain rfl := Option.some.inj hs
    exact .ended hholder
  · next hholder =>
    -- A start that is between its halves goes on with the second.
    split at hs
    · simp at hs
    · next hrestarts =>
      obtain rfl := Option.some.inj hs
      exact .reopened hholder (Nat.sub_add_cancel (Nat.pos_of_ne_zero hrestarts))
  · next missing hholder =>
    obtain rfl := Option.some.inj hs
    exact .spawned hholder
  · next hholder =>
    obtain rfl := Option.some.inj hs
    exact .started hholder
  · exact absurd rfl hm
  · next hholder =>
    split at hs
    · obtain rfl := Option.some.inj hs
      exact .abandoned hholder
    · simp at hs
  · split at hs
    · obtain rfl := Option.some.inj hs
      exact .stays
    · simp at hs
  · simp at hs

/-- **A step does nothing else**, as long as every worker can be started. -/
theorem crew_of_step (hm : m ≠ .spawnFails) (hs : r.step h m = some s) :
    r.crew.Change begun (m.startsBegun begun) s.crew := by
  cases m with
  | enter task =>
    simp only [step] at hs
    split at hs
    · simp at hs
    · obtain rfl := Option.some.inj hs
      exact .stays
  | checkRunning | checkRoom | retry | giveUp | count | append =>
    obtain ⟨sub, -, hs⟩ := Option.bind_eq_some_iff.1 hs
    rw [crew_of_submitStep hs]
    exact .stays
  | look => exact crew_of_look hs
  | take =>
    rw [crew_of_take hs]
    exact .stays
  | release place =>
    obtain ⟨task, -, rfl⟩ := Option.map_eq_some_iff.1 hs
    exact .stays
  | settle place =>
    simp only [step] at hs
    split at hs
    · obtain rfl := Option.some.inj hs
      rw [crew_of_settle]
      exact .stays
    · simp at hs
  | spawnFails => exact absurd rfl hm
  | dismiss | join | handBack | sweep | reset | reopen | spawn | finishStart | abandon | lose =>
    exact crew_of_lockStep hm hs

end

/-! ### Every order of the steps -/

section

variable {h : Handler τ} {moves : List (Move τ)} {r s : Race τ} {begun most : Nat}

/-- **The invariant holds in every order.**  The induction is on the steps. -/
theorem crew_sound_run (hmoves : .spawnFails ∉ moves) (hr : r.crew.Sound begun)
    (hs : r.run h moves = some s) :
    s.crew.Sound (moves.foldl Move.startsBegun begun) ∧ s.pool.workers = r.pool.workers := by
  induction moves generalizing r begun with
  | nil =>
    obtain rfl : r = s := by simpa [Race.run] using hs
    exact ⟨hr, rfl⟩
  | cons m moves ih =>
    obtain ⟨hm, hmoves⟩ := List.ne_and_not_mem_of_not_mem_cons hmoves
    obtain ⟨t, ht, hs⟩ := run_cons.1 hs
    have hchange : r.crew.Change begun _ t.crew := crew_of_step hm.symm ht
    obtain ⟨hsound, hworkers⟩ := ih hmoves (hr.change hchange) hs
    exact ⟨hsound, hworkers.trans hchange.workers⟩

/-- If at no point more than so many starts are between their two halves, then no more begin with
their workers between two stops.  The induction is on the steps. -/
theorem begun_le_of_overlap (hmoves : .spawnFails ∉ moves) (hr : r.crew.Sound begun)
    (hmost : begun + r.restarts ≤ most)
    (hoverlap : ∀ past t, past <+: moves → r.run h past = some t → t.restarts ≤ most)
    (hs : r.run h moves = some s) : moves.foldl Move.startsBegun begun + s.restarts ≤ most := by
  induction moves generalizing r begun with
  | nil =>
    obtain rfl : r = s := by simpa [Race.run] using hs
    exact hmost
  | cons m moves ih =>
    obtain ⟨hm, hmoves⟩ := List.ne_and_not_mem_of_not_mem_cons hmoves
    obtain ⟨t, ht, hs⟩ := run_cons.1 hs
    have hchange : r.crew.Change begun _ t.crew := crew_of_step hm.symm ht
    have hnext : t.restarts ≤ most :=
      hoverlap [m] t ⟨moves, rfl⟩ (run_cons.2 ⟨t, ht, rfl⟩)
    apply ih hmoves (hr.change hchange) (hchange.overlap hr hmost hnext) _ hs
    intro past u hpast hu
    exact hoverlap (m :: past) u ((List.prefix_cons_inj m).2 hpast) (run_cons.2 ⟨t, ht, hu⟩)

end

/-- **How many workers live when no start or stop is at work**, in every order of the steps of
submits, workers, starts and stops, if every worker can be started.  Each start that has begun with
its workers since the last stop has added as many as the pool is to have, and the pool runs exactly
if there is such a start.  There are no more such starts than starts that were between their two
halves at once.  So if no two starts ever are, then a pool that runs has exactly the workers that it
is to have, and a pool that does not run has none. -/
theorem workers_in_every_order {h : Handler τ} {moves : List (Move τ)} {r : Race τ} {name : String}
    {workers capacity : Nat} (hr : (new (.new name workers capacity)).run h moves = some r)
    (hmoves : .spawnFails ∉ moves) (hfree : r.holder = .nobody) :
    r.alive = workers * begunSinceStop moves ∧
      (r.pool.running = true ↔ 0 < begunSinceStop moves) ∧
      (∀ most, (∀ past t, past <+: moves → (new (.new name workers capacity)).run h past = some t →
        t.restarts ≤ most) → begunSinceStop moves ≤ most) ∧
      ((∀ past t, past <+: moves → (new (.new name workers capacity)).run h past = some t →
        t.restarts ≤ 1) → r.alive = if r.pool.running then workers else 0) := by
  have hnew : (new (.new name workers capacity) : Race τ).crew.Sound 0 :=
    ⟨rfl, by simp [crew, new, Pool.new], fun hpos => absurd hpos (Nat.lt_irrefl 0)⟩
  obtain ⟨hsound, hworkers⟩ := crew_sound_run hmoves hnew hr
  have hcrew : r.crew.holder = .nobody := hfree
  simp only [Crew.Sound, hcrew] at hsound
  obtain ⟨halive, hrunning, -⟩ := hsound
  change r.alive = r.pool.workers * begunSinceStop moves at halive
  change r.pool.running = true ↔ 0 < begunSinceStop moves at hrunning
  rw [hworkers] at halive
  change r.alive = workers * begunSinceStop moves at halive
  have hbegun : ∀ most, (∀ past t, past <+: moves →
      (new (.new name workers capacity)).run h past = some t → t.restarts ≤ most) →
      begunSinceStop moves ≤ most := fun most hoverlap =>
    Nat.le_of_add_right_le (begun_le_of_overlap hmoves hnew (Nat.zero_le most) hoverlap hr)
  refine ⟨halive, hrunning, hbegun, fun hoverlap => ?_⟩
  have hone := hbegun 1 hoverlap
  rw [halive]
  split
  · next hruns =>
    have hpos := hrunning.1 hruns
    rw [Nat.le_antisymm hone hpos, Nat.mul_one]
  · next hrests =>
    rw [hrunning, Nat.not_lt, Nat.le_zero] at hrests
    rw [hrests, Nat.mul_zero]

/-- A start, and another one after it, of a pool that is to have two workers. -/
def startedTwice : List (Move Nat) :=
  [.dismiss true, .join, .sweep, .reset, .reopen, .spawn, .spawn, .finishStart] ++
    [.dismiss true, .look, .look, .join, .sweep, .reset, .reopen, .spawn, .spawn, .finishStart]

/-- The workers of the first start have left, and the pool has those of the second. -/
theorem workers_in_every_order_startedTwice : ∃ r : Race Nat,
    (new (.new "pool" 2 4)).run panicking startedTwice = some r ∧ .spawnFails ∉ startedTwice ∧
      r.holder = .nobody ∧ begunSinceStop startedTwice = 1 ∧ r.alive = 2 * 1 ∧
      r.pool.running = true ∧ r.alive = if r.pool.running then 2 else 0 := by
  obtain ⟨r, hrun, hfree⟩ : ∃ r : Race Nat,
      (new (.new "pool" 2 4)).run panicking startedTwice = some r ∧ r.holder = .nobody :=
    ⟨_, rfl, rfl⟩
  have hmoves : Move.spawnFails ∉ startedTwice := by simp [startedTwice]
  obtain ⟨halive, hrunning, -, hright⟩ := workers_in_every_order hrun hmoves hfree
  have hbegun : begunSinceStop startedTwice = 1 := rfl
  rw [hbegun] at halive hrunning
  have hall : ∀ n < 19, ((new (.new "pool" 2 4)).run panicking (startedTwice.take n)).all
      (fun t => t.restarts ≤ 1) = true := by decide
  refine ⟨r, hrun, hmoves, hfree, hbegun, halive, hrunning.2 Nat.one_pos, hright ?_⟩
  intro past t hpast ht
  have hone := hall past.length (Nat.lt_succ_of_le hpast.length_le)
  rw [← List.prefix_iff_eq_take.1 hpast, ht] at hone
  exact of_decide_eq_true hone

/-- Two starts of a pool that is to have one worker.  Both stop it before either starts its
worker. -/
def startedAtOnce : List (Move Nat) :=
  [.dismiss true, .join, .sweep, .reset, .dismiss true, .join, .sweep, .reset] ++
    [.reopen, .spawn, .finishStart, .reopen, .spawn, .finishStart]

/-- The pool runs with two workers, and no call is in progress any more. -/
theorem too_many_workers_startedAtOnce : ∃ r : Race Nat,
    (new (.new "pool" 1 4)).run panicking startedAtOnce = some r ∧ .spawnFails ∉ startedAtOnce ∧
      r.Quiet ∧ r.pool.workers = 1 ∧ r.pool.running = true ∧ r.alive = 2 :=
  ⟨_, rfl, by simp [startedAtOnce], ⟨rfl, rfl, rfl⟩, rfl, rfl, rfl⟩

end Race

end Pool

end WebSocket
