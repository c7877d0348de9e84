import WebSocket.Dispatch.Pool

/-!
# A pool at rest

Stopping a pool waits for its workers, hands back what is left, and counts afresh, so that a stopped
pool is the same whatever went on before.  A start begins with a stop; if it fails, it ends with
another one.

## Main definitions

* `Pool.rested` — a pool that was stopped.
* `Pool.AtRest` — a pool that does not run, holds no task, and counts nothing.

## Main results

* `Pool.pool_stop` — **stopping leaves a pool at rest**, whatever was queued or being done.
* `Pool.pool_start` — a start that fails leaves it at rest as well, and one that succeeds runs.
* `Pool.running_submit` — a submit neither starts nor stops a pool.
-/

namespace WebSocket

namespace Pool

variable {τ : Type} {h : Handler τ}

/-- The pool after it was stopped. -/
def rested (p : Pool τ) : Pool τ := { p.dismiss.resetCounters with queue := [], handling := [] }

/-- A pool that does not run, holds no task, and counts nothing. -/
structure AtRest (p : Pool τ) : Prop where
  running : p.running = false
  queue : p.queue = []
  handling : p.handling = []
  length : p.length = 0
  peak : p.peak = 0
  submitted : p.submitted = 0
  rejected : p.rejected = 0
  errors : p.errors = 0

theorem atRest_new (name : String) (workers capacity : Nat) :
    (new name workers capacity : Pool τ).AtRest :=
  ⟨rfl, rfl, rfl, rfl, rfl, rfl, rfl, rfl⟩

theorem atRest_rested (p : Pool τ) : p.rested.AtRest := ⟨rfl, rfl, rfl, rfl, rfl, rfl, rfl, rfl⟩

/-- Tasks that are done may have gone wrong; nothing else of the pool changes. -/
theorem pool_settle (task : τ) (p : Pool τ) :
    ∃ errors, (p.settle h task).pool = { p with errors } := by
  unfold settle
  split
  · exact ⟨p.errors, rfl⟩
  · exact ⟨p.errors + 1, rfl⟩

/-- Whoever is at a place is no longer at anything. -/
theorem pool_finish (p : Pool τ) (place : Nat) :
    ∃ errors, (p.finish h place).pool =
      { p with handling := p.handling.eraseIdx place, errors } := by
  unfold finish
  split
  · next hnone =>
    refine ⟨p.errors, ?_⟩
    rw [List.eraseIdx_of_length_le (List.getElem?_eq_none_iff.1 hnone)]
  · next task _ => exact pool_settle task { p with handling := p.handling.eraseIdx place }

/-- Waiting for the workers.  The induction is on what they are at. -/
theorem pool_join (p : Pool τ) :
    ∃ errors, (p.join h).pool = { p with handling := [], errors } := by
  have hall : ∀ (tasks : List τ) (s : Step τ), s.pool.handling = tasks →
      ∃ errors, (s.forEach tasks fun _ => finish h 0).pool =
        { s.pool with handling := [], errors } := by
    intro tasks
    induction tasks with
    | nil =>
      intro s hs
      refine ⟨s.pool.errors, ?_⟩
      show s.pool = _
      rw [← hs]
    | cons task tasks ih =>
      intro s hs
      obtain ⟨errors, hsettled⟩ : ∃ errors,
          (s.andThen (finish h 0)).pool = { s.pool with handling := tasks, errors } := by
        obtain ⟨errors, hfinished⟩ := pool_finish (h := h) s.pool 0
        rw [hs, List.eraseIdx_cons_zero] at hfinished
        exact ⟨errors, hfinished⟩
      obtain ⟨later, hrest⟩ := ih (s.andThen (finish h 0)) (by rw [hsettled])
      refine ⟨later, ?_⟩
      show ((s.andThen (finish h 0)).forEach tasks fun _ => finish h 0).pool = _
      rw [hrest, hsettled]
  exact hall p.handling ⟨p, []⟩ rfl

/-- Handing back what is queued.  The induction is on that. -/
theorem pool_refuseAll (p : Pool τ) :
    ∃ rejected, (p.refuseAll h).pool = { p with queue := [], rejected } := by
  have hall : ∀ (tasks : List τ) (s : Step τ),
      ∃ rejected, (s.forEach tasks fun task p => refuse h task p).pool =
        { s.pool with rejected } := by
    intro tasks
    induction tasks with
    | nil => exact fun s => ⟨s.pool.rejected, rfl⟩
    | cons task tasks ih =>
      intro s
      obtain ⟨rejected, hrest⟩ := ih (s.andThen fun p => refuse h task p)
      exact ⟨rejected, hrest⟩
  exact hall p.queue ⟨{ p with queue := [] }, []⟩

/-- **Stopping leaves a pool at rest**, whatever was queued or being done. -/
theorem pool_stop (p : Pool τ) : (p.stop h).pool = p.rested := by
  obtain ⟨errors, hjoined⟩ := pool_join (h := h) p.dismiss
  obtain ⟨rejected, hrefused⟩ := pool_refuseAll (h := h) (p.dismiss.join h).pool
  show ((p.dismiss.join h).pool.refuseAll h).pool.resetCounters = _
  rw [hrefused, hjoined]
  rfl

/-- A start that fails leaves a pool at rest, and one that succeeds leaves it running. -/
theorem pool_start (p : Pool τ) (refusal : Option DispatchError) :
    (p.start h refusal).1.pool =
      if refusal.isSome then p.rested else p.rested.reopen := by
  cases refusal with
  | none => exact congrArg reopen (pool_stop p)
  | some e =>
    refine (pool_stop (h := h) (p.stop h).pool.reopen).trans ?_
    rw [pool_stop]
    rfl

theorem result_start (p : Pool τ) (refusal : Option DispatchError) :
    (p.start h refusal).2 = refusal.elim (.ok ()) .error := by
  cases refusal <;> rfl

/-- A submit neither starts nor stops a pool. -/
theorem running_submit (p : Pool τ) (task : τ) : (p.submit h task).1.pool.running = p.running := by
  unfold submit
  split
  · rfl
  · split <;> rfl

end Pool

end WebSocket
