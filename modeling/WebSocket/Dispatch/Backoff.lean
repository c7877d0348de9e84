/-!
# How long an idle worker sleeps

A worker that finds the queue empty sleeps before it looks again: one unit longer after each time in
a row, up to a limit.  Work makes it start over.

## Main definitions

* `Backoff.delayAfter` — the sleep after so many empty polls.
* `Backoff` — the state of one worker, with `Backoff.next` and `Backoff.reset`.

## Main results

* `Backoff.delayAfter_mono` — more empty polls never shorten the sleep.
* `Backoff.next_fst` — what the next sleep is.
-/

namespace WebSocket

/-- How often in a row a worker found the queue empty, and the longest it sleeps, in
milliseconds. -/
structure Backoff where
  polls : Nat
  limit : Nat
  deriving DecidableEq, Repr

namespace Backoff

/-- The sleep in milliseconds after `polls` empty polls: `step` for each, but never more than
`limit`. -/
def delayAfter (polls step limit : Nat) : Nat := min (step * polls) limit

theorem delayAfter_mono {polls more step limit : Nat} (h : polls ≤ more) :
    delayAfter polls step limit ≤ delayAfter more step limit := by
  have := Nat.mul_le_mul_left step h
  unfold delayAfter
  omega

/-- How much longer each sleep is, in milliseconds. -/
def step : Nat := 1

/-- The most empty polls that are counted. -/
def pollLimit : Nat := 0xFFFFFFFF

/-- The longest sleep that can be asked for, in milliseconds. -/
def longest : Nat := 0xFFFFFFFFFFFFFFFF

/-- A worker that has just had work and that sleeps at most `millis` milliseconds, but never less
than one step. -/
def new (millis : Nat) : Backoff := ⟨0, max (min millis longest) step⟩

/-- An empty poll: the sleep that follows it. -/
def next (b : Backoff) : Nat × Backoff :=
  let polls := min (b.polls + 1) pollLimit
  (delayAfter polls step b.limit, { b with polls })

theorem next_fst (b : Backoff) : b.next.1 = min (min (b.polls + 1) pollLimit) b.limit := by
  simp [next, delayAfter, step]

/-- The next `n` sleeps. -/
def nextMany : Nat → Backoff → List Nat × Backoff
  | 0, b => ([], b)
  | n + 1, b =>
    let (delay, b) := b.next
    let (delays, b) := nextMany n b
    (delay :: delays, b)

/-- There was work. -/
def reset (b : Backoff) : Backoff := { b with polls := 0 }

end Backoff

end WebSocket
