import WebSocket.Notice

/-!
# Metrics

What the counters and gauges of a server stand at, kept up with every notice and written for those
who collect them.

## Main definitions

* `Metrics`, `Metrics.record` — the values, and how a notice changes them.
* `Metrics.exposition` — the values in text.

## Main results

* `Metrics.count_recordAll` — a counter stands at the total of all notices.
-/

namespace WebSocket

/-- What counters and gauges stand at.  The newest entry of each counts. -/
structure Metrics where
  counters : List (Counter × Nat)
  gauges : List (Gauge × Nat)
  deriving DecidableEq, Repr

namespace Metrics

/-- Nothing was counted or measured. -/
def empty : Metrics := ⟨[], []⟩

/-- What a counter stands at. -/
def count (m : Metrics) (c : Counter) : Nat := (m.counters.lookup c).getD 0

/-- `entries` with a value for a key, in place of one that was there. -/
def put {κ : Type} [BEq κ] (key : κ) (value : Nat) : List (κ × Nat) → List (κ × Nat)
  | [] => [(key, value)]
  | (k, v) :: rest => if k == key then (key, value) :: rest else (k, v) :: put key value rest

theorem lookup_put {κ : Type} [BEq κ] [LawfulBEq κ] (key other : κ) (value : Nat)
    (entries : List (κ × Nat)) :
    (put key value entries).lookup other =
      if other == key then some value else entries.lookup other := by
  induction entries with
  | nil => by_cases h : other == key <;> simp [put, List.lookup_cons, h]
  | cons entry rest ih =>
    obtain ⟨k, v⟩ := entry
    unfold put
    by_cases hk : k == key
    · obtain rfl : k = key := by simpa using hk
      by_cases h : other == k <;> simp [List.lookup_cons, h]
    · by_cases h : other == key
      · obtain rfl : other = key := by simpa using h
        have hne : (other == k) = false := by
          rw [beq_eq_false_iff_ne]
          exact fun e => hk (by simp [e])
        simp [hk, List.lookup_cons, hne, ih]
      · by_cases ho : other == k <;> simp [hk, List.lookup_cons, ho, ih, h]

/-- A notice taken in. -/
def record (m : Metrics) : Notice → Metrics
  | .count c n => { m with counters := put c (m.count c + n) m.counters }
  | .gauge g v => { m with gauges := put g v m.gauges }
  | .log _ => m

/-- Notices taken in one after the other. -/
def recordAll (m : Metrics) (notices : List Notice) : Metrics := notices.foldl record m

theorem count_record (m : Metrics) (n : Notice) (c : Counter) :
    (m.record n).count c = m.count c + Notice.total c [n] := by
  cases n with
  | count d k =>
    by_cases h : c = d
    · subst h
      simp [record, count, lookup_put, Notice.total]
    · have hd : d ≠ c := fun e => h e.symm
      simp [record, count, lookup_put, Notice.total, h, hd]
  | gauge g v => simp [record, count, Notice.total]
  | log e => simp [record, Notice.total]

/-- A counter stands at the total of all notices. -/
theorem count_recordAll (m : Metrics) (notices : List Notice) (c : Counter) :
    (m.recordAll notices).count c = m.count c + Notice.total c notices := by
  induction notices generalizing m with
  | nil => simp [recordAll, Notice.total]
  | cons n rest ih =>
    have split : Notice.total c (n :: rest) = Notice.total c [n] + Notice.total c rest := by
      rw [← Notice.total_append, List.singleton_append]
    have step := ih (m.record n)
    rw [count_record, Nat.add_assoc, ← split] at step
    exact step

/-- A value in one line. -/
def sample (name : String) (label : Option (String × String)) (value : Nat) : String :=
  let labels := label.elim "" fun (l, v) => "\x7b" ++ l ++ "=\x22" ++ v ++ "\x22\x7d"
  name ++ labels ++ " " ++ toString value

/-- The values in text, one in a line. -/
def exposition (m : Metrics) : String :=
  let counters := m.counters.map fun (c, n) => sample c.name c.label? n
  let gauges := m.gauges.map fun (g, v) => sample g.text none v
  String.join ((counters ++ gauges).map (· ++ "\n"))

end Metrics

end WebSocket
