import WebSocket.Bytes

/-!
# Incremental readers

A connection hands its bytes over in pieces, and every reader is run again from the first byte
whenever more of them have arrived.  That works as long as no reader changes its mind: what it found
must not depend on bytes that came later, and what it refused must stay refused.

## Main definitions

* `Incremental` — a reader that never changes its mind.

## Main results

* `Incremental.append` — a unit that was found is found again when more bytes have arrived.
* `Incremental.take_append` — only its own bytes matter.
* `Incremental.take_lt` — a part of a unit is neither a unit nor refused.
-/

namespace WebSocket

/-- A reader of one unit at the head of a byte string never changes its mind: a unit that it found
is found by its own bytes, whatever stands behind them, and a refusal stands. -/
structure Incremental {α ε : Type} (size : α → Nat)
    (read : Bytes → Except ε (Option α)) : Prop where
  /-- A unit that was found is a front part of the bytes, which decides by itself. -/
  found : ∀ {data : Bytes} {a : α}, read data = .ok (some a) →
    ∃ front rest, data = front ++ rest ∧ front.length = size a ∧
      ∀ more, read (front ++ more) = .ok (some a)
  /-- A refusal is for bytes that have arrived. -/
  refused : ∀ {data : Bytes} {e : ε}, read data = .error e → ∀ more, read (data ++ more) = .error e

namespace Incremental

variable {α ε : Type} {size : α → Nat} {read : Bytes → Except ε (Option α)} {data : Bytes} {a : α}

theorem size_le (h : Incremental size read) (ha : read data = .ok (some a)) :
    size a ≤ data.length := by
  obtain ⟨front, rest, hdata, hlen, -⟩ := h.found ha
  rw [hdata, List.length_append, hlen]
  exact Nat.le_add_right _ _

/-- The bytes of a unit are enough to find it, and what follows them does not matter. -/
theorem take_append (h : Incremental size read) (ha : read data = .ok (some a)) (more : Bytes) :
    read (data.take (size a) ++ more) = .ok (some a) := by
  obtain ⟨front, rest, hdata, hlen, hfront⟩ := h.found ha
  have htake : data.take (size a) = front := by rw [hdata, ← hlen, List.take_left]
  rw [htake]
  exact hfront more

/-- A unit that was found is found again when more bytes have arrived. -/
theorem append (h : Incremental size read) (ha : read data = .ok (some a)) (more : Bytes) :
    read (data ++ more) = .ok (some a) := by
  obtain ⟨front, rest, hdata, -, hfront⟩ := h.found ha
  rw [hdata, List.append_assoc]
  exact hfront (rest ++ more)

/-- While bytes of a unit are missing nothing is found, and nothing is refused either. -/
theorem take_lt (h : Incremental size read) (ha : read data = .ok (some a)) {m : Nat}
    (hm : m < size a) : read (data.take m) = .ok none := by
  -- Whatever the reader says of a part, it says of the whole.
  cases hpart : read (data.take m) with
  | error e =>
    have hwhole := h.refused hpart (data.drop m)
    rw [List.take_append_drop, ha] at hwhole
    exact absurd hwhole (by simp)
  | ok found =>
    cases found with
    | none => rfl
    | some b =>
      have hwhole := h.append hpart (data.drop m)
      rw [List.take_append_drop, ha] at hwhole
      obtain rfl : a = b := by simpa using hwhole
      have hle := h.size_le hpart
      rw [List.length_take] at hle
      omega

end Incremental

end WebSocket
