/-!
# Ranges of characters

A class of characters is a list of ranges of their codes, ascending and apart.

## Main definitions

* `CharRanges`, `CharRanges.holds` — ranges, and the characters in them.
* `CharRanges.Ascending` — each range ends before the next one begins.

## Main results

* `CharRanges.holds_of_lt` — what stands before the first of ascending ranges is in none of them.
-/

namespace WebSocket

namespace Text

/-- Ranges of characters, each by the codes of its first and its last one. -/
abbrev CharRanges := List (Nat × Nat)

namespace CharRanges

/-- The code of a character lies in one of the ranges. -/
def holds (ranges : CharRanges) (c : Char) : Bool :=
  ranges.any fun r => r.1 ≤ c.toNat && c.toNat ≤ r.2

/-- No range from `bound` on begins before it or ends before it begins, and a gap follows each. -/
def ascendingFrom (bound : Nat) : CharRanges → Bool
  | [] => true
  | r :: ranges => bound ≤ r.1 && r.1 ≤ r.2 && ascendingFrom (r.2 + 2) ranges

/-- Each range ends before the next one begins, with a gap between them. -/
def Ascending (ranges : CharRanges) : Prop := ascendingFrom 0 ranges = true

instance (ranges : CharRanges) : Decidable ranges.Ascending :=
  inferInstanceAs (Decidable (_ = _))

/-- What stands before the first of ascending ranges is in none of them. -/
theorem holds_of_lt {bound : Nat} {ranges : CharRanges} {c : Char}
    (h : ascendingFrom bound ranges = true) (hc : c.toNat < bound) :
    holds ranges c = false := by
  induction ranges generalizing bound with
  | nil => rfl
  | cons r ranges ih =>
    simp only [ascendingFrom, Bool.and_eq_true, decide_eq_true_eq] at h
    obtain ⟨⟨hb, hr⟩, rest⟩ := h
    have hrest : holds ranges c = false := ih rest (by omega)
    have hr1 : ¬ r.1 ≤ c.toNat := by omega
    unfold holds at hrest ⊢
    rw [List.any_cons, hrest]
    simp [hr1]

end CharRanges

end Text

end WebSocket
