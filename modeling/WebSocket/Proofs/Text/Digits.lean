import WebSocket.Text.Decimal

/-!
# Numbers are read from their digits

A length in a head is a run of decimal digits.  The reader goes through them from left to right and
stops where the number has grown too large.  For a number of 64 bits that never happens, so it is
read from every run of digits that writes it, with zeros in front or without.

## Main definitions

* `Text.Decimal` — a text that writes a number in decimal.

## Main results

* `Text.decimal_toString` — the usual way to write a number is one.
* `Text.numberFrom?_of_digits` — digits are read as the number they write.
* `Text.word?_of_decimal` — **a number of 64 bits is read from its digits.**
-/

namespace WebSocket
namespace Text

/-- A text writes a number in decimal: it is a run of digits, the most significant one first. -/
structure Decimal (text : String) (n : Nat) : Prop where
  nonempty : text ≠ ""
  digits : ∀ c ∈ text.toList, c.isDigit = true
  value : Nat.ofDigitChars 10 text.toList 0 = n

/-- The usual way to write a number is one. -/
theorem decimal_toString (n : Nat) : Decimal (toString n) n := by
  have hlist : (toString n).toList = Nat.toDigits 10 n := by
    rw [Nat.toString_eq_repr, Nat.toList_repr]
  constructor
  · intro hempty
    rw [hempty] at hlist
    exact Nat.toDigits_ne_nil hlist.symm
  · intro c hc
    rw [hlist] at hc
    exact Nat.isDigit_of_mem_toDigits (by decide) (by decide) hc
  · rw [hlist]
    exact Nat.ofDigitChars_ten_toDigits

theorem digit?_of_isDigit {c : Char} (h : c.isDigit = true) :
    digit? 10 c = some (c.toNat - '0'.toNat) := by
  have hrange : ('0' ≤ c && c ≤ '9') = true := h
  have hlow : c.toNat - '0'.toNat < 10 := by
    have hle : c.toNat ≤ '9'.toNat := by
      rw [Bool.and_eq_true, decide_eq_true_eq, decide_eq_true_eq] at hrange
      exact hrange.2
    have hnine : '9'.toNat = '0'.toNat + 9 := by decide
    omega
  simp only [digit?, if_pos hrange, Option.filter, decide_eq_true hlow, if_true]

/-- Digits are read as the number they write behind those that came before. -/
theorem numberFrom?_of_digits {cs : List Char} (h : ∀ c ∈ cs, c.isDigit = true) (acc : Nat) :
    numberFrom? 10 acc cs = some (Nat.ofDigitChars 10 cs acc) := by
  induction cs generalizing acc with
  | nil => rfl
  | cons c cs ih =>
    obtain ⟨hc, hcs⟩ := List.forall_mem_cons.1 h
    rw [numberFrom?, digit?_of_isDigit hc, Nat.ofDigitChars_cons, Nat.mul_comm 10 acc]
    exact ih hcs _

/-- **A number of 64 bits is read from its digits.** -/
theorem word?_of_decimal {text : String} {n : Nat} (h : Decimal text n) (hn : n < wordLimit) :
    word? text.toList = some n := by
  have hne : text.toList ≠ [] := mt String.toList_eq_nil_iff.1 h.nonempty
  have hnumber : number? 10 text.toList = some n := by
    rw [number?, if_neg (by simpa using hne), numberFrom?_of_digits h.digits, h.value]
  -- A digit is no plus sign, so nothing is cut off in front.
  have hsign : word? text.toList = numberBelow? 10 wordLimit text.toList := by
    unfold word?
    split
    · next rest hplus =>
      have hdigit := h.digits '+' (by rw [hplus]; exact List.mem_cons_self ..)
      exact absurd hdigit (by decide)
    · rfl
  rw [hsign, numberBelow?_eq (by decide), hnumber]
  exact if_pos (decide_eq_true hn)

end Text
end WebSocket
