/-!
# Decimal numbers

Lengths in headers are decimal numbers of at most 64 bits.

## Main definitions

* `wordLimit`, `signedLimit`, `halfWordLimit` — the first numbers that do not fit into 64, 63 and 32
  bits.
* `digit?` — the value of a digit in a radix.
* `number?` — the value of a run of digits in a radix.
* `numberBelow?` — the same for a number below a limit.
* `word?` — a decimal number of at most 64 bits, which may carry a plus sign.

## Main results

* `numberBelow?_eq` — reading below a limit refuses exactly the numbers that reach it.
-/

namespace WebSocket

namespace Text

/-- The first number that does not fit into 64 bits. -/
def wordLimit : Nat := 0x10000000000000000

/-- The first number that does not fit into 63 bits, next to a sign. -/
def signedLimit : Nat := 0x8000000000000000

/-- The first number that does not fit into 32 bits. -/
def halfWordLimit : Nat := 0x100000000

/-- The value of the digit `c` in a radix of at most 36; letters count from ten in either case. -/
def digit? (radix : Nat) (c : Char) : Option Nat :=
  let value :=
    if '0' ≤ c && c ≤ '9' then some (c.toNat - '0'.toNat)
    else if 'a' ≤ c && c ≤ 'z' then some (c.toNat - 'a'.toNat + 10)
    else if 'A' ≤ c && c ≤ 'Z' then some (c.toNat - 'A'.toNat + 10)
    else none
  value.filter (· < radix)

/-- The number that the digits `cs` write after those that make up `acc`. -/
def numberFrom? (radix : Nat) : (acc : Nat) → List Char → Option Nat
  | acc, [] => some acc
  | acc, c :: cs => do numberFrom? radix (acc * radix + (← digit? radix c)) cs

/-- The number that `cs` writes in a radix: at least one digit and nothing else. -/
def number? (radix : Nat) (cs : List Char) : Option Nat :=
  if cs.isEmpty then none else numberFrom? radix 0 cs

/-- The number below `limit` that the digits `cs` write after those that make up `acc`. -/
def numberBelowFrom? (radix limit : Nat) : (acc : Nat) → List Char → Option Nat
  | acc, [] => if acc < limit then some acc else none
  | acc, c :: cs =>
    if acc < limit then do numberBelowFrom? radix limit (acc * radix + (← digit? radix c)) cs
    else none

/-- The number below `limit` that `cs` writes in a radix.  Reading ends where the digits have
reached the limit, so the time a run of digits takes depends on its length only. -/
def numberBelow? (radix limit : Nat) (cs : List Char) : Option Nat :=
  if cs.isEmpty then none else numberBelowFrom? radix limit 0 cs

theorem le_of_numberFrom? {radix : Nat} (hr : 0 < radix) {acc n : Nat} {cs : List Char}
    (h : numberFrom? radix acc cs = some n) : acc ≤ n := by
  induction cs generalizing acc with
  | nil => simpa [numberFrom?] using Nat.le_of_eq (Option.some.inj h)
  | cons c cs ih =>
    obtain ⟨d, _, hd⟩ := Option.bind_eq_some_iff.1 h
    have := ih hd
    have := Nat.le_mul_of_pos_right acc hr
    omega

theorem numberBelowFrom?_eq {radix : Nat} (hr : 0 < radix) (limit acc : Nat) (cs : List Char) :
    numberBelowFrom? radix limit acc cs = (numberFrom? radix acc cs).filter (· < limit) := by
  induction cs generalizing acc with
  | nil =>
    by_cases h : acc < limit <;> simp [numberBelowFrom?, numberFrom?, Option.filter, h]
  | cons c cs ih =>
    by_cases h : acc < limit
    · cases hd : digit? radix c with
      | none => simp [numberBelowFrom?, numberFrom?, hd]
      | some d => simp [numberBelowFrom?, numberFrom?, hd, h, ih]
    · have : (numberFrom? radix acc (c :: cs)).filter (· < limit) = none := by
        rw [Option.filter_eq_none_iff]
        intro n hn
        have := le_of_numberFrom? hr hn
        simp only [decide_eq_true_eq]
        omega
      rw [this]
      simp [numberBelowFrom?, h]

/-- Reading below a limit refuses exactly the numbers that reach it. -/
theorem numberBelow?_eq {radix : Nat} (hr : 0 < radix) (limit : Nat) (cs : List Char) :
    numberBelow? radix limit cs = (number? radix cs).filter (· < limit) := by
  unfold numberBelow? number?
  split
  · rfl
  · exact numberBelowFrom?_eq hr limit 0 cs

/-- The decimal number in `cs`, if it fits into 64 bits.  One plus sign may stand before it. -/
def word? (cs : List Char) : Option Nat :=
  numberBelow? 10 wordLimit (match cs with
    | '+' :: rest => rest
    | _ => cs)

end Text

end WebSocket
