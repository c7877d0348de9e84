import WebSocket.Text.ExtendingMark
import WebSocket.Text.Printable

/-!
# Texts between quotes

A text that somebody is to look at closely is shown between quotes, with an escape for every
character that could not be told apart otherwise.

## Main definitions

* `Text.letter?`, `Text.escape` — how a character is shown.
* `Text.quote` — how a text is shown.

## Main results

* `Text.escape_of_ascii` — the letters, digits and signs of ASCII are shown as they are.
-/

namespace WebSocket

namespace Text

/-- The letter behind a backslash that stands for a character. -/
def letter? : Char → Option Char
  | '\t' => some 't'
  | '\n' => some 'n'
  | '\r' => some 'r'
  | '\\' => some '\\'
  | '\x22' => some '\x22'
  | '\x00' => some '0'
  | _ => none

/-- How a character is shown between quotes.  One that could not be seen by itself is shown by its
code. -/
def escape (c : Char) : List Char :=
  match letter? c with
  | some letter => ['\\', letter]
  | none =>
    if isPrintable c && !isExtendingMark c then [c]
    else ['\\', 'u', '\x7b'] ++ Nat.toDigits 16 c.toNat ++ ['\x7d']

/-- The letters, digits and signs of ASCII are shown as they are, but for the quote and the
backslash. -/
theorem escape_of_ascii {c : Char} (low : 0x20 ≤ c.toNat) (high : c.toNat < 0x7F)
    (quote : c ≠ '\x22') (backslash : c ≠ '\\') : escape c = [c] := by
  have none : letter? c = none := by
    unfold letter?
    split
    · exact absurd low (by decide)
    · exact absurd low (by decide)
    · exact absurd low (by decide)
    · exact absurd rfl backslash
    · exact absurd rfl quote
    · exact absurd low (by decide)
    · rfl
  rw [escape, none, isPrintable_of_ascii low high, isExtendingMark_of_lt (by omega)]
  rfl

/-- How a text is shown: between quotes, each character as it is shown there. -/
def quote (s : String) : String :=
  String.ofList ('\x22' :: s.toList.flatMap escape ++ ['\x22'])

end Text

end WebSocket
