/-!
# Blank characters

The characters that Unicode lists as `White_Space`, and the two things a header reader does with
them: cut them off both ends of a text, and split a text into the words between them.

## Main definitions

* `isBlank` — membership in `White_Space`.
* `trim` — the text without leading and trailing blanks.
* `words` — the maximal runs of characters that are not blank.
-/

namespace WebSocket

namespace Text

/-- The blank characters: the 25 code points of the Unicode property `White_Space`. -/
def isBlank (c : Char) : Bool :=
  let n := c.toNat
  (9 ≤ n && n ≤ 13) || n == 0x20 || n == 0x85 || n == 0xA0 || n == 0x1680 ||
    (0x2000 ≤ n && n ≤ 0x200A) || n == 0x2028 || n == 0x2029 || n == 0x202F || n == 0x205F ||
    n == 0x3000

/-- `s` without its leading blanks. -/
def trimLeft (s : List Char) : List Char := s.dropWhile isBlank

/-- `s` without its leading and its trailing blanks. -/
def trim (s : List Char) : List Char := (trimLeft (trimLeft s).reverse).reverse

theorem trimLeft_of_not_blank {c : Char} {s : List Char} (h : isBlank c = false) :
    trimLeft (c :: s) = c :: s := by
  simp [trimLeft, h]

/-- A text whose ends are not blank is left as it is. -/
theorem trim_eq_self {s : List Char} (hd : ∀ c ∈ s.head?, isBlank c = false)
    (tl : ∀ c ∈ s.getLast?, isBlank c = false) : trim s = s := by
  have left : trimLeft s = s := by
    cases s with
    | nil => rfl
    | cons c s => exact trimLeft_of_not_blank (hd c (by simp))
  have right : trimLeft s.reverse = s.reverse := by
    cases h : s.reverse with
    | nil => rfl
    | cons c r =>
      refine trimLeft_of_not_blank (tl c ?_)
      have : s = r.reverse ++ [c] := by rw [← List.reverse_reverse s, h, List.reverse_cons]
      simp [this]
  rw [trim, left, right, List.reverse_reverse]

/-- The words of `s` after those in `acc`, where `word` is the reversed beginning of the word that
is being read. -/
def wordsFrom : (word : List Char) → List Char → List (List Char)
  | word, [] => if word.isEmpty then [] else [word.reverse]
  | word, c :: s =>
    if isBlank c then
      if word.isEmpty then wordsFrom [] s else word.reverse :: wordsFrom [] s
    else wordsFrom (c :: word) s

/-- The maximal runs of characters of `s` that are not blank, in order. -/
def words (s : List Char) : List (List Char) := wordsFrom [] s

end Text

end WebSocket
