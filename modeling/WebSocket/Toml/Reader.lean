import WebSocket.Text.Decimal

/-!
# Reading TOML: blanks, comments and line ends

## Main definitions

* `Reader` — a function that reads something at the head of a text.
* `many` — something read as often as possible.
* `skipSpace`, `newline`, `lineEnd`, `skipFill` — what stands between the parts of a document.
-/

namespace WebSocket

namespace Toml

/-- A function that reads something at the head of a text, and returns it with what follows. -/
abbrev Reader (α : Type) := List Char → Option (α × List Char)

/-- Something read as often as it can be, but no more than once for each character of `bound`, and
what follows. -/
def manyWithin {α : Type} (read : Reader α) :
    (bound : List Char) → List Char → List α × List Char
  | [], cs => ([], cs)
  | _ :: bound, cs =>
    match read cs with
    | none => ([], cs)
    | some (a, rest) =>
      let (more, rest) := manyWithin read bound rest
      (a :: more, rest)

/-- Something read as often as it can be, and what follows.  Whatever is read takes at least one
character, so the text itself bounds how often that is. -/
def many {α : Type} (read : Reader α) (cs : List Char) : List α × List Char :=
  manyWithin read cs cs

/-- A given character at the head of a text. -/
def skipChar (c : Char) : List Char → Option (List Char)
  | d :: rest => if d = c then some rest else none
  | [] => none

/-- Blanks and tabs skipped. -/
def skipSpace (cs : List Char) : List Char := cs.dropWhile fun c => c = ' ' || c = '\t'

/-- The end of a line: a line feed, which may follow a carriage return. -/
def newline : List Char → Option (List Char)
  | '\n' :: rest => some rest
  | '\r' :: '\n' :: rest => some rest
  | _ => none

/-- A character that may stand in comments and strings: no control character but the tab. -/
def isPlain (c : Char) : Bool := c = '\t' || (' ' ≤ c && c ≠ '\x7f')

/-- A comment skipped, if there is one. -/
def skipComment : List Char → List Char
  | '#' :: rest => rest.dropWhile isPlain
  | cs => cs

/-- The rest of a line that holds nothing more. -/
def lineEnd (cs : List Char) : Option (List Char) :=
  match skipComment (skipSpace cs) with
  | [] => some []
  | rest => newline rest

/-- A line that holds nothing but perhaps a comment. -/
def emptyLine (comments : Bool) : Reader Unit := fun cs =>
  let rest := skipSpace cs
  (newline (if comments then skipComment rest else rest)).map fun rest => ((), rest)

/-- Blanks, line ends and, if wanted, comments skipped. -/
def skipFill (comments : Bool) (cs : List Char) : List Char :=
  skipSpace (many (emptyLine comments) cs).2

end Toml

end WebSocket
