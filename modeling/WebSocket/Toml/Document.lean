import WebSocket.Toml.Moment
import WebSocket.Toml.Node
import WebSocket.Toml.Number
import WebSocket.Toml.Quoted

/-!
# TOML documents

## Main definitions

* `key`, `value` — dotted keys and values.
* `Statement`, `statements` — the lines of a document.
* `Statement.run` — what a line does to the table of the document.
* `document` — the table that a text describes.
-/

namespace WebSocket

namespace Toml

/-! ### Keys and values -/

/-- The most parts of a dotted key, and the deepest nesting of values. -/
def depthLimit : Nat := 79

/-- A character of a key without quotes. -/
def isBare (c : Char) : Bool := c.isAlphanum || c = '_' || c = '-'

/-- One part of a key, with the blanks around it. -/
def keyPart : Reader String := fun cs =>
  let cs := skipSpace cs
  match lineString cs with
  | some (s, rest) => some (s, skipSpace rest)
  | none =>
    let name := cs.takeWhile isBare
    if name.isEmpty then none else some (String.ofList name, skipSpace (cs.dropWhile isBare))

/-- A dotted key: the parts before the last, and the last. -/
def key : Reader (List String × String) := fun cs => do
  let (first, rest) ← keyPart cs
  let (more, rest) := many (fun cs => do keyPart (← skipChar '.' cs)) rest
  let parts := first :: more
  if depthLimit < parts.length then none
  return ((parts.dropLast, parts.getLast?.getD first), rest)

/-- A word at the head of a text. -/
def word (w : String) (cs : List Char) : Option (List Char) :=
  if w.toList.isPrefixOf cs then some (cs.drop w.length) else none

/-- A value without other values in it. -/
def scalar : Reader Node := fun cs =>
  ((string cs).map fun (s, rest) => (.text s, rest)) <|>
  ((word "true" cs).map fun rest => (.flag true, rest)) <|>
  ((word "false" cs).map fun rest => (.flag false, rest)) <|>
  ((moment cs).map fun rest => (.moment, rest)) <|>
  ((float cs).map fun rest => (.float, rest)) <|>
  ((integer cs).map fun (n, rest) => (.integer n, rest))

/-- Things with commas between them. -/
def separated {α : Type} (read : Reader α) (cs : List Char) : List α × List Char :=
  match read cs with
  | none => ([], cs)
  | some (a, rest) =>
    let (more, rest) := many (fun cs => do read (← skipChar ',' cs)) rest
    (a :: more, rest)

/-- An array after its opening bracket.  Lines may end between its items, and a comma may follow the
last one. -/
def array (item : Reader Node) : Reader Node := fun cs => do
  let (items, rest) := separated (fun cs => do
    let (node, rest) ← item (skipFill true cs)
    return (node, skipFill true rest)) cs
  let rest := if items.isEmpty then rest else (skipChar ',' rest).getD rest
  let rest ← skipChar ']' (skipFill true rest)
  return (.array items, rest)

/-- A key and its value. -/
def pair (item : Reader Node) : Reader ((List String × String) × Node) := fun cs => do
  let (k, rest) ← key cs
  let (node, rest) ← item (skipSpace (← skipChar '=' rest))
  return ((k, node), skipSpace rest)

/-- A table in braces after the opening one.  It stands on one line. -/
def inlineTable (item : Reader Node) : Reader Node := fun cs => do
  let (pairs, rest) := separated (pair item) cs
  let entries ← pairs.foldlM (fun entries (k, node) => put k.2 node k.1 entries) []
  let rest ← skipChar '\x7d' (skipSpace rest)
  return (.table .inline entries, rest)

/-- A value in which values are nested at most `depth` deep. -/
def value : (depth : Nat) → Reader Node
  | 0, cs => scalar cs
  | depth + 1, cs =>
    match cs with
    | '[' :: rest => array (value depth) rest
    | '\x7b' :: rest => inlineTable (value depth) rest
    | _ => scalar cs

/-! ### Lines -/

/-- A line of a document that says something. -/
inductive Statement
  | pair (path : List String) (key : String) (value : Node)
  | table (path : List String) (key : String)
  | element (path : List String) (key : String)

/-- A line of a document. -/
def statement : Reader (Option Statement) := fun cs =>
  match skipSpace cs with
  | [] => none
  | '[' :: '[' :: rest => do
    let ((path, k), rest) ← key rest
    let rest ← lineEnd (← skipChar ']' (← skipChar ']' rest))
    return (some (.element path k), rest)
  | '[' :: rest => do
    let ((path, k), rest) ← key rest
    let rest ← lineEnd (← skipChar ']' rest)
    return (some (.table path k), rest)
  | rest =>
    match lineEnd rest with
    | some rest => some (none, rest)
    | none => do
      let (((path, k), node), rest) ← pair (value depthLimit) rest
      return (some (.pair path k node), ← lineEnd rest)

/-- The lines of a text that say something, if all of its lines can be read. -/
def statements (cs : List Char) : Option (List Statement) :=
  match many statement cs with
  | (lines, rest) => if (skipSpace rest).isEmpty then some (lines.filterMap id) else none

/-- A document as far as it was read: its table, and the path to the table that pairs belong to. -/
structure State where
  root : Entries
  current : List String

/-- What a line does to a document. -/
def Statement.run (s : State) : Statement → Option State
  | pair path k node =>
    (within (put k node path) s.current s.root).map fun root => { s with root }
  | table path k => (within (openTable k) path s.root).map fun root => ⟨root, path ++ [k]⟩
  | element path k => (within (openElement k) path s.root).map fun root => ⟨root, path ++ [k]⟩

/-- The table that a text describes.  A byte order mark may stand before it. -/
def document (text : String) : Option Entries := do
  let cs := text.toList
  let cs := (skipChar '\uFEFF' cs).getD cs
  let last ← (← statements cs).foldlM Statement.run ⟨[], []⟩
  return last.root

end Toml

end WebSocket
