/-!
# TOML tables

A TOML document is a table of named values.  Tables come about in several ways, and the way decides
whether they may be added to later.

## Main definitions

* `Node`, `Entries`, `Origin` — values, the content of tables, and how a table came about.
* `put` — a value put under a dotted key.
* `within` — work inside the table that a path of headers leads to.
* `openTable`, `openElement` — what the two kinds of headers do.
-/

namespace WebSocket

namespace Toml

/-- How a table came about. -/
inductive Origin
  /-- It has a header of its own. -/
  | header
  /-- Only tables below it have headers. -/
  | implied
  /-- By a dotted key. -/
  | dotted
  /-- Written in braces; nothing can be added to it. -/
  | inline
  deriving DecidableEq, Repr

/-- A value of a TOML document. -/
inductive Node
  | text (s : String)
  | integer (n : Int)
  | flag (b : Bool)
  /-- A number that is no integer. -/
  | float
  /-- A date, a time of day, or both. -/
  | moment
  | array (items : List Node)
  | table (origin : Origin) (entries : List (String × Node))
  /-- Tables that share a header in double brackets: those before the last, latest first, and the
  last, which is the one that lines still add to. -/
  | tables (earlier : List (List (String × Node))) (last : List (String × Node))
  deriving Inhabited

/-- The content of a table. -/
abbrev Entries := List (String × Node)

/-- The value under a key replaced. -/
def replace (key : String) (value : Node) (entries : Entries) : Entries :=
  entries.map fun entry => if entry.1 = key then (key, value) else entry

/-- A value added under a key that is not there yet. -/
def add (key : String) (value : Node) (entries : Entries) : Option Entries :=
  match entries.lookup key with
  | none => some (entries ++ [(key, value)])
  | some _ => none

/-- A value put under the dotted key that consists of `path` and `key`.  The tables on the way are
made by dotted keys, and the last of them by this kind of key only. -/
def put (key : String) (value : Node) : (path : List String) → Entries → Option Entries
  | [], entries => add key value entries
  | step :: path, entries =>
    match entries.lookup step with
    | none => (put key value path []).map fun sub => entries ++ [(step, .table .dotted sub)]
    | some (.table .dotted sub) =>
      (put key value path sub).map fun sub => replace step (.table .dotted sub) entries
    | some (.table .implied sub) =>
      if path.isEmpty then none
      else (put key value path sub).map fun sub => replace step (.table .implied sub) entries
    | some (.tables earlier last) =>
      if path.isEmpty then none
      else (put key value path last).map fun last => replace step (.tables earlier last) entries
    | some _ => none

/-- Work inside the table that a path of header names leads to.  A name of several tables means the
last one of them, and a name that is missing makes a table that is implied. -/
def within (work : Entries → Option Entries) : (path : List String) → Entries → Option Entries
  | [], entries => work entries
  | step :: path, entries =>
    match entries.lookup step with
    | none => (within work path []).map fun sub => entries ++ [(step, .table .implied sub)]
    | some (.table .inline _) => none
    | some (.table origin sub) =>
      (within work path sub).map fun sub => replace step (.table origin sub) entries
    | some (.tables earlier last) =>
      (within work path last).map fun last => replace step (.tables earlier last) entries
    | some _ => none

/-- A table gets its header.  It must be new, or implied so far. -/
def openTable (key : String) (entries : Entries) : Option Entries :=
  match entries.lookup key with
  | none => some (entries ++ [(key, .table .header [])])
  | some (.table .implied sub) => some (replace key (.table .header sub) entries)
  | some _ => none

/-- One more table under a header in double brackets. -/
def openElement (key : String) (entries : Entries) : Option Entries :=
  match entries.lookup key with
  | none => some (entries ++ [(key, .tables [] [])])
  | some (.tables earlier last) => some (replace key (.tables (last :: earlier) []) entries)
  | some _ => none

end Toml

end WebSocket
