import WebSocket.Text.Blank
import WebSocket.Text.Caseless
import WebSocket.Text.Cut
import WebSocket.Text.Utf8

/-!
# Header fields

A head is a block of lines, and each line after the first is a name, a colon and a value.

## Main definitions

* `Http.Field`, `Http.Field.ofLine`, `Http.Field.text` — one header field, and how its line is read
  and written.
* `Http.encodeHead` — the lines of a head as bytes.
* `Http.first?`, `Http.all` — looking a name up.
* `Http.put` — setting a field, in place if there is one of that name.

## Main results

* `Http.first?_eq_head?` — the first value is the head of all values.
* `Http.first?_put` — after `put` the name has the new value, and no other name has changed.
-/

namespace WebSocket

namespace Http

/-- The characters that end a line of a head. -/
def lineEnd : List Char := ['\r', '\n']

/-- A name with its value. -/
structure Field where
  name : String
  value : String
  deriving DecidableEq, Repr

/-- The field that a line spells.  Blanks around the name and the value are cut off; a line without
a colon is a name as it stands, with an empty value. -/
def Field.ofLine (line : List Char) : Field :=
  match Text.cut [':'] line with
  | some (name, value) => ⟨String.ofList (Text.trim name), String.ofList (Text.trim value)⟩
  | none => ⟨String.ofList line, ""⟩

/-- The line that spells a field. -/
def Field.text (f : Field) : String := s!"{f.name}: {f.value}"

/-- The bytes of a head: each line with its end, and an empty line. -/
def encodeHead (lines : List String) : Bytes :=
  let eol := String.ofList lineEnd
  Text.utf8 (String.join (lines.map (· ++ eol)) ++ eol)

/-- The first value that `fields` gives to a name. -/
def first? (fields : List Field) (name : String) : Option String :=
  (fields.find? fun f => Text.Caseless f.name name).map Field.value

/-- All values that `fields` gives to a name, in order. -/
def all (fields : List Field) (name : String) : List String :=
  (fields.filter fun f => Text.Caseless f.name name).map Field.value

theorem first?_cons (f : Field) (fields : List Field) (name : String) :
    first? (f :: fields) name =
      if Text.Caseless f.name name then some f.value else first? fields name := by
  by_cases h : Text.Caseless f.name name <;> simp [first?, h]

/-- The first value is the head of all values. -/
theorem first?_eq_head? (fields : List Field) (name : String) :
    first? fields name = (all fields name).head? := by
  simp [first?, all, List.head?_filter]

/-- `fields` with a value set for a name: in place of the first value it had, or at the end. -/
def put (fields : List Field) (name value : String) : List Field :=
  match fields with
  | [] => [⟨name, value⟩]
  | f :: rest =>
    if Text.Caseless f.name name then ⟨f.name, value⟩ :: rest else f :: put rest name value

/-- After `put` the name has the new value, and no other name has changed. -/
theorem first?_put (fields : List Field) (name value other : String) :
    first? (put fields name value) other =
      if Text.Caseless name other then some value else first? fields other := by
  induction fields with
  | nil =>
    by_cases h : Text.Caseless name other <;> simp [put, first?, h]
  | cons f rest ih =>
    unfold put
    by_cases hf : Text.Caseless f.name name
    · have hiff : Text.Caseless f.name other ↔ Text.Caseless name other :=
        ⟨hf.symm.trans, hf.trans⟩
      by_cases h : Text.Caseless name other <;> simp [first?, hf, hiff, h]
    · by_cases h : Text.Caseless name other
      · have hno : ¬ Text.Caseless f.name other := fun k => hf (k.trans h.symm)
        simpa [first?, hf, h, hno] using ih
      · by_cases hfo : Text.Caseless f.name other
        · simp [first?, hf, h, hfo]
        · simpa [first?, hf, h, hfo] using ih

end Http

end WebSocket
