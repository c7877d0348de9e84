import WebSocket.Http.Field
import WebSocket.Http.Target
import WebSocket.ProtocolError

/-!
# Requests

A request is a head that ends with an empty line, and a body whose length the head declares.  Two
readers share this grammar: one finds where the request ends, the other reads what it says.

## Main definitions

* `Http.cutHead` — a byte string cut at the first empty line.
* `Http.requestBoundary` — the length of the request at the head of a byte string.
* `Http.Request`, `Http.Request.parse`, `Http.Request.encode` — a request, and how it is read and
  written.

## Main results

* `Http.requestBoundary_bounds` — the request that was found is not empty and lies inside its bytes.
-/

namespace WebSocket

namespace Http

/-- The empty line that ends a head, with the end of the line before it. -/
def headEnd : Bytes := [0x0D, 0x0A, 0x0D, 0x0A]

/-- The head at the front of `data` and what follows the empty line after it. -/
def cutHead (data : Bytes) : Option (Bytes × Bytes) := Text.cut headEnd data

/-- The lines of a head. -/
def headLines (head : Bytes) : List (List Char) := Text.splitOn lineEnd (Text.Utf8.decode head)

/-- The name of the field that declares the length of the body. -/
def contentLength : String := "Content-Length"

/-- The length that the value of such a field declares. -/
def parseLength (value : String) : Except ProtocolError Nat :=
  match Text.word? value.toList with
  | some n => .ok n
  | none => .error (.malformedRequest s!"bad Content-Length '{value}'")

/-- The length of a request with a head of `head` bytes and a body of `body` bytes, where it can be
told in 64 bits. -/
def requestLength (head body : Nat) : Except ProtocolError Nat :=
  if head + headEnd.length + body < Text.wordLimit then .ok (head + headEnd.length + body)
  else .error (.malformedRequest s!"Content-Length {body} overflows")

/-- The length of the body that the lines after the first one declare; none is a length of zero. -/
def declaredLength : List (List Char) → Except ProtocolError Nat
  | [] => .ok 0
  | line :: lines =>
    let field := Field.ofLine line
    if Text.Caseless field.name contentLength then parseLength field.value else declaredLength lines

/-- The length of the request at the head of `data`, or nothing while it is incomplete.  One that is
declared longer than the limit is refused before it has arrived. -/
def requestBoundary (limit : Nat) (data : Bytes) : Except ProtocolError (Option Nat) :=
  match cutHead data with
  | none => .ok none
  | some (head, _) => do
    let body ← declaredLength (headLines head).tail
    let total ← requestLength head.length body
    if total > limit then .error (.tooLarge total limit)
    else .ok (if Bytes.reaches total data then some total else none)

/-- The request that was found is not empty and lies inside its bytes. -/
theorem requestBoundary_bounds {limit n : Nat} {data : Bytes}
    (h : requestBoundary limit data = .ok (some n)) : 0 < n ∧ n ≤ data.length ∧ n ≤ limit := by
  unfold requestBoundary at h
  split at h
  · simp at h
  · next head rest _ =>
    match hb : declaredLength (headLines head).tail with
    | .error e => rw [hb] at h; simp [bind, Except.bind] at h
    | .ok body =>
      rw [hb] at h
      simp only [bind, Except.bind, requestLength] at h
      split at h
      · simp at h
      · next total ht =>
        split at ht
        · obtain rfl : head.length + headEnd.length + body = total := by simpa using ht
          split at h
          · simp at h
          · next hlim =>
            simp only [Except.ok.injEq, Option.ite_none_right_eq_some, Option.some.injEq,
              Bytes.reaches_iff] at h
            have : headEnd.length = 4 := rfl
            omega
        · simp at ht

/-- A request: its method, its target, its fields and its body. -/
structure Request where
  method : String
  target : String
  fields : List Field
  body : Bytes
  deriving DecidableEq, Repr

namespace Request

/-- The path that was asked for. -/
def path (r : Request) : String := Target.path r.target

/-- The parameters of the query, in order. -/
def query (r : Request) : List (String × String) := Target.query r.target

/-- The first value of a parameter. -/
def parameter? (r : Request) (name : String) : Option String := r.query.lookup name

/-- The first value of a header field. -/
def header? (r : Request) (name : String) : Option String := first? r.fields name

/-- All values of a header field, in order. -/
def headers (r : Request) (name : String) : List String := all r.fields name

/-- The request is told by its method and its target. -/
def summary (r : Request) : String := r.method ++ " " ++ r.target

/-- The method and the target of a first line, which must have a third word. -/
def firstLine (line : List Char) : Except ProtocolError (String × String) :=
  match Text.words line with
  | method :: target :: _ :: _ => .ok (String.ofList method, String.ofList target)
  | _ =>
    let text := String.ofList line
    .error (.malformedRequest s!"can't parse method and URI from '{text}'")

/-- The field of a line, with its name in small letters. -/
def fieldOfLine (line : List Char) : Field :=
  let field := Field.ofLine line
  { field with name := Text.lower field.name }

/-- The body of a request whose head was cut from `rest`, where a length is declared. -/
def bodyOf (head rest : Bytes) (fields : List Field) : Except ProtocolError Bytes := do
  let length ← match first? fields contentLength with
    | some value => parseLength value
    | none => .ok 0
  if length = 0 then .ok []
  else
    let _ ← requestLength head.length length
    match Bytes.take? length rest with
    | some (body, _) => .ok body
    | none => .error .incomplete

/-- The request at the head of `data`, with the names of its fields in small letters. -/
def parse (data : Bytes) : Except ProtocolError Request :=
  match cutHead data with
  | none => .error (.malformedRequest "header terminator not found")
  | some (head, rest) => do
    let lines := headLines head
    let (method, target) ← firstLine (lines.headD [])
    let fields := lines.tail.map fieldOfLine
    let body ← bodyOf head rest fields
    return { method, target, fields, body }

/-- The bytes of a request whose first line ends with a version. -/
def encode (version : String) (r : Request) : Bytes :=
  encodeHead (s!"{r.method} {r.target} {version}" :: r.fields.map Field.text) ++ r.body

end Request

end Http

end WebSocket
