import WebSocket.Http.Field

/-!
# Responses

A response is a status, header fields in the order in which they were first set, and a body.

## Main definitions

* `Http.Response.new` — a response that no one may keep.
* `Http.Response.setHeader`, `Http.Response.setBody` — filling it in.
* `Http.Response.encode` — its bytes.
-/

namespace WebSocket

namespace Http

/-- A response in the making. -/
structure Response where
  status : Nat
  fields : List Field
  body : Bytes
  deriving DecidableEq, Repr

/-- The words that go with a status; statuses that are never sent have none. -/
def reasonPhrase (status : Nat) : String :=
  match status with
  | 101 => "Switching Protocols"
  | 200 => "OK"
  | 301 => "Moved Permanently"
  | 302 => "Found"
  | 400 => "Bad Request"
  | 404 => "Not Found"
  | 500 => "Server Error"
  | _ => ""

namespace Response

/-- The value of a header field. -/
def header? (r : Response) (name : String) : Option String := first? r.fields name

/-- A header field set, in place of a value it had before. -/
def setHeader (r : Response) (name value : String) : Response :=
  { r with fields := put r.fields name value }

/-- The body and its type set. -/
def setBody (r : Response) (body : Bytes) (type : String) : Response :=
  { r with body }.setHeader "Content-Type" type

/-- An empty response that tells everyone between the two sides not to keep it. -/
def new (status : Nat) : Response :=
  Response.mk status [] []
    |>.setHeader "Cache-Control" "no-cache, no-store, must-revalidate"
    |>.setHeader "Pragma" "no-cache"
    |>.setHeader "Expires" "0"

/-- The first status whose response declares the length of its body. -/
def firstFinalStatus : Nat := 200

/-- The lines of the head: the status, the fields, and, except for an interim response, the length
of the body. -/
def headLines (r : Response) : List String :=
  let status := s!"HTTP/1.1 {r.status} {reasonPhrase r.status}"
  let length := if r.status ≥ firstFinalStatus then [s!"Content-Length: {r.body.length}"] else []
  status :: (r.fields.map Field.text ++ length)

/-- The bytes of the response: its head and its body. -/
def encode (r : Response) : Bytes := encodeHead r.headLines ++ r.body

end Response

end Http

end WebSocket
