import WebSocket.Text.Blank
import WebSocket.Text.Form

/-!
# Request targets

The target of a request may be a path or a whole address; it may carry a query.

## Main definitions

* `Http.Target.path` — the path, without scheme, authority and query.
* `Http.Target.query` — the parameters of the query.
* `Http.Target.collapseDots` — a path without the segments that stand for the same place.
-/

namespace WebSocket

namespace Http

namespace Target

/-- A segment that stands for the same place, between its slashes. -/
def dotSegment : List Char := ['/', '.', '/']

/-- `path` with every dot segment between two slashes taken out, over and over until none is
left. -/
def collapseDots (path : List Char) : List Char :=
  if _h : (Text.cut dotSegment path).isSome then
    collapseDots (Text.replaceAll dotSegment ['/'] path)
  else path
termination_by path.length
decreasing_by exact Text.length_replaceAll_lt (by decide) _h

/-- The part of a target from its path on: behind the scheme, from the first slash, or all of it
where there is no slash. -/
def fromPath (target : List Char) : List Char :=
  let target := Text.trim target
  let rest := match Text.cut [':', '/', '/'] target with
    | some (_, rest) => rest
    | none => target
  match Text.cut ['/'] rest with
  | some (_, path) => '/' :: path
  | none => rest

/-- The path of a target, up to the first question mark. -/
def path (target : String) : String :=
  let rest := fromPath target.toList
  let path := match Text.cut ['?'] rest with
    | some (path, _) => path
    | none => rest
  String.ofList (collapseDots path)

/-- The parameters of a target, read from what follows its last question mark. -/
def query (target : String) : List (String × String) :=
  match Text.cutLast '?' target.toList with
  | some (_, query) => Text.Form.parameters (Text.utf8 (String.ofList query))
  | none => []

end Target

end Http

end WebSocket
