/-!
# Panics

## Main definitions

* `PanicPayload` — what a panic carries.
* `PanicPayload.message` — its text, as far as it has one.
-/

namespace WebSocket

/-- What a panic carries. -/
inductive PanicPayload
  | text (s : String)
  /-- Something that is no text. -/
  | other
  deriving DecidableEq, Repr

/-- The text of a panic. -/
def PanicPayload.message : PanicPayload → String
  | text s => s
  | other => "non-string panic payload"

end WebSocket
