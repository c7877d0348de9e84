import WebSocket.ProtocolError

/-!
# What ends a client

## Main definitions

* `ClientError` — why a client gives up.
* `ClientError.message` — the wording.
-/

namespace WebSocket

/-- Why a client gives up. -/
inductive ClientError
  /-- The system cannot read or write. -/
  | io (detail : String)
  | serverClosed
  /-- The server answered the request with this line instead of switching protocols. -/
  | refused (line : String)
  /-- The server did not prove that it had read the key. -/
  | wrongAccept
  /-- What the server sent is no message. -/
  | protocol (cause : ProtocolError)
  deriving DecidableEq, Repr

/-- The wording of a client's failure. -/
def ClientError.message : ClientError → String
  | io detail => detail
  | serverClosed => "server closed the connection"
  | refused line => s!"upgrade refused: {line}"
  | wrongAccept => "server sent a wrong Sec-WebSocket-Accept"
  | protocol cause => cause.message

end WebSocket
