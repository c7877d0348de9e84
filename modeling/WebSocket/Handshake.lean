import WebSocket.Digest.Sha1
import WebSocket.Http.Request
import WebSocket.Http.Response
import WebSocket.Text.Base64

/-!
# The opening handshake

A client asks with an ordinary request to switch protocols and sends a key; the server answers with
a digest of that key, which shows that it understood.

## Main definitions

* `acceptKey` — the answer to a key.
* `Handshake`, `Handshake.ofRequest` — a request with the response it gets.
* `Handshake.parse` — the handshake that a byte string asks for.
-/

namespace WebSocket

/-- The text that is appended to every key before it is digested. -/
def acceptSalt : String := "258EAFA5-E914-47DA-95CA-C5AB0DC85B11"

/-- The answer to a key: the digest of the key and the salt, in Base64. -/
def acceptKey (key : String) : String :=
  Text.base64 (sha1 (Text.utf8 key ++ Text.utf8 acceptSalt))

/-- An upgrade request together with the response it gets. -/
structure Handshake where
  request : Http.Request
  response : Http.Response
  deriving DecidableEq, Repr

namespace Handshake

/-- The response to an upgrade request with a key.  A subprotocol is agreed to as it was asked for,
and a request from a page of any origin is welcome. -/
def accept (request : Http.Request) (key : String) : Http.Response :=
  let response := Http.Response.new 101
    |>.setHeader "Upgrade" "websocket"
    |>.setHeader "Connection" "Upgrade"
    |>.setHeader "Sec-WebSocket-Accept" (acceptKey key)
  let response := match request.header? "Sec-WebSocket-Protocol" with
    | some protocol => response.setHeader "Sec-WebSocket-Protocol" protocol
    | none => response
  if (request.header? "Origin").isSome then response.setHeader "Access-Control-Allow-Origin" "*"
  else response

/-- The handshake that a request asks for; without a key there is none. -/
def ofRequest (request : Http.Request) : Except ProtocolError Handshake :=
  match request.header? "Sec-WebSocket-Key" with
  | some key => .ok { request, response := accept request key }
  | none => .error .missingKey

/-- The handshake that the request at the head of `data` asks for. -/
def parse (data : Bytes) : Except ProtocolError Handshake := do
  ofRequest (← Http.Request.parse data)

end Handshake

end WebSocket
