import WebSocket.Client.Incoming
import WebSocket.Handshake
import WebSocket.Message
import WebSocket.Text.Lines

/-!
# The client's side of a connection

A client asks the server to switch protocols, checks the answer, and then says something and waits
for a message, again and again.

## Main definitions

* `Client.request`, `Client.checkAnswer` — what the client asks, and whether it got that.
* `Client.receiveAnswer` — reading and checking the answer.
* `Client.say`, `Client.goodbye` — what the client sends after that.
* `Client.receiveMessage` — the next message of the server.
-/

namespace WebSocket

namespace Client

/-! ### The upgrade -/

/-- The key that a client makes of random bytes. -/
def key (nonce : Bytes) : String := Text.base64 nonce

/-- The version of HTTP that a client speaks. -/
def version : String := "HTTP/1.1"

/-- The request to switch protocols. -/
def request (host path key : String) : Http.Request where
  method := "GET"
  target := path
  fields := [⟨"Host", host⟩, ⟨"Upgrade", "websocket"⟩, ⟨"Connection", "Upgrade"⟩,
    ⟨"Sec-WebSocket-Key", key⟩, ⟨"Sec-WebSocket-Version", "13"⟩]
  body := []

/-- How an answer begins that agrees to switch protocols. -/
def agreement : String := version ++ " 101"

/-- Whether the head of an answer, up to its empty line, agrees to switch protocols and proves that
the server has read the key. -/
def checkAnswer (key : String) (head : Bytes) : Except ClientError Unit :=
  let text := Text.Utf8.decode head
  let lines := Text.lines text
  let proves (line : List Char) : Bool :=
    let field := Http.Field.ofLine line
    Text.Caseless field.name "Sec-WebSocket-Accept" && field.value == acceptKey key
  if !agreement.toList.isPrefixOf text then .error (.refused (String.ofList (lines.headD [])))
  else if lines.any proves then .ok ()
  else .error .wrongAccept

/-- The head of an answer together with its empty line, and what follows it. -/
def cutAnswer (data : Bytes) : Except ClientError (Option (Bytes × Bytes)) :=
  .ok ((Http.cutHead data).map fun parts => (parts.1 ++ Http.headEnd, parts.2))

/-- The answer to the request read and checked; what arrived behind it is kept. -/
def receiveAnswer (key : String) (i : Incoming) : Except ClientError Incoming := do
  let (head, i) ← i.readUntil cutAnswer
  checkAnswer key head
  return i

/-! ### Messages -/

/-- The frame that says a text. -/
def say (mask : MaskKey) (text : String) : Bytes :=
  Frame.encode .text true (Text.utf8 text) (some mask)

/-- The frame that asks to end the connection. -/
def goodbye (mask : MaskKey) : Bytes := Frame.encode .close true [] (some mask)

/-- A client takes messages of any length: its limit is the largest of 64 bits. -/
def limit : Nat := Text.wordLimit - 1

/-- The message at the head of `data`, and what follows it; nothing while it is incomplete. -/
def cutMessage (data : Bytes) : Except ClientError (Option (Message × Bytes)) :=
  match Frame.scan limit data with
  | .error e => .error (.protocol e)
  | .ok none => .ok none
  | .ok (some frames) =>
    match Message.ofFrames data frames with
    | .error e => .error (.protocol e)
    | .ok m => .ok (some (m, data.drop (Frame.totalLength frames)))

/-- The next message of the server; what arrived behind it is kept. -/
def receiveMessage (i : Incoming) : Except ClientError (Message × Incoming) :=
  i.readUntil cutMessage

/-! ### Telling -/

/-- What is printed once the server has agreed. -/
def connectedLine (address path : String) : String := s!"Connected to {address}{path}"

/-- What is printed of the answer to a text. -/
def replyLine (round : Nat) (text : String) (reply : Message) : String :=
  s!"[{round}] sent '{text}' → {reply.summary}"

/-- What is printed at the end. -/
def closedLine : Except ClientError Message → String
  | .ok reply => s!"Closed: {reply.summary}"
  | .error e => s!"Closed without reply: {e.message}"

end Client

end WebSocket
