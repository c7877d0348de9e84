import WebSocket.Frame.Sequence
import WebSocket.Handshake
import WebSocket.Text.Utf8

/-!
# Messages

What the frames of a connection say once they are put together: a handshake, a control message, or
a text or binary message that may have had control messages between its fragments.

## Main definitions

* `Control`, `Message` — the messages.
* `DataKind`, `Message.ofFrames` — putting a message together from its frames.
* `Message.encode` — the bytes with which a message is sent.
* `Message.summary` — a message told in one line.
-/

namespace WebSocket

/-- The control messages. -/
inductive ControlKind
  | close
  | ping
  | pong
  deriving DecidableEq, Repr

namespace ControlKind

/-- The opcode of a control message. -/
def opcode : ControlKind → Opcode
  | close => .close
  | ping => .ping
  | pong => .pong

/-- The control message that frames of an opcode carry. -/
def ofOpcode? : Opcode → Option ControlKind
  | .close => some close
  | .ping => some ping
  | .pong => some pong
  | .continuation | .text | .binary => none

@[simp] theorem ofOpcode?_opcode (k : ControlKind) : ofOpcode? k.opcode = some k := by
  cases k <;> rfl

theorem isSome_ofOpcode? (op : Opcode) : (ofOpcode? op).isSome = op.isControl := by
  cases op <;> rfl

end ControlKind

/-- A close, ping or pong with what it carries. -/
structure Control where
  kind : ControlKind
  payload : Bytes
  deriving DecidableEq, Repr

/-- What kind of message it is, for logs and for the application. -/
inductive MessageKind
  | handshake
  | close
  | ping
  | pong
  | binary
  | text
  deriving DecidableEq, Repr

/-- The kinds of messages. -/
def MessageKind.all : List MessageKind := [handshake, close, ping, pong, binary, text]

/-- The name of a kind of message. -/
def MessageKind.label : MessageKind → String
  | handshake => "HANDSHAKE"
  | close => "CLOSE"
  | ping => "PING"
  | pong => "PONG"
  | binary => "BINARY"
  | text => "TEXT"

/-- One unit that was decoded from a connection or is to be sent on it. -/
inductive Message
  | handshake (handshake : Handshake)
  | control (control : Control)
  /-- A text, and the control messages between its fragments. -/
  | text (text : String) (controls : List Control)
  /-- Binary data, and the control messages between its fragments. -/
  | binary (data : Bytes) (controls : List Control)
  deriving DecidableEq, Repr

namespace Message

/-- The message that asks to close. -/
def close : Message := .control ⟨.close, []⟩

/-- The message that asks for a sign of life. -/
def ping : Message := .control ⟨.ping, []⟩

/-- The message that gives one. -/
def pong : Message := .control ⟨.pong, []⟩

def kind : Message → MessageKind
  | .handshake _ => .handshake
  | .control ⟨.close, _⟩ => .close
  | .control ⟨.ping, _⟩ => .ping
  | .control ⟨.pong, _⟩ => .pong
  | .text .. => .text
  | .binary .. => .binary

/-- Handshakes and control messages are for the connection; the application never sees them. -/
def isControl : Message → Bool
  | .handshake _ | .control _ => true
  | .text .. | .binary .. => false

/-- The text of a text message. -/
def text? : Message → Option String
  | .text s _ => some s
  | _ => none

/-- The data of a binary message. -/
def binary? : Message → Option Bytes
  | .binary data _ => some data
  | _ => none

/-- The bytes a message carries; a handshake carries the body of its request. -/
def payload : Message → Bytes
  | .handshake h => h.request.body
  | .control c => c.payload
  | .text s _ => Text.utf8 s
  | .binary data _ => data

/-- The control messages between the fragments of a data message. -/
def controls : Message → List Control
  | .text _ controls | .binary _ controls => controls
  | .handshake _ | .control _ => []

/-! ### Sending -/

/-- The bytes with which a message is sent: a handshake as its response, a control message as a
bare frame, data as one final frame without a mask. -/
def encode : Message → Bytes
  | .handshake h => h.response.encode
  | .control c => Frame.encode c.kind.opcode true [] none
  | .text s _ => Frame.encode .text true (Text.utf8 s) none
  | .binary data _ => Frame.encode .binary true data none

/-! ### Telling -/

/-- How much of a message is told: so many characters of a text, so many bytes of data. -/
def previewLimit : Nat := 500

/-- A message told in one line. -/
def summary (m : Message) : String :=
  let label := m.kind.label
  match m with
  | .handshake h => s!"{label}: {h.request.summary}"
  | .control _ => label
  | .text s _ =>
    if s.isEmpty then label
    else
      let preview := String.ofList (s.toList.take previewLimit)
      let more := if s.length > previewLimit then "..." else ""
      s!"{label}: '{preview}{more}', size: {s.utf8ByteSize}"
  | .binary data _ =>
    if data.isEmpty then label
    else
      let preview := ",".intercalate ((data.take previewLimit).map fun b => toString b.toNat)
      let more := if data.length > previewLimit then ",..." else ""
      s!"{label}: [{preview}{more}], size: {data.length}"

end Message

/-! ### Putting a message together -/

/-- The two kinds of data a message can have. -/
inductive DataKind
  | text
  | binary
  deriving DecidableEq, Repr

/-- The kind of data after one more data frame: the first one decides, and the others continue
it. -/
def DataKind.continued : Option DataKind → Opcode → Except ProtocolError DataKind
  | none, .text => .ok .text
  | none, .binary => .ok .binary
  | none, _ => .error .unexpectedContinuation
  | some kind, .continuation => .ok kind
  | some _, _ => .error .expectedContinuation

/-- The kind of data that data frames make up together, if there are any. -/
def DataKind.ofFrames (frames : List Frame) : Except ProtocolError (Option DataKind) :=
  frames.foldlM (fun kind f => (continued kind f.opcode).map some) none

/-- The control message in a control frame. -/
def Control.ofFrame? (data : Array UInt8) (f : Frame) : Option Control :=
  (ControlKind.ofOpcode? f.opcode).map fun kind => ⟨kind, f.payloadIn data⟩

/-- The message that frames of the byte string `data` make up: the data of its data frames, and the
control messages in between.  Without a data frame it is the first control message. -/
def Message.ofFrames (data : Bytes) (frames : List Frame) : Except ProtocolError Message :=
  let data := data.toArray
  let carriers := frames.filter fun f => !f.opcode.isControl
  let controls := frames.filterMap (Control.ofFrame? data)
  let payload := carriers.flatMap (·.payloadIn data)
  match DataKind.ofFrames carriers with
  | .error e => .error e
  | .ok (some .text) =>
    match Text.ofUtf8? payload with
    | some s => .ok (.text s controls)
    | none => .error .invalidText
  | .ok (some .binary) => .ok (.binary payload controls)
  | .ok none =>
    match controls with
    | c :: _ => .ok (.control c)
    | [] => .error .incomplete

end WebSocket
