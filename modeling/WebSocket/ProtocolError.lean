/-!
# Violations of the wire protocol

What can be wrong with the bytes a client sends.  Each cause ends the connection it came from.

## Main definitions

* `ProtocolError` — the causes.
* `ProtocolError.name`, `ProtocolError.message` — the name and the wording of each.
-/

namespace WebSocket

/-- What is wrong with the bytes of a client. -/
inductive ProtocolError
  /-- The low four bits of a frame name no opcode. -/
  | unknownOpcode (code : UInt8)
  /-- A unit of `size` bytes is more than the limit allows. -/
  | tooLarge (size limit : Nat)
  /-- A control frame without the final bit. -/
  | fragmentedControl
  /-- A frame without a mask where masks are required. -/
  | unmasked
  /-- A continuation with nothing to continue. -/
  | unexpectedContinuation
  /-- A new text or binary frame inside an unfinished message. -/
  | expectedContinuation
  /-- A text message whose bytes are no text. -/
  | invalidText
  /-- A request that cannot be read, and why. -/
  | malformedRequest (detail : String)
  /-- An upgrade request without its key. -/
  | missingKey
  /-- The bytes end before the unit does. -/
  | incomplete
  deriving DecidableEq, Repr

/-- The name of a violation. -/
def ProtocolError.name : ProtocolError → String
  | unknownOpcode _ => "UnknownOpcode"
  | tooLarge .. => "FrameTooLarge"
  | fragmentedControl => "FragmentedControl"
  | unmasked => "UnmaskedFrame"
  | unexpectedContinuation => "UnexpectedContinuation"
  | expectedContinuation => "ExpectedContinuation"
  | invalidText => "InvalidUtf8"
  | malformedRequest _ => "MalformedHttp"
  | missingKey => "MissingWebSocketKey"
  | incomplete => "Incomplete"

/-- A number in capital hexadecimal digits. -/
def capitalHex (n : Nat) : String := String.ofList ((Nat.toDigits 16 n).map Char.toUpper)

/-- The wording of a violation. -/
def ProtocolError.message : ProtocolError → String
  | unknownOpcode code => "unknown opcode 0x" ++ capitalHex code.toNat
  | tooLarge size limit => s!"{size} bytes exceed the {limit} byte packet limit"
  | fragmentedControl => "control frame must not be fragmented"
  | unmasked => "client frame is not masked"
  | unexpectedContinuation => "continuation frame without a preceding text or binary frame"
  | expectedContinuation => "new data frame while a fragmented message is still open"
  | invalidText => "text payload is not valid UTF-8"
  | malformedRequest detail => s!"malformed HTTP request: {detail}"
  | missingKey => "handshake is missing the Sec-WebSocket-Key header"
  | incomplete => "buffer does not contain a complete unit"

end WebSocket
