import WebSocket.ProtocolError

/-!
# What ends a session

A session ends when its socket fails, when its client breaks the protocol or hangs up, when too much
waits to be sent, or when the application refuses a message by panicking.

## Main definitions

* `SessionError` — the causes, with `SessionError.message`.
* `CloseReason` — the short label of why a session was closed, with `SessionError.reason`.
-/

namespace WebSocket

/-- Results can be compared. -/
instance decidableEqExcept {ε α : Type} [DecidableEq ε] [DecidableEq α] : DecidableEq (Except ε α)
  | .ok a, .ok b => decidable_of_iff (a = b) (by simp)
  | .error a, .error b => decidable_of_iff (a = b) (by simp)
  | .ok _, .error _ => isFalse (by simp)
  | .error _, .ok _ => isFalse (by simp)

/-- Why a session was closed, for logs and counters. -/
inductive CloseReason
  | requested
  | shutdown
  | ioError
  | peerClosed
  | protocolError
  | outboundOverflow
  | closed
  | panic
  deriving DecidableEq, Repr

/-- The label of a reason. -/
def CloseReason.label : CloseReason → String
  | requested => "requested"
  | shutdown => "shutdown"
  | ioError => "io_error"
  | peerClosed => "peer_closed"
  | protocolError => "protocol_error"
  | outboundOverflow => "outbound_overflow"
  | closed => "closed"
  | panic => "panic"

/-- What ends a session, or refuses work on it. -/
inductive SessionError
  /-- The socket failed, and how. -/
  | io (detail : String)
  /-- The client ended its direction. -/
  | peerClosed
  | protocol (cause : ProtocolError)
  /-- The receive buffer is full at its largest size. -/
  | bufferFull (ceiling : Nat)
  /-- As many packets wait to be sent as may wait. -/
  | outboxFull (capacity : Nat)
  /-- The socket took no byte of a packet. -/
  | writeZero
  /-- The session is gone. -/
  | closed
  /-- The application panicked over a message. -/
  | panicked (detail : String)
  deriving DecidableEq, Repr

namespace SessionError

/-- The name of a cause. -/
def name : SessionError → String
  | io _ => "Io"
  | peerClosed => "PeerClosed"
  | protocol _ => "Protocol"
  | bufferFull _ => "Buffer"
  | outboxFull _ => "OutboundQueueFull"
  | writeZero => "WriteZero"
  | closed => "Closed"
  | panicked _ => "Panicked"

/-- The wording of a cause. -/
def message : SessionError → String
  | io detail => s!"I/O error: {detail}"
  | peerClosed => "peer closed the connection"
  | protocol cause => cause.message
  | bufferFull ceiling => s!"receive buffer would exceed the {ceiling} byte packet limit"
  | outboxFull capacity => s!"outbound queue is full ({capacity} packets)"
  | writeZero => "socket accepted zero bytes"
  | closed => "session is closed"
  | panicked detail => s!"session handling panicked: {detail}"

/-- The label under which a cause is counted. -/
def reason : SessionError → CloseReason
  | io _ | writeZero => .ioError
  | peerClosed => .peerClosed
  | protocol _ | bufferFull _ => .protocolError
  | outboxFull _ => .outboundOverflow
  | closed => .closed
  | panicked _ => .panic

end SessionError

end WebSocket
