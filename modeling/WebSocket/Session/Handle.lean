import WebSocket.Session.Outbox

/-!
# The handle of a session

The application holds a session by its handle: it can queue messages, ask for the session to be
closed, and keep values with it.  A handle never touches the socket, and it outlives the session.

## Main definitions

* `Value` — what can be kept with a session.
* `Handle` — the handle.
* `Handle.queue`, `Handle.requestClose`, `Handle.bindForwarded` — what is done through it.
* `Handle.markClosed` — the session is gone.
-/

namespace WebSocket

/-- A value kept with a session. -/
inductive Value
  | text (s : String)
  | word32 (n : UInt32)
  | word64 (n : UInt64)
  | flag (b : Bool)
  deriving DecidableEq, Repr

/-- What everyone but its own loop sees of a session. -/
structure Handle where
  id : ConnectionId
  peer : SocketAddress
  outbox : Outbox
  closeRequested : Bool
  /-- The socket was released. -/
  closed : Bool
  /-- The client's address as a trusted proxy gave it. -/
  forwarded : Option String
  /-- Values kept under names; the newest of a name counts. -/
  values : List (String × Value)
  deriving DecidableEq, Repr

namespace Handle

/-- The handle of a session that has just begun. -/
def new (id : ConnectionId) (peer : SocketAddress) (capacity : Nat) : Handle :=
  ⟨id, peer, .new capacity, false, false, none, []⟩

/-- The address of the client: the one a proxy gave, or else that of the other end. -/
def remoteAddress (h : Handle) : String := h.forwarded.getD h.peer.ip.text

/-- A message queued for sending. -/
def queue (h : Handle) (m : Message) : Except SessionError Handle :=
  if h.closed then .error .closed
  else (h.outbox.push m.encode m.kind).map fun (_, outbox) => { h with outbox }

/-- The session asked to close; told once. -/
def requestClose (h : Handle) : Handle × List Notice :=
  ({ h with closeRequested := true },
    if h.closeRequested then [] else [.log (.closeRequested h.id)])

/-- The session is gone. -/
def markClosed (h : Handle) : Handle := { h with closeRequested := true, closed := true }

/-- The address that a proxy gave remembered. -/
def bindForwarded (h : Handle) (address : String) : Handle × List Notice :=
  ({ h with forwarded := some address }, [.log (.forwardedBound h.id address)])

/-! ### Values -/

/-- The value kept under a name. -/
def value? (h : Handle) (name : String) : Option Value := h.values.lookup name

/-- The values without those of a name. -/
def forget (h : Handle) (name : String) : Handle :=
  { h with values := h.values.filter fun entry => entry.1 ≠ name }

/-- A value kept under a name, in place of one that was there. -/
def keep (h : Handle) (name : String) (value : Value) : Handle :=
  { h with values := (name, value) :: (h.forget name).values }

/-! ### Telling -/

/-- The session and its client in a few words. -/
def summary (h : Handle) : String := s!"{h.id.text} ({h.peer.text})"

/-- A message of the session in one line. -/
def caption (h : Handle) (m : Message) : String := s!"{m.summary} from {h.summary}"

/-- The state of the session for someone who looks for a mistake. -/
def inspect (h : Handle) : String :=
  let opening := "SessionHandle \x7b id: ConnectionId("
  opening ++ s!"{h.id.number}), peer_addr: {h.peer.text}, outbound: {h.outbox.pending}, " ++
    s!"closed: {h.closed} \x7d"

end Handle

end WebSocket
