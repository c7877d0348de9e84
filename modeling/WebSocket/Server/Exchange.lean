import WebSocket.Server.Run

/-!
# A server and the network

Whoever owns the real connections moves the server by turns: what has arrived is put in, a turn does
all the work there is, and what was written is fetched and sent.

## Main definitions

* `Server.turn` — all the work there is.
* `Server.fetch` — what a client is to receive next.
-/

namespace WebSocket

/-- What a client is to receive: bytes, and after them perhaps the end of the connection. -/
structure Shipment where
  bytes : Bytes
  ended : Bool
  deriving DecidableEq, Repr

/-- The socket after the bytes that it took were sent. -/
def Socket.emptied (s : Socket) : Socket :=
  { s with outgoing := .new s.outgoing.acceptances }

namespace Hub

/-- The hub after all that was written to a connection was sent; one that has ended is forgotten. -/
def shipped (h : Hub) (serial : Nat) : Hub :=
  let touch (e : Entry) : Entry :=
    if e.serial = serial then
      { e with session := { e.session with socket := e.session.socket.emptied } }
    else e
  { h with
    entries := h.entries.map touch
    released := h.released.filter fun e => e.serial ≠ serial
    dropped := h.dropped.filter fun c => c.serial ≠ serial }

end Hub

namespace Server

/-- The tasks of the pool done one after the other, until none is open. -/
def work (app : Service) (s : Server) : Step :=
  (s.pool.handling ++ s.pool.queue).foldl
    (fun step _ => (step.andThen (move app .take)).andThen (move app (.complete 0))) ⟨s, []⟩

/-- All connections that wait registered, all sessions served, and all messages handled.  With a
heartbeat the sessions also send what the application answered before. -/
def turn (app : Service) (heartbeatDue : Bool) (s : Server) : Step :=
  let served := s.move app (.iterate s.hub.waiting.length heartbeatDue)
  (served.andThen (dispatchAll app)).andThen (work app)

/-- What a client is to receive next, and the server after it was sent. -/
def fetch (serial : Nat) (s : Server) : Shipment × Server :=
  match s.hub.socket? serial with
  | none => (⟨[], true⟩, s)
  | some socket =>
    (⟨socket.outgoing.taken, socket.hungUp⟩, { s with hub := s.hub.shipped serial })

end Server

end WebSocket
