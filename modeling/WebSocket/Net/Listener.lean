import WebSocket.Hub
import WebSocket.Settings.Basic

/-!
# Listening

A server listens on an address and hands every connection that it accepts to the hub.

## Main definitions

* `Network` — what the system answers when somebody wants to listen.
* `Listener` — a socket that accepts connections.
* `Listener.bind`, `Listener.accept`, `Listener.close` — its life.
-/

namespace WebSocket

/-- What the system answers when somebody wants to listen on an address: the address that is
listened on, with its port chosen if it was zero, or what went wrong. -/
abbrev Network := SocketAddress → Except String SocketAddress

/-- A socket that accepts connections. -/
structure Listener where
  address : SocketAddress
  backlog : Nat
  deriving DecidableEq, Repr

namespace Listener

/-- Listening begins on the address in the settings. -/
def bind (network : Network) (s : ListenerSettings) : Except ServerError (Listener × List Notice) :=
  match SocketAddress.parse? s.bindAddress with
  | none => .error (.invalidAddress s.bindAddress)
  | some wanted =>
    match network wanted with
    | .error detail => .error (.bind s.bindAddress detail)
    | .ok address => .ok (⟨address, s.backlog⟩, [.log (.listenerBound address s.backlog)])

/-- A connection accepted, and handed to the hub. -/
def accept (c : Connection) (h : Hub) : Hub × List Notice :=
  (h.accept c, [.log (.connectionAccepted c.peer)])

/-- Listening ends. -/
def close (l : Listener) : List Notice := [.log (.listenerClosed l.address)]

end Listener

end WebSocket
