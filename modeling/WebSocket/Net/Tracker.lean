import WebSocket.Notice

/-!
# Counting connections

Every connection gets a number of its own, and a server knows how many of its connections are alive
and how many there have been.

## Main definitions

* `Tracker` — the counts.
* `Tracker.track`, `Tracker.release` — a connection begins, and ends.
-/

namespace WebSocket

/-- The counts of a server's connections. -/
structure Tracker where
  /-- The number that the next connection gets. -/
  next : Nat
  active : Nat
  opened : Nat
  deriving DecidableEq, Repr

namespace Tracker

/-- Nothing counted yet; numbers start with 1. -/
def new : Tracker := ⟨1, 0, 0⟩

/-- A number that no other connection gets. -/
def newId (t : Tracker) : ConnectionId × Tracker := (⟨t.next⟩, { t with next := t.next + 1 })

/-- A connection begins. -/
def track (t : Tracker) : ConnectionId × Tracker :=
  (⟨t.next⟩, ⟨t.next + 1, t.active + 1, t.opened + 1⟩)

/-- A connection that was tracked ends. -/
def release (t : Tracker) : Tracker := { t with active := t.active - 1 }

end Tracker

end WebSocket
