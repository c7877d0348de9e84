/-!
# Stop flags

A thread and those who want it to end share a flag.  Whoever sleeps looks at it all the time.

## Main definitions

* `StopFlag` — the flag, with `StopFlag.raise`, `StopFlag.lower` and `StopFlag.sleep`.
-/

namespace WebSocket

/-- A flag that asks everyone who holds it to stop. -/
structure StopFlag where
  raised : Bool
  deriving DecidableEq, Repr

namespace StopFlag

/-- Nobody is asked to stop. -/
def new : StopFlag := ⟨false⟩

/-- Everyone who holds the flag is asked to stop. -/
def raise (_ : StopFlag) : StopFlag := ⟨true⟩

/-- Nobody is asked to stop any more. -/
def lower (_ : StopFlag) : StopFlag := ⟨false⟩

/-- A sleep during which nobody touches the flag: whether it runs to its end.  Under a raised flag
even the shortest does not. -/
def sleep (f : StopFlag) : Bool := !f.raised

end StopFlag

end WebSocket
