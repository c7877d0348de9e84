/-!
# What goes wrong between a message and its handler

## Main definitions

* `HandlerError` — why a task did not end well.
* `DispatchError` — why a task was not taken, or a pool did not start.
-/

namespace WebSocket

/-- Why a task did not end well. -/
inductive HandlerError
  | failed (detail : String)
  | panicked (detail : String)
  deriving DecidableEq, Repr

/-- The name of a task's failure. -/
def HandlerError.name : HandlerError → String
  | failed _ => "Failed"
  | panicked _ => "Panicked"

/-- The wording of a task's failure. -/
def HandlerError.message : HandlerError → String
  | failed detail => s!"handler failed: {detail}"
  | panicked detail => s!"handler panicked: {detail}"

/-- Why a task was not taken, or a pool did not start. -/
inductive DispatchError
  /-- The queue stayed full. -/
  | rejected (capacity : Nat)
  /-- There are no workers. -/
  | notRunning
  /-- A worker could not be started. -/
  | spawn (index : Nat) (detail : String)
  deriving DecidableEq, Repr

/-- The name of a refusal. -/
def DispatchError.name : DispatchError → String
  | rejected _ => "Rejected"
  | notRunning => "NotRunning"
  | spawn .. => "Spawn"

/-- The wording of a refusal. -/
def DispatchError.message : DispatchError → String
  | rejected capacity => s!"dispatch queue full ({capacity} tasks), task rejected"
  | notRunning => "worker pool is not running"
  | spawn index detail => s!"failed to spawn worker {index}: {detail}"

end WebSocket
