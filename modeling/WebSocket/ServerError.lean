import WebSocket.Dispatch.Error
import WebSocket.Settings.Error

/-!
# What goes wrong with a server

## Main definitions

* `ServerError` — why a server did not start, or what one of its loops met.
-/

namespace WebSocket

/-- Why a server did not start, or what one of its loops met. -/
inductive ServerError
  | invalidAddress (address : String)
  /-- The address cannot be listened on. -/
  | bind (address detail : String)
  /-- A thread could not be started. -/
  | spawn (name detail : String)
  /-- An iteration of a loop panicked. -/
  | loopPanicked (name detail : String)
  | io (detail : String)
  | dispatch (cause : DispatchError)
  | settings (cause : SettingsError)
  deriving DecidableEq, Repr

/-- The name of a server's failure. -/
def ServerError.name : ServerError → String
  | invalidAddress _ => "InvalidAddress"
  | bind .. => "Bind"
  | spawn .. => "Spawn"
  | loopPanicked .. => "LoopPanicked"
  | io _ => "Io"
  | dispatch _ => "Dispatch"
  | settings _ => "Config"

/-- The wording of a server's failure. -/
def ServerError.message : ServerError → String
  | invalidAddress address => s!"invalid bind address '{address}'"
  | bind address detail => s!"failed to bind {address}: {detail}"
  | spawn name detail => s!"failed to spawn thread '{name}': {detail}"
  | loopPanicked name detail => s!"loop '{name}' panicked: {detail}"
  | io detail => s!"I/O error: {detail}"
  | dispatch cause => cause.message
  | settings cause => cause.message

end WebSocket
