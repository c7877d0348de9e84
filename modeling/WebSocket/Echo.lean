import WebSocket.Server.Run

/-!
# The application that sends everything back

Every text and every binary message goes back to its sender, and each session keeps count of them.

## Main definitions

* `echo` — the application.
* `Echo.notices` — what it and the server tell while it runs.
-/

namespace WebSocket

namespace Echo

/-- The name under which a session keeps the number of its messages. -/
def countKey : String := "echoed"

/-- How many messages a session has sent, with this one. -/
def nextCount (h : Handle) : UInt64 :=
  match h.value? countKey with
  | some (.word64 n) => n + 1
  | _ => 1

/-- A message counted and sent back. -/
def reply (h : Handle) (m : Message) : Handling :=
  let count := nextCount h
  let counted := h.keep countKey (.word64 count)
  let told := [Notice.log (.messageEchoed h.id h.remoteAddress count.toNat m.summary)]
  match counted.queue m with
  | .ok queued => ⟨queued, told, none⟩
  | .error e => ⟨counted, told, some (.failed e.message)⟩

/-- What is told because of an effect. -/
def notices : ServerEffect → List Notice
  | .told n | .pool (.notice n) | .session (.notice n) => [n]
  | .pool (.call (.failed _ cause)) => [.log (.taskFailed cause)]
  | .pool (.call (.rejected task)) => [.log (.messageDropped task.session)]
  | .pool (.call (.handled ..)) | .session (.delivered ..) => []

end Echo

/-- The application that sends every message back.  None of its callbacks panics. -/
def echo : Service where
  handle := Echo.reply
  panicsOnError _ _ := false
  panicsOnReject _ := false
  onFailure _ := false

end WebSocket
