import WebSocket.Session.Basic

/-!
# Settings

What an operator can set, in five sections.  Times are in milliseconds.

## Main definitions

* `Settings` — the settings, with those of each section; the defaults are those of the fields.
* `Settings.policy`, `Settings.session` — what sessions need of them.
-/

namespace WebSocket

/-- Where connections are accepted. -/
structure ListenerSettings where
  bindAddress : String := "0.0.0.0:8888"
  /-- How many connections may wait to be accepted. -/
  backlog : Nat := 100
  /-- The longest wait for connections. -/
  pollTimeout : Nat := 100
  deriving DecidableEq, Repr

/-- How often sessions are looked after. -/
structure HubSettings where
  /-- The longest wait for readiness. -/
  pollTimeout : Nat := 5
  /-- The time between heartbeats. -/
  heartbeatInterval : Nat := 5
  deriving DecidableEq, Repr

/-- How sessions read and write. -/
structure WireSettings where
  outboxCapacity : Nat := 3000
  bufferSize : Nat := 1024
  packetLimit : Nat := 10 * 1024 * 1024
  forwardedHeader : String := "X-Forwarded-For"
  requireMask : Bool := true
  deriving DecidableEq, Repr

/-- How messages reach the application. -/
structure DispatchSettings where
  workers : Nat := 4
  queueCapacity : Nat := 10000
  /-- How long a message waits for room in the queue. -/
  enqueueTimeout : Nat := 100
  /-- The longest sleep of an idle worker. -/
  idleBackoff : Nat := 100
  deriving DecidableEq, Repr

/-- How a log is written. -/
inductive LogFormat
  | pretty
  | compact
  | json
  deriving DecidableEq, Repr

/-- The name of a format. -/
def LogFormat.label : LogFormat → String
  | pretty => "pretty"
  | compact => "compact"
  | json => "json"

/-- The formats. -/
def LogFormat.all : List LogFormat := [pretty, compact, json]

/-- What operators get to see. -/
structure ObservabilitySettings where
  logLevel : String := "info"
  logFormat : LogFormat := .pretty
  metricsEnabled : Bool := false
  metricsAddress : String := "0.0.0.0:9090"
  deriving DecidableEq, Repr

/-- The least rank of the events that are logged.  Without a level that is known, what needs
attention is logged. -/
def ObservabilitySettings.leastRank (s : ObservabilitySettings) : Nat :=
  match Text.lower s.logLevel with
  | "trace" => Level.trace.rank
  | "debug" => Level.debug.rank
  | "info" => Level.info.rank
  | "error" => Level.error.rank
  | "off" => Level.error.rank + 1
  | _ => Level.warn.rank

/-- All settings of a server. -/
structure Settings where
  listener : ListenerSettings := {}
  hub : HubSettings := {}
  wire : WireSettings := {}
  dispatch : DispatchSettings := {}
  observability : ObservabilitySettings := {}
  deriving DecidableEq, Repr

namespace Settings

/-- How sessions read what clients send. -/
def policy (s : Settings) : Policy :=
  ⟨s.wire.packetLimit, s.wire.requireMask, s.wire.forwardedHeader⟩

/-- Sizes and rules for sessions. -/
def session (s : Settings) : SessionSettings :=
  ⟨s.wire.outboxCapacity, s.wire.bufferSize, s.policy⟩

end Settings

end WebSocket
