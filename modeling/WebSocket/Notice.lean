import WebSocket.Message
import WebSocket.Net.Address
import WebSocket.ServerError
import WebSocket.Session.Error

/-!
# What a server tells its operators

Every part of a server tells what it does: it moves a counter, sets a gauge, or logs an event.
Functions return these notices in order; what becomes of them is decided outside.

## Main definitions

* `ConnectionId` — the number of a connection.
* `Event`, `Event.entry` — the events and how they appear in a log.
* `Counter`, `Gauge` — what is counted and what is measured.
* `Notice` — one of these; `Notice.total`, `Notice.last?` say what a list of them adds up to.
-/

namespace WebSocket

/-- The number of a connection. -/
structure ConnectionId where
  number : Nat
  deriving DecidableEq, Repr

/-- The written form of the number of a connection. -/
def ConnectionId.text (id : ConnectionId) : String := s!"conn-{id.number}"

/-! ### Events -/

/-- How much an event matters. -/
inductive Level
  | trace
  | debug
  | info
  | warn
  | error
  deriving DecidableEq, Repr

/-- The name of a level. -/
def Level.label : Level → String
  | trace => "TRACE"
  | debug => "DEBUG"
  | info => "INFO"
  | warn => "WARN"
  | error => "ERROR"

/-- Levels from the least to the one that matters most. -/
def Level.rank : Level → Nat
  | trace => 0
  | debug => 1
  | info => 2
  | warn => 3
  | error => 4

/-- A line of a log: its level, its message, and named values. -/
structure LogEntry where
  level : Level
  message : String
  fields : List (String × String)
  deriving DecidableEq, Repr

/-- The line in full. -/
def LogEntry.text (e : LogEntry) : String :=
  let fields := e.fields.map fun (name, value) => s!" {name}={value}"
  e.level.label ++ " " ++ e.message ++ String.join fields

/-- The events that are logged. -/
inductive Event
  /-- A session and its client. -/
  | sessionOpened (id : ConnectionId) (peer : SocketAddress)
  | sessionNotRegistered (peer : SocketAddress) (detail : String)
  | sessionClosed (id : ConnectionId) (peer : SocketAddress) (reason : CloseReason)
  | sessionFailed (id : ConnectionId) (peer : SocketAddress) (cause : SessionError)
  | sessionReleased (id : ConnectionId)
  | closeRequested (id : ConnectionId)
  | forwardedBound (id : ConnectionId) (address : String)
  | messageReceived (id : ConnectionId) (summary : String)
  /-- Packets on their way out. -/
  | packetWritten (id : ConnectionId) (seq : Nat) (kind : MessageKind) (bytes : Nat)
  | packetFailed (id : ConnectionId) (seq : Nat) (kind : MessageKind)
  | packetsDiscarded (id : ConnectionId) (dropped : Nat)
  | finalFlushFailed (id : ConnectionId) (cause : SessionError)
  | hubStopped (sessions waiting : Nat)
  | messageNotDispatched (id : ConnectionId) (cause : DispatchError)
  /-- The worker pool. -/
  | poolStarted (pool : String) (workers capacity : Nat)
  | poolStopped (pool : String) (rejected : Nat)
  | rejectCallbackPanicked
  | errorCallbackPanicked (cause : HandlerError)
  | taskRejected
  | taskFailed (cause : HandlerError)
  /-- Loops and the server. -/
  | loopStarted (thread : String)
  | loopFailed (thread : String) (cause : ServerError)
  | loopStopped (thread : String)
  | loopPanicked (thread : String)
  | loopSurvived (cause : ServerError)
  | listenerBound (address : SocketAddress) (backlog : Nat)
  | connectionAccepted (peer : SocketAddress)
  | listenerClosed (address : SocketAddress)
  /-- The application that sends messages back. -/
  | messageEchoed (id : ConnectionId) (remote : String) (count : Nat) (summary : String)
  | messageDropped (id : ConnectionId)
  | serverRestarting
  | serverStarted (address : SocketAddress) (workers : Nat)
  | serverStopped
  deriving DecidableEq, Repr

namespace Event

/-- The line of a log that tells an event. -/
def entry : Event → LogEntry
  | sessionOpened id peer =>
    ⟨.debug, "Session opened", [("session_id", id.text), ("peer_addr", peer.text)]⟩
  | sessionNotRegistered peer detail =>
    ⟨.warn, "Failed to register session", [("peer_addr", peer.text), ("error", detail)]⟩
  | sessionClosed id peer reason =>
    ⟨.debug, "Session closed",
      [("session_id", id.text), ("peer_addr", peer.text), ("reason", reason.label)]⟩
  | sessionFailed id peer cause =>
    let fields :=
      [("session_id", id.text), ("peer_addr", peer.text), ("error", cause.message)]
    match cause with
    | .panicked _ => ⟨.error, "Session handling panicked, closing session", fields⟩
    | .protocol _ | .bufferFull _ => ⟨.warn, "Protocol violation, closing session", fields⟩
    | _ => ⟨.debug, "Session failed", fields⟩
  | sessionReleased id => ⟨.trace, "Session released", [("session_id", id.text)]⟩
  | closeRequested id => ⟨.debug, "Session close requested", [("session_id", id.text)]⟩
  | forwardedBound id address =>
    ⟨.debug, "Bound forwarded client address",
      [("session_id", id.text), ("forwarded_ip", address)]⟩
  | messageReceived id summary =>
    ⟨.trace, "Message received", [("session_id", id.text), ("message", summary)]⟩
  | packetWritten id seq kind bytes =>
    ⟨.trace, "Packet written", [("session_id", id.text), ("seq", toString seq),
      ("kind", kind.label), ("bytes", toString bytes)]⟩
  | packetFailed id seq kind =>
    ⟨.debug, "Packet write failed",
      [("session_id", id.text), ("seq", toString seq), ("kind", kind.label)]⟩
  | packetsDiscarded id dropped =>
    ⟨.debug, "Discarded unsent packets",
      [("session_id", id.text), ("dropped", toString dropped)]⟩
  | finalFlushFailed id cause =>
    ⟨.trace, "Final flush failed", [("session_id", id.text), ("error", cause.message)]⟩
  | hubStopped sessions waiting =>
    ⟨.info, "Multiplexer stopped",
      [("sessions", toString sessions), ("pending_handoffs", toString waiting)]⟩
  | messageNotDispatched id cause =>
    ⟨.debug, "Message not dispatched", [("session_id", id.text), ("error", cause.message)]⟩
  | poolStarted pool workers capacity =>
    ⟨.info, "Worker pool started", [("pool", pool), ("workers", toString workers),
      ("capacity", toString capacity)]⟩
  | poolStopped pool rejected =>
    ⟨.info, "Worker pool stopped", [("pool", pool), ("rejected_on_stop", toString rejected)]⟩
  | rejectCallbackPanicked => ⟨.error, "Reject callback panicked", []⟩
  | errorCallbackPanicked cause =>
    ⟨.error, "Error callback panicked", [("error", cause.message)]⟩
  | taskRejected => ⟨.warn, "Task rejected, dispatch queue is full or stopped", []⟩
  | taskFailed cause => ⟨.error, "Task failed", [("error", cause.message)]⟩
  | loopStarted thread => ⟨.debug, "Loop started", [("thread", thread)]⟩
  | loopFailed thread cause =>
    ⟨.error, "Loop iteration failed", [("thread", thread), ("error", cause.message)]⟩
  | loopStopped thread => ⟨.debug, "Loop stopped", [("thread", thread)]⟩
  | loopPanicked thread => ⟨.error, "Loop thread panicked", [("thread", thread)]⟩
  | loopSurvived cause => ⟨.error, "Server loop failure", [("error", cause.message)]⟩
  | listenerBound address backlog =>
    ⟨.info, "Listener bound", [("address", address.text), ("backlog", toString backlog)]⟩
  | connectionAccepted peer => ⟨.debug, "Connection accepted", [("peer_addr", peer.text)]⟩
  | listenerClosed address => ⟨.info, "Listener closed", [("address", address.text)]⟩
  | messageEchoed id remote count summary =>
    ⟨.debug, "Echoing message", [("session_id", id.text), ("remote", remote),
      ("count", toString count), ("message", summary)]⟩
  | messageDropped id =>
    ⟨.warn, "Dispatch queue full, message dropped", [("session_id", id.text)]⟩
  | serverRestarting => ⟨.info, "Restarting server", []⟩
  | serverStarted address workers =>
    ⟨.info, "WebSocket server started",
      [("address", address.text), ("workers", toString workers)]⟩
  | serverStopped => ⟨.info, "WebSocket server stopped", []⟩

end Event

/-! ### Counters and gauges -/

/-- What is counted. -/
inductive Counter
  | sessionsOpened
  | sessionsClosed (reason : CloseReason)
  | messagesReceived (kind : MessageKind)
  | packetsSent (kind : MessageKind)
  | packetsFailed (kind : MessageKind)
  | bytesRead
  | bytesWritten
  | protocolErrors
  | tasksSubmitted
  | tasksRejected
  | taskErrors
  deriving DecidableEq, Repr

/-- The name of a counter. -/
def Counter.name : Counter → String
  | sessionsOpened => "ws_sessions_opened_total"
  | sessionsClosed _ => "ws_sessions_closed_total"
  | messagesReceived _ => "ws_messages_received_total"
  | packetsSent _ => "ws_packets_sent_total"
  | packetsFailed _ => "ws_packets_failed_total"
  | bytesRead => "ws_bytes_read_total"
  | bytesWritten => "ws_bytes_written_total"
  | protocolErrors => "ws_protocol_errors_total"
  | tasksSubmitted => "ws_dispatch_submitted_total"
  | tasksRejected => "ws_dispatch_rejected_total"
  | taskErrors => "ws_dispatch_errors_total"

/-- What tells apart the counters of one name: the name and the value of a label. -/
def Counter.label? : Counter → Option (String × String)
  | sessionsClosed reason => some ("reason", reason.label)
  | messagesReceived kind | packetsSent kind | packetsFailed kind => some ("kind", kind.label)
  | _ => none

/-- The name of a counter with its label. -/
def Counter.text (c : Counter) : String :=
  c.label?.elim c.name fun (label, value) => c.name ++ "\x7b" ++ label ++ "=" ++ value ++ "\x7d"

/-- What is measured. -/
inductive Gauge
  | sessionsActive
  | queueLength
  deriving DecidableEq, Repr

/-- The name of a gauge. -/
def Gauge.text : Gauge → String
  | sessionsActive => "ws_sessions_active"
  | queueLength => "ws_dispatch_queue_length"

/-- One thing a server tells: a counter goes up, a gauge is set, or an event happens. -/
inductive Notice
  | count (counter : Counter) (n : Nat)
  | gauge (gauge : Gauge) (value : Nat)
  | log (event : Event)
  deriving DecidableEq, Repr

namespace Notice

/-- How far notices move a counter. -/
def total (counter : Counter) : List Notice → Nat
  | [] => 0
  | .count c n :: rest => (if c = counter then n else 0) + total counter rest
  | .gauge .. :: rest | .log _ :: rest => total counter rest

@[simp] theorem total_append (counter : Counter) (xs ys : List Notice) :
    total counter (xs ++ ys) = total counter xs + total counter ys := by
  induction xs with
  | nil => simp [total]
  | cons n xs ih => cases n <;> simp [total, ih, Nat.add_assoc]

/-- The value to which `notices` set a gauge last. -/
def last? (gauge : Gauge) (notices : List Notice) : Option Nat :=
  notices.reverse.findSome? fun
    | .gauge g v => if g = gauge then some v else none
    | _ => none

/-- The events among `notices`. -/
def events (notices : List Notice) : List Event :=
  notices.filterMap fun
    | .log e => some e
    | _ => none

@[simp] theorem events_append (xs ys : List Notice) : events (xs ++ ys) = events xs ++ events ys :=
  List.filterMap_append

/-- The counters and gauges that `notices` touch, under their names, each with its value: the total
of a counter, the last value of a gauge. -/
def readings (notices : List Notice) : List (String × Nat) :=
  let counters := (notices.filterMap fun
    | .count c _ => some c
    | _ => none).eraseDups
  let gauges := [Gauge.sessionsActive, Gauge.queueLength].filterMap fun g =>
    (last? g notices).map fun v => (g.text, v)
  counters.map (fun c => (c.text, total c notices)) ++ gauges

end Notice

end WebSocket
