import WebSocket.Settings.Read

/-!
# Writing settings

Settings as the table of a document that describes them.

## Main definitions

* `Settings.entries` — the table.
* `Settings.Fits` — every number fits into the field it is written to.

## Main results

* `Settings.ofEntries?_entries` — settings that fit are read back from their table.
-/

namespace WebSocket

namespace LogFormat

theorem find_label (f : LogFormat) : all.find? (·.label == f.label) = some f := by
  cases f <;> decide

end LogFormat

namespace Settings

open Toml (Node Entries)

/-- A section with a header of its own. -/
def titled (entries : Entries) : Node := .table .header entries

/-- The table of a section on where connections are accepted. -/
def listenerEntries (s : ListenerSettings) : Entries :=
  [("bind_address", .text s.bindAddress),
    ("backlog", .integer s.backlog),
    ("poll_timeout_ms", .integer s.pollTimeout)]

/-- The table of a section on how often sessions are looked after. -/
def hubEntries (s : HubSettings) : Entries :=
  [("poll_timeout_ms", .integer s.pollTimeout),
    ("heartbeat_interval_ms", .integer s.heartbeatInterval)]

/-- The table of a section on how sessions read and write. -/
def wireEntries (s : WireSettings) : Entries :=
  [("outbound_queue_capacity", .integer s.outboxCapacity),
    ("default_buffer_size", .integer s.bufferSize),
    ("max_packet_size", .integer s.packetLimit),
    ("forwarded_header", .text s.forwardedHeader),
    ("require_mask", .flag s.requireMask)]

/-- The table of a section on how messages reach the application. -/
def dispatchEntries (s : DispatchSettings) : Entries :=
  [("workers", .integer s.workers),
    ("queue_capacity", .integer s.queueCapacity),
    ("enqueue_timeout_ms", .integer s.enqueueTimeout),
    ("max_idle_backoff_ms", .integer s.idleBackoff)]

/-- The table of a section on what operators get to see. -/
def observabilityEntries (s : ObservabilitySettings) : Entries :=
  [("log_level", .text s.logLevel),
    ("log_format", .text s.logFormat.label),
    ("metrics_enabled", .flag s.metricsEnabled),
    ("metrics_address", .text s.metricsAddress)]

/-- The table of a document that describes the settings. -/
def entries (s : Settings) : Entries :=
  [("listener", titled (listenerEntries s.listener)),
    ("multiplexer", titled (hubEntries s.hub)),
    ("session", titled (wireEntries s.wire)),
    ("dispatch", titled (dispatchEntries s.dispatch)),
    ("observability", titled (observabilityEntries s.observability))]

/-- Every number fits into the field it is written to. -/
structure Fits (s : Settings) : Prop where
  backlog : s.listener.backlog < Text.halfWordLimit
  words : ∀ n ∈ [s.listener.pollTimeout, s.hub.pollTimeout, s.hub.heartbeatInterval,
    s.wire.outboxCapacity, s.wire.bufferSize, s.wire.packetLimit, s.dispatch.workers,
    s.dispatch.queueCapacity, s.dispatch.enqueueTimeout, s.dispatch.idleBackoff], n < Text.wordLimit

/-! ### What is written is read back -/

/-- A table as a section. -/
def asSection (entries : Entries) : Section := fun name _ => entries.lookup name

theorem numberField_integer {limit n : Nat} (h : n < limit) :
    numberField limit (.integer (n : Int)) = some n := by
  simp [numberField, h]

theorem wordField_integer {n : Nat} (h : n < Text.wordLimit) :
    wordField (.integer (n : Int)) = some n :=
  numberField_integer h

theorem formatField_text (f : LogFormat) : formatField (.text f.label) = some f :=
  LogFormat.find_label f

theorem listenerOf?_entries {s : ListenerSettings} (hb : s.backlog < Text.halfWordLimit)
    (hp : s.pollTimeout < Text.wordLimit) :
    listenerOf? (asSection (listenerEntries s)) = some s := by
  have hb := numberField_integer hb
  have hp := wordField_integer hp
  simp [listenerOf?, asSection, Section.get, listenerEntries, List.lookup_cons, textField, hb, hp]

theorem hubOf?_entries {s : HubSettings} (hp : s.pollTimeout < Text.wordLimit)
    (hh : s.heartbeatInterval < Text.wordLimit) : hubOf? (asSection (hubEntries s)) = some s := by
  have hp := wordField_integer hp
  have hh := wordField_integer hh
  simp [hubOf?, asSection, Section.get, hubEntries, List.lookup_cons, hp, hh]

theorem wireOf?_entries {s : WireSettings} (ho : s.outboxCapacity < Text.wordLimit)
    (hb : s.bufferSize < Text.wordLimit) (hp : s.packetLimit < Text.wordLimit) :
    wireOf? (asSection (wireEntries s)) = some s := by
  have ho := wordField_integer ho
  have hb := wordField_integer hb
  have hp := wordField_integer hp
  simp [wireOf?, asSection, Section.get, wireEntries, List.lookup_cons, textField, flagField, ho,
    hb, hp]

theorem dispatchOf?_entries {s : DispatchSettings} (hw : s.workers < Text.wordLimit)
    (hq : s.queueCapacity < Text.wordLimit) (he : s.enqueueTimeout < Text.wordLimit)
    (hi : s.idleBackoff < Text.wordLimit) :
    dispatchOf? (asSection (dispatchEntries s)) = some s := by
  have hw := wordField_integer hw
  have hq := wordField_integer hq
  have he := wordField_integer he
  have hi := wordField_integer hi
  simp [dispatchOf?, asSection, Section.get, dispatchEntries, List.lookup_cons, hw, hq, he, hi]

theorem observabilityOf?_entries (s : ObservabilitySettings) :
    observabilityOf? (asSection (observabilityEntries s)) = some s := by
  simp [observabilityOf?, asSection, Section.get, observabilityEntries, List.lookup_cons, textField,
    flagField, formatField_text]

/-- Settings that fit are read back from their table. -/
theorem ofEntries?_entries {s : Settings} (h : s.Fits) : ofEntries? s.entries = some s := by
  have hw := h.words
  simp only [List.mem_cons, List.not_mem_nil, or_false, forall_eq_or_imp, forall_eq] at hw
  obtain ⟨h1, h2, h3, h4, h5, h6, h7, h8, h9, h10⟩ := hw
  have listener := listenerOf?_entries h.backlog h1
  have hub := hubOf?_entries h2 h3
  have wire := wireOf?_entries h4 h5 h6
  have dispatch := dispatchOf?_entries h7 h8 h9 h10
  have observability := observabilityOf?_entries s.observability
  unfold asSection at listener hub wire dispatch observability
  simp [ofEntries?, entries, titled, sectionOf?, List.lookup_cons, listener, hub, wire, dispatch,
    observability]

end Settings

end WebSocket
