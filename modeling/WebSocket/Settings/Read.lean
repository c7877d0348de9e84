import WebSocket.Settings.Check
import WebSocket.Text.Utf8
import WebSocket.Toml.Document

/-!
# Reading settings

Settings are written in a TOML document with a table for each section.  What is missing keeps its
default, and keys that mean nothing are passed over.  A section may also be an array of its values
in their order.

## Main definitions

* `Field` — how the value of a field is read.
* `Settings.ofEntries?` — the settings in the table of a document.
* `Settings.parse`, `Settings.load` — the settings in a text and in the bytes of a file.
-/

namespace WebSocket

namespace Settings

open Toml (Node Entries)

/-- How the value of a field is read, if it fits. -/
abbrev Field (α : Type) := Node → Option α

/-- A text. -/
def textField : Field String
  | .text s => some s
  | _ => none

/-- A truth value. -/
def flagField : Field Bool
  | .flag b => some b
  | _ => none

/-- An integer from zero on and below a limit. -/
def numberField (limit : Nat) : Field Nat
  | .integer n => if 0 ≤ n ∧ n.toNat < limit then some n.toNat else none
  | _ => none

/-- A number of 64 bits. -/
def wordField : Field Nat := numberField Text.wordLimit

/-- A node that holds nothing. -/
def isHollow : Node → Bool
  | .array items => items.isEmpty
  | .table _ entries => entries.isEmpty
  | _ => false

/-- A format of logs: its name, or a table in which its name stands alone and with nothing. -/
def formatField : Field LogFormat
  | .text s => LogFormat.all.find? (·.label == s)
  | .table _ [(name, node)] =>
    if isHollow node then LogFormat.all.find? (·.label == name) else none
  | _ => none

/-- The values of a section, under a name or at a place in their order. -/
abbrev Section := String → Nat → Option Node

/-- The values in a node, if it can be a section.  A date counts as a section without values. -/
def sectionOf? : Node → Option Section
  | .table _ entries => some fun name _ => entries.lookup name
  | .array items => some fun _ place => items[place]?
  | .tables earlier last =>
    some fun _ place => (((last :: earlier).reverse)[place]?).map (.table .header)
  | .moment => some fun _ _ => none
  | _ => none

/-- A field of a section, with its default. -/
def Section.get {α : Type} (s : Section) (name : String) (place : Nat) (read : Field α)
    (default : α) : Option α :=
  match s name place with
  | none => some default
  | some node => read node

/-! ### Sections -/

def listenerOf? (s : Section) : Option ListenerSettings := do
  let d : ListenerSettings := {}
  return {
    bindAddress := ← s.get "bind_address" 0 textField d.bindAddress
    backlog := ← s.get "backlog" 1 (numberField Text.halfWordLimit) d.backlog
    pollTimeout := ← s.get "poll_timeout_ms" 2 wordField d.pollTimeout }

def hubOf? (s : Section) : Option HubSettings := do
  let d : HubSettings := {}
  return {
    pollTimeout := ← s.get "poll_timeout_ms" 0 wordField d.pollTimeout
    heartbeatInterval := ← s.get "heartbeat_interval_ms" 1 wordField d.heartbeatInterval }

def wireOf? (s : Section) : Option WireSettings := do
  let d : WireSettings := {}
  return {
    outboxCapacity := ← s.get "outbound_queue_capacity" 0 wordField d.outboxCapacity
    bufferSize := ← s.get "default_buffer_size" 1 wordField d.bufferSize
    packetLimit := ← s.get "max_packet_size" 2 wordField d.packetLimit
    forwardedHeader := ← s.get "forwarded_header" 3 textField d.forwardedHeader
    requireMask := ← s.get "require_mask" 4 flagField d.requireMask }

def dispatchOf? (s : Section) : Option DispatchSettings := do
  let d : DispatchSettings := {}
  return {
    workers := ← s.get "workers" 0 wordField d.workers
    queueCapacity := ← s.get "queue_capacity" 1 wordField d.queueCapacity
    enqueueTimeout := ← s.get "enqueue_timeout_ms" 2 wordField d.enqueueTimeout
    idleBackoff := ← s.get "max_idle_backoff_ms" 3 wordField d.idleBackoff }

def observabilityOf? (s : Section) : Option ObservabilitySettings := do
  let d : ObservabilitySettings := {}
  return {
    logLevel := ← s.get "log_level" 0 textField d.logLevel
    logFormat := ← s.get "log_format" 1 formatField d.logFormat
    metricsEnabled := ← s.get "metrics_enabled" 2 flagField d.metricsEnabled
    metricsAddress := ← s.get "metrics_address" 3 textField d.metricsAddress }

/-! ### Documents -/

/-- The settings in the table of a document. -/
def ofEntries? (entries : Entries) : Option Settings :=
  let part {α : Type} (name : String) (read : Section → Option α) (default : α) : Option α :=
    match entries.lookup name with
    | none => some default
    | some node => do read (← sectionOf? node)
  do
    return {
      listener := ← part "listener" listenerOf? {}
      hub := ← part "multiplexer" hubOf? {}
      wire := ← part "session" wireOf? {}
      dispatch := ← part "dispatch" dispatchOf? {}
      observability := ← part "observability" observabilityOf? {} }

/-- The settings in a text; they must make sense. -/
def parse (text : String) : Except SettingsError Settings :=
  match Toml.document text with
  | none => .error (.unreadable "not a TOML document")
  | some entries =>
    match ofEntries? entries with
    | none => .error (.unreadable "a value does not fit its field")
    | some s => s.check

/-- The settings in the bytes of a file, or nothing where there is no file. -/
def load : Option Bytes → Except SettingsError Settings
  | none => .error (.io "No such file or directory (os error 2)")
  | some bytes =>
    match Text.ofUtf8? bytes with
    | none => .error (.io "stream did not contain valid UTF-8")
    | some text => parse text

end Settings

end WebSocket
