import WebSocket.CommandLine.Basic
import WebSocket.Settings.Read

/-!
# The two programs and their options

The server reads settings from a file, some of which options override.  The client has an address to
connect to and things to say.

## Main definitions

* `ServerOptions`, `ServerOptions.read`, `ServerOptions.settings` — the options of the server.
* `ClientOptions`, `ClientOptions.read` — those of the client.
-/

namespace WebSocket

open CommandLine

/-- A number of at most 64 bits. -/
def isWord (value : String) : Bool := (Text.word? value.toList).isSome

/-- The options of the server. -/
structure ServerOptions where
  /-- The file with the settings. -/
  config : Option String
  bind : Option String
  workers : Option Nat
  deriving DecidableEq, Repr

namespace ServerOptions

/-- What the server can be told. -/
def grammar : Grammar where
  program := "websocket"
  about := "Non-blocking WebSocket echo server"
  flags := [
    ⟨'c', "config", "TOML configuration file", none, (· != "")⟩,
    ⟨'b', "bind", "Override 'listener.bind_address'", none, fun _ => true⟩,
    ⟨'w', "workers", "Override 'dispatch.workers'", none, isWord⟩]
  operands := none

/-- The options that the arguments give. -/
def read (arguments : List String) : Except Stop ServerOptions := do
  let a ← grammar.read arguments
  return {
    config := a.options.lookup "config"
    bind := a.options.lookup "bind"
    workers := (a.options.lookup "workers").bind fun n => Text.word? n.toList }

/-- Settings with what the options override. -/
def override (o : ServerOptions) (s : Settings) : Settings :=
  { s with
    listener := { s.listener with bindAddress := o.bind.getD s.listener.bindAddress }
    dispatch := { s.dispatch with workers := o.workers.getD s.dispatch.workers } }

/-- The settings under the options, where `file` is what the named file holds, if it is there.  The
file must make sense by itself, and so must the settings that come of it. -/
def settings (o : ServerOptions) (file : Option Bytes) : Except SettingsError Settings := do
  let s ← if o.config.isSome then Settings.load file else .ok {}
  (o.override s).check

end ServerOptions

/-- The options of the client. -/
structure ClientOptions where
  address : String := "127.0.0.1:8888"
  path : String := "/"
  /-- How often everything is said. -/
  rounds : Nat := 1
  /-- How many seconds the client waits for an answer. -/
  timeout : Nat := 5
  messages : List String := ["Hello from client!"]
  deriving DecidableEq, Repr

namespace ClientOptions

/-- What the client does without being told. -/
def initial : ClientOptions := {}

/-- What the client can be told. -/
def grammar : Grammar where
  program := "ws-client"
  about := "Send text messages to a ws-reactor server and print the replies"
  flags := [
    ⟨'a', "addr", "Server address", some initial.address, fun _ => true⟩,
    ⟨'p', "path", "Request path for the upgrade", some initial.path, fun _ => true⟩,
    ⟨'r', "repeat", "Send every message this many times", some (toString initial.rounds), isWord⟩,
    ⟨'t', "timeout", "Seconds to wait for each reply", some (toString initial.timeout), isWord⟩]
  operands := some ⟨"MESSAGES", "Messages to send, in order", initial.messages⟩

/-- The options that the arguments give. -/
def read (arguments : List String) : Except Stop ClientOptions := do
  let a ← grammar.read arguments
  let text (name default : String) := (a.options.lookup name).getD default
  let number (name : String) (default : Nat) :=
    ((a.options.lookup name).bind fun n => Text.word? n.toList).getD default
  return {
    address := text "addr" initial.address
    path := text "path" initial.path
    rounds := number "repeat" initial.rounds
    timeout := number "timeout" initial.timeout
    messages := if a.operands.isEmpty then initial.messages else a.operands }

end ClientOptions

end WebSocket
