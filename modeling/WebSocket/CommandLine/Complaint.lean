import WebSocket.Client.Error
import WebSocket.ServerError
import WebSocket.Text.Literal

/-!
# What programs print when they fail

A program that fails prints one line that names the cause together with what belongs to it.

## Main definitions

* `ProtocolError.inspect`, `ClientError.inspect`, `SettingsError.inspect`, `ServerError.inspect` —
  the causes in the form in which they are printed.
* `complaint` — the line.
-/

namespace WebSocket

/-- A cause with its parts by their names. -/
def namedParts (name : String) (parts : List (String × String)) : String :=
  let inner := ", ".intercalate (parts.map fun (field, value) => s!"{field}: {value}")
  name ++ " \x7b " ++ inner ++ " \x7d"

/-- A violation of the protocol for someone who looks for a mistake. -/
def ProtocolError.inspect (e : ProtocolError) : String :=
  match e with
  | unknownOpcode code => s!"{e.name}({code})"
  | tooLarge size limit => namedParts e.name [("len", toString size), ("max", toString limit)]
  | malformedRequest detail => s!"{e.name}({Text.quote detail})"
  | _ => e.name

/-- A failure of the system for someone who looks for a mistake. -/
def inspectSystem (detail : String) : String := namedParts "Os" [("message", Text.quote detail)]

/-- A client's failure for someone who looks for a mistake. -/
def ClientError.inspect : ClientError → String
  | protocol cause => cause.inspect
  | io detail => inspectSystem detail
  | e => Text.quote e.message

/-- A check that settings did not pass, for someone who looks for a mistake. -/
def Failure.inspect (f : Failure) : String :=
  namedParts "ValidationError" [("field", Text.quote f.field), ("message", Text.quote f.message)]

/-- A refusal of settings for someone who looks for a mistake. -/
def SettingsError.inspect : SettingsError → String
  | io detail => s!"Io({inspectSystem detail})"
  | unreadable detail =>
    let cause := namedParts "Error" [("message", Text.quote detail)]
    s!"Parse({cause})"
  | invalid failures =>
    let inner := ", ".intercalate (failures.map Failure.inspect)
    s!"Validation([{inner}])"

/-- A server's failure for someone who looks for a mistake. -/
def ServerError.inspect (e : ServerError) : String :=
  match e with
  | settings cause => s!"{e.name}({cause.inspect})"
  | bind address detail =>
    namedParts e.name [("addr", Text.quote address), ("source", inspectSystem detail)]
  | _ => s!"{e.name}({Text.quote e.message})"

/-- The line that a failed program prints. -/
def complaint (cause : String) : String := "Error: " ++ cause

end WebSocket
