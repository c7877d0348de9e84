import WebSocket.CommandLine.Complaint
import WebSocket.CommandLine.Options

/-!
# How programs end

A program that was asked to explain itself does that and ends well.  One that was called in a wrong
way ends with a status of its own, so that a caller can tell this from a failure at work.

## Main definitions

* `Ending` — the exit status of a program, what it prints and what it complains about.
* `Ending.stopped` — the ending of a program whose arguments let it do nothing.
* `ServerOptions.launch` — the settings that a server starts with, or how it ends.
-/

namespace WebSocket

/-- How a program ends. -/
structure Ending where
  status : Nat
  /-- What it prints before. -/
  output : String
  /-- Why it failed. -/
  cause : Option String
  deriving DecidableEq, Repr

namespace Ending

/-- The work is done. -/
def done : Ending := ⟨0, "", none⟩

/-- The work failed. -/
def failed (cause : String) : Ending := ⟨1, "", some cause⟩

/-- The arguments let the program do nothing. -/
def stopped (g : CommandLine.Grammar) : CommandLine.Stop → Ending
  | .help => ⟨0, g.help ++ "\n", none⟩
  | _ => ⟨2, "", none⟩

end Ending

/-- The settings that the server starts with, where `file` says what files hold. -/
def ServerOptions.launch (arguments : List String) (file : String → Option Bytes) :
    Except Ending Settings :=
  match read arguments with
  | .error stop => .error (.stopped grammar stop)
  | .ok o =>
    match o.settings (o.config.bind file) with
    | .error e => .error (.failed e.inspect)
    | .ok s => .ok s

end WebSocket
