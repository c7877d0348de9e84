/-!
# What is wrong with settings

## Main definitions

* `Failure` — one check that settings did not pass.
* `SettingsError` — why settings were not accepted.
-/

namespace WebSocket

/-- One check that settings did not pass: the field, and what it must be. -/
structure Failure where
  field : String
  message : String
  deriving DecidableEq, Repr

/-- A failed check in one line. -/
def Failure.summary (f : Failure) : String := s!"{f.field}: {f.message}"

/-- Why settings were not accepted. -/
inductive SettingsError
  /-- The file could not be read. -/
  | io (detail : String)
  /-- The text is no settings file. -/
  | unreadable (detail : String)
  /-- The values make no sense. -/
  | invalid (failures : List Failure)
  deriving DecidableEq, Repr

/-- The wording of a refusal. -/
def SettingsError.message : SettingsError → String
  | io detail => s!"IO error: {detail}"
  | unreadable detail => s!"Parse error: {detail}"
  | invalid failures => "Validation failed: " ++ ", ".intercalate (failures.map Failure.summary)

end WebSocket
