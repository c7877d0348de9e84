import WebSocket.Text.Blank
import WebSocket.Text.Literal

/-!
# Command lines

A program is started with a list of arguments.  Some of them are options with a value, written in a
long or in a short form, and the others are operands.  They are read from left to right, and the
first thing that is wrong ends the reading.

## Main definitions

* `CommandLine.Flag`, `CommandLine.Grammar` — the options of a program, and whether it takes
  operands.
* `CommandLine.Arguments` — what was read.
* `CommandLine.Stop` — why nothing was.
* `CommandLine.Grammar.read` — reading arguments.
* `CommandLine.Grammar.help` — the text that explains a program.
-/

namespace WebSocket

namespace CommandLine

/-- An option with a value. -/
structure Flag where
  short : Char
  long : String
  help : String
  /-- The value that the option has where it is not given, if it has one. -/
  default : Option String
  /-- The values that the option can have. -/
  accepts : String → Bool

/-- Operands: their common name, what they are for, and those that stand in where none are given. -/
structure Operands where
  name : String
  help : String
  defaults : List String

/-- The operands as they stand in explanations. -/
def Operands.form (o : Operands) : String := s!"[{o.name}]..."

/-- What a program can be told when it is started. -/
structure Grammar where
  program : String
  about : String
  flags : List Flag
  /-- The operands, if there may be any. -/
  operands : Option Operands

/-- What a program was told: the values of options, by their long names, and the operands, all in
the order in which they were given. -/
structure Arguments where
  options : List (String × String)
  operands : List String
  deriving DecidableEq, Repr

/-- Why a program does not begin its work. -/
inductive Stop
  /-- It was asked to explain itself. -/
  | help
  | unexpected (argument : String)
  /-- An option has no value. -/
  | missing (option : String)
  /-- An option was given twice. -/
  | repeated (option : String)
  | invalid (option value : String)
  deriving DecidableEq, Repr

/-- What is printed because of a stop that is a mistake. -/
def Stop.message : Stop → String
  | help => ""
  | unexpected argument => s!"error: unexpected argument '{argument}' found"
  | missing option => s!"error: a value is required for '--{option}' but none was supplied"
  | repeated option => s!"error: the argument '--{option}' cannot be used multiple times"
  | invalid option value => s!"error: invalid value '{value}' for '--{option}'"

/-- What one argument says. -/
inductive Token
  | operand
  /-- Everything after it is an operand. -/
  | endOfOptions
  | help
  /-- An option with its value. -/
  | valued (flag : Flag) (value : String)
  /-- An option whose value is the next argument. -/
  | awaiting (flag : Flag)
  | unknown

namespace Grammar

/-- What an argument says that begins with two dashes. -/
def longToken (g : Grammar) (cs : List Char) : Token :=
  let name := String.ofList (cs.takeWhile (· ≠ '='))
  let value := cs.dropWhile (· ≠ '=')
  match g.flags.find? (·.long == name), value with
  | some flag, [] => .awaiting flag
  | some flag, _ :: value => .valued flag (String.ofList value)
  | none, [] => if name == "help" then .help else .unknown
  | none, _ => .unknown

/-- What an argument says that begins with one dash. -/
def shortToken (g : Grammar) (c : Char) (rest : List Char) : Token :=
  match g.flags.find? (·.short == c), rest with
  | some flag, [] => .awaiting flag
  | some flag, '=' :: value => .valued flag (String.ofList value)
  | some flag, value => .valued flag (String.ofList value)
  | none, _ => if c = 'h' then .help else .unknown

/-- What an argument says. -/
def token (g : Grammar) (argument : String) : Token :=
  match argument.toList with
  | ['-', '-'] => .endOfOptions
  | '-' :: '-' :: cs => g.longToken cs
  | '-' :: c :: rest => g.shortToken c rest
  | _ => .operand

/-- An argument that begins with a dash is no value, unless it is nothing but the dash. -/
def isValue (argument : String) : Bool := argument == "-" || !argument.startsWith "-"

/-- One more option. -/
def addOption (flag : Flag) (value : String) (a : Arguments) : Except Stop Arguments :=
  if (a.options.lookup flag.long).isSome then .error (.repeated flag.long)
  else if flag.accepts value then .ok { a with options := a.options ++ [(flag.long, value)] }
  else .error (.invalid flag.long value)

/-- One more operand, where there may be any. -/
def addOperand (g : Grammar) (operand : String) (a : Arguments) : Except Stop Arguments :=
  if g.operands.isSome then .ok { a with operands := a.operands ++ [operand] }
  else .error (.unexpected operand)

/-- Reading arguments after those that gave `a`. -/
def readFrom (g : Grammar) (a : Arguments) : List String → Except Stop Arguments
  | [] => .ok a
  | argument :: rest =>
    match g.token argument with
    | .help => .error .help
    | .unknown => .error (.unexpected argument)
    | .endOfOptions => rest.foldlM (fun a operand => g.addOperand operand a) a
    | .operand => do readFrom g (← g.addOperand argument a) rest
    | .valued flag value => do readFrom g (← addOption flag value a) rest
    | .awaiting flag =>
      match rest with
      | [] => .error (.missing flag.long)
      | value :: rest =>
        if isValue value then do readFrom g (← addOption flag value a) rest
        else .error (.missing flag.long)

/-- Reading arguments. -/
def read (g : Grammar) (arguments : List String) : Except Stop Arguments :=
  g.readFrom ⟨[], []⟩ arguments

/-! ### Explaining -/

/-- How a program is called. -/
def usage (g : Grammar) : String :=
  s!"Usage: {g.program} [OPTIONS]" ++ g.operands.elim "" fun o => " " ++ o.form

/-- What something is for, with its defaults; one with a blank in it stands between quotes. -/
def explanation (help : String) (defaults : List String) : String :=
  let shown := defaults.map fun value =>
    if value.toList.any Text.isBlank then Text.quote value else value
  let inner := " ".intercalate shown
  if defaults.isEmpty then help else s!"{help} [default: {inner}]"

/-- The form of the operands and what they are for. -/
def operandRows (g : Grammar) : List (String × String) :=
  g.operands.toList.map fun o => (o.form, explanation o.help o.defaults)

/-- The forms of the options and what they are for. -/
def optionRows (g : Grammar) : List (String × String) :=
  let rows := g.flags.map fun f =>
    (s!"-{f.short}, --{f.long} <{f.long.map Char.toUpper}>",
      explanation f.help f.default.toList)
  rows ++ [("-h, --help", "Print help")]

/-- Rows of two columns under a title, or nothing where there are no rows. -/
def table (title : String) (rows : List (String × String)) : List String :=
  let width := rows.foldl (fun width row => max width row.1.length) 0
  let lines := rows.map fun (form, text) =>
    "  " ++ form ++ "".pushn ' ' (width + 2 - form.length) ++ text
  if rows.isEmpty then [] else "" :: title :: lines

/-- The text that explains a program. -/
def help (g : Grammar) : String :=
  "\n".intercalate ([g.about, "", g.usage] ++ table "Arguments:" g.operandRows ++
    table "Options:" g.optionRows)

end Grammar

end CommandLine

end WebSocket
