import WebSocket.Toml.Reader

/-!
# Strings in TOML

Strings stand in double quotes, where a backslash begins an escape, or in single quotes, where
nothing does.  Tripled quotes let a string run over several lines.

## Main definitions

* `lineString` — a string on one line.
* `string` — any string.
-/

namespace WebSocket

namespace Toml

/-- The quote around strings with escapes. -/
def doubleQuote : Char := '\x22'

/-- The quote around strings without escapes. -/
def singleQuote : Char := '\x27'

/-- The character whose number is written in exactly `n` hexadecimal digits. -/
def hexChar (n : Nat) : Reader Char := fun cs => do
  let digits := cs.take n
  let code ← Text.number? 16 digits
  if digits.length = n && decide code.isValidChar then some (Char.ofNat code, cs.drop n) else none

/-- What follows the backslash of an escape. -/
def escape : Reader Char
  | 'b' :: rest => some ('\x08', rest)
  | 't' :: rest => some ('\t', rest)
  | 'n' :: rest => some ('\n', rest)
  | 'f' :: rest => some ('\x0c', rest)
  | 'r' :: rest => some ('\r', rest)
  | '\\' :: rest => some ('\\', rest)
  | 'u' :: rest => hexChar 4 rest
  | 'U' :: rest => hexChar 8 rest
  | c :: rest => if c = doubleQuote then some (c, rest) else none
  | [] => none

/-- One character between the quotes `quote`; only double quotes know escapes. -/
def stringChar (quote : Char) : Reader Char
  | c :: rest =>
    if c = '\\' && quote = doubleQuote then escape rest
    else if isPlain c && c ≠ quote then some (c, rest)
    else none
  | [] => none

/-- A string on one line, in quotes of either kind. -/
def lineString : Reader String
  | quote :: rest => do
    if quote ≠ doubleQuote && quote ≠ singleQuote then none
    let (chars, rest) := many (stringChar quote) rest
    let rest ← skipChar quote rest
    return (String.ofList chars, rest)
  | [] => none

/-! ### Several lines -/

/-- A backslash at the end of a line, with all that is skipped because of it. -/
def continuation (quote : Char) (cs : List Char) : Option (List Char) := do
  if quote ≠ doubleQuote then none
  let rest ← newline (skipSpace (← skipChar '\\' cs))
  return skipFill false rest

/-- One piece of a string over several lines, quotes apart. -/
def longPiece (quote : Char) : Reader (List Char) := fun cs =>
  match continuation quote cs, newline cs with
  | some rest, _ => some ([], rest)
  | none, some rest => some (['\n'], rest)
  | none, none => (stringChar quote cs).map fun (c, rest) => ([c], rest)

/-- One piece, or one or two quotes before a piece. -/
def quotedPiece (quote : Char) : Reader (List Char) := fun cs =>
  let quotes := cs.takeWhile (· = quote)
  let rest := cs.drop quotes.length
  if quotes.isEmpty then longPiece quote cs
  else if quotes.length < 3 && (longPiece quote rest).isSome then some (quotes, rest)
  else none

/-- A string over several lines after its opening quotes.  A line end right after these does not
count; up to two quotes right before the closing ones do. -/
def longString (quote : Char) : Reader String := fun cs =>
  let (pieces, rest) := many (quotedPiece quote) ((newline cs).getD cs)
  let quotes := (rest.takeWhile (· = quote)).length
  if quotes < 3 then none
  else
    let extra := min (quotes - 3) 2
    let chars := pieces.flatten ++ List.replicate extra quote
    some (String.ofList chars, rest.drop (extra + 3))

/-- Any string. -/
def string : Reader String := fun cs =>
  match cs with
  | a :: b :: c :: rest =>
    if a = b && b = c && (a = doubleQuote || a = singleQuote) then longString a rest
    else lineString cs
  | _ => lineString cs

end Toml

end WebSocket
