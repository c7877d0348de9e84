import WebSocket.Toml.Reader

/-!
# Dates and times in TOML

A value may be a date, a time of day, or both, and then perhaps with an offset from universal time.
None of the settings is one, so only their form is checked.

## Main definitions

* `moment` — what follows a date or a time.
-/

namespace WebSocket

namespace Toml

/-- A number of exactly `width` decimal digits between two bounds, and what follows it. -/
def fixed (width low high : Nat) : Reader Nat := fun cs => do
  let digits := cs.take width
  let n ← Text.number? 10 digits
  if digits.length = width && low ≤ n && n ≤ high then some (n, cs.drop width) else none

/-- How many days a month has. -/
def daysIn (year month : Nat) : Nat :=
  if month = 2 then
    if year % 4 = 0 && (year % 100 ≠ 0 || year % 400 = 0) then 29 else 28
  else if month = 4 || month = 6 || month = 9 || month = 11 then 30
  else 31

/-- What follows a date. -/
def date (cs : List Char) : Option (List Char) := do
  let (year, cs) ← fixed 4 0 9999 cs
  let (month, cs) ← fixed 2 1 12 (← skipChar '-' cs)
  let (_, cs) ← fixed 2 1 (daysIn year month) (← skipChar '-' cs)
  return cs

/-- Decimals of a second skipped. -/
def skipDecimals (cs : List Char) : List Char :=
  match cs with
  | '.' :: digit :: rest => if digit.isDigit then rest.dropWhile Char.isDigit else cs
  | _ => cs

/-- What follows a time of day. -/
def time (cs : List Char) : Option (List Char) := do
  let (_, cs) ← fixed 2 0 23 cs
  let (_, cs) ← fixed 2 0 59 (← skipChar ':' cs)
  let (_, cs) ← fixed 2 0 60 (← skipChar ':' cs)
  return skipDecimals cs

/-- What follows an offset from universal time. -/
def offset (cs : List Char) : Option (List Char) :=
  match cs with
  | [] => none
  | c :: rest =>
    if c = 'Z' || c = 'z' then some rest
    else if c = '+' || c = '-' then do
      let (_, rest) ← fixed 2 0 23 rest
      let (_, rest) ← fixed 2 0 59 (← skipChar ':' rest)
      return rest
    else none

/-- What follows a date, a time of day, or both. -/
def moment (cs : List Char) : Option (List Char) :=
  match date cs with
  | none => time cs
  | some afterDate =>
    let timed := match afterDate with
      | c :: rest => if c = 'T' || c = 't' || c = ' ' then time rest else none
      | [] => none
    some (match timed with
      | none => afterDate
      | some afterTime => (offset afterTime).getD afterTime)

end Toml

end WebSocket
