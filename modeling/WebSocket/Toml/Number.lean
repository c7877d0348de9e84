import WebSocket.Toml.Reader

/-!
# Numbers in TOML

## Main definitions

* `integer` — an integer of 64 bits, in decimal, hexadecimal, octal or binary digits.
* `float` — any other number.
* `overflows` — which decimal numbers are too large for a number of double precision.
-/

namespace WebSocket

namespace Toml

/-- The sign before a number, true for a minus, and what follows it. -/
def sign : List Char → Bool × List Char
  | '-' :: rest => (true, rest)
  | '+' :: rest => (false, rest)
  | cs => (false, cs)

/-- One more digit, which may follow an underscore. -/
def nextDigit (radix : Nat) : Reader Char
  | c :: rest =>
    let (c, rest) := match c, rest with
      | '_', d :: rest => (d, rest)
      | c, rest => (c, rest)
    if (Text.digit? radix c).isSome then some (c, rest) else none
  | [] => none

/-- Digits, between any two of which an underscore may stand. -/
def digits (radix : Nat) : Reader (List Char)
  | c :: rest =>
    if (Text.digit? radix c).isSome then
      let (more, rest) := many (nextDigit radix) rest
      some (c :: more, rest)
    else none
  | [] => none

/-- Decimal digits; none follows a leading zero. -/
def wholePart : Reader (List Char)
  | '0' :: rest => some (['0'], rest)
  | cs => digits 10 cs

/-- An integer without a sign, in a radix other than ten. -/
def unsigned (radix : Nat) : Reader Int := fun cs => do
  let (ds, rest) ← digits radix cs
  let n ← Text.numberBelow? radix Text.signedLimit ds
  return (n, rest)

/-- An integer of 64 bits. -/
def integer : Reader Int
  | '0' :: 'x' :: rest => unsigned 16 rest
  | '0' :: 'o' :: rest => unsigned 8 rest
  | '0' :: 'b' :: rest => unsigned 2 rest
  | cs => do
    let (negative, rest) := sign cs
    let (ds, rest) ← wholePart rest
    let limit := Text.signedLimit
    let n ← Text.numberBelow? 10 (if negative then limit + 1 else limit) ds
    return (if negative then -n else n, rest)

/-- What rounds to the number of double precision after the largest finite one. -/
def infinityBound : Nat := (1 <<< 1024) - (1 <<< 970)

/-- The digits `ds` times ten to the power `e` are too large for a number of double precision.  Only
numbers near the bound are worked out, and since the bound is an integer, only their integer
parts. -/
def overflows (ds : List Char) (e : Int) : Bool :=
  let ds := ds.dropWhile (· = '0')
  let size := ds.length + e
  if ds.isEmpty || size < 300 then false
  else if 320 < size then true
  else match Text.number? 10 (ds.take size.toNat) with
    | none => false
    | some m => infinityBound ≤ m * Nat.pow 10 e.toNat

/-- The digits after a decimal point, if there is one. -/
def fraction (cs : List Char) : Option (List Char × List Char) := do
  digits 10 (← skipChar '.' cs)

/-- A power of ten that has reached this takes no further digits into account. -/
def powerLimit : Nat := 0x10000

/-- The power of ten that digits write. -/
def power (ds : List Char) : Nat :=
  ds.foldl (fun n c =>
    if n < powerLimit then n * 10 + (Text.digit? 10 c).getD 0 else n) 0

/-- A power of ten, if there is one. -/
def exponent (cs : List Char) : Option (Int × List Char) := do
  let rest ← skipChar 'e' cs <|> skipChar 'E' cs
  let (negative, rest) := sign rest
  let (ds, rest) ← digits 10 rest
  let n : Int := power ds
  return (if negative then -n else n, rest)

/-- A number that is no integer: what follows it.  It must not be too large. -/
def float (cs : List Char) : Option (List Char) :=
  let (negative, rest) := sign cs
  match rest with
  | 'i' :: 'n' :: 'f' :: rest => some rest
  | 'n' :: 'a' :: 'n' :: rest => some rest
  | _ => do
    let (whole, afterWhole) ← wholePart rest
    let decimal? := fraction afterWhole
    let (decimals, afterDecimals) := decimal?.getD ([], afterWhole)
    let power? := exponent afterDecimals
    let (power, rest) := power?.getD (0, afterDecimals)
    if decimal?.isNone && power?.isNone then none
    let large := overflows (whole ++ decimals) (power - decimals.length)
    if large && !negative then none else some rest

end Toml

end WebSocket
