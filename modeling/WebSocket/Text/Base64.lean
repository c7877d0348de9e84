import WebSocket.Bytes

/-!
# Base64

Bytes written with 64 printable characters, three bytes as four characters, the last group filled
up with `=`.

## Main definitions

* `Base64.symbol` — the character of a number below 64.
* `base64` — the text of a byte string.
-/

namespace WebSocket

namespace Text

namespace Base64

/-- The character that stands for a number below 64. -/
def symbol (n : Nat) : Char :=
  if n < 26 then Char.ofNat ('A'.toNat + n)
  else if n < 52 then Char.ofNat ('a'.toNat + (n - 26))
  else if n < 62 then Char.ofNat ('0'.toNat + (n - 52))
  else if n = 62 then '+'
  else '/'

/-- The characters of a byte string, group by group. -/
def symbols : Bytes → List Char
  | a :: b :: c :: rest =>
    let n := a.toNat * 65536 + b.toNat * 256 + c.toNat
    symbol (n / 262144) :: symbol (n / 4096 % 64) :: symbol (n / 64 % 64) :: symbol (n % 64) ::
      symbols rest
  | [a, b] =>
    let n := a.toNat * 1024 + b.toNat * 4
    [symbol (n / 4096), symbol (n / 64 % 64), symbol (n % 64), '=']
  | [a] =>
    let n := a.toNat * 16
    [symbol (n / 64), symbol (n % 64), '=', '=']
  | [] => []

end Base64

/-- The Base64 text of a byte string. -/
def base64 (bytes : Bytes) : String := String.ofList (Base64.symbols bytes)

end Text

end WebSocket
