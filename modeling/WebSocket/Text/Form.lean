import WebSocket.Text.Cut
import WebSocket.Text.Decimal
import WebSocket.Text.Utf8

/-!
# Form-encoded queries

The query of a request target lists parameters as `name=value`, joined by `&`, with a plus for a
blank and `%` with two hexadecimal digits for any byte.

## Main definitions

* `Form.percentDecode` — the bytes behind the percent signs.
* `Form.decode` — one name or value.
* `Form.parameters` — all parameters in order.
-/

namespace WebSocket

namespace Text

namespace Form

/-- The byte that two hexadecimal digits write. -/
def hexByte? (high low : UInt8) : Option UInt8 := do
  let h ← digit? 16 (Char.ofNat high.toNat)
  let l ← digit? 16 (Char.ofNat low.toNat)
  return UInt8.ofNat (h * 16 + l)

/-- Every `%` that two hexadecimal digits follow, replaced by the byte they write.  Any other `%`
stands for itself. -/
def percentDecode : Bytes → Bytes
  | 0x25 :: high :: low :: rest =>
    match hexByte? high low with
    | some b => b :: percentDecode rest
    | none => 0x25 :: percentDecode (high :: low :: rest)
  | b :: rest => b :: percentDecode rest
  | [] => []
termination_by bytes => bytes.length

/-- The text of one name or value. -/
def decode (bytes : Bytes) : String :=
  ofUtf8Lossy (percentDecode (bytes.map fun b => if b == 0x2B then 0x20 else b))

/-- The name and the value in one part of a query; without an equals sign the value is empty. -/
def parameter (part : Bytes) : String × String :=
  match cut [0x3D] part with
  | some (name, value) => (decode name, decode value)
  | none => (decode part, "")

/-- The parameters of a query in order; empty parts count for nothing. -/
def parameters (query : Bytes) : List (String × String) :=
  ((splitOn [0x26] query).filter fun part => !part.isEmpty).map parameter

end Form

end Text

end WebSocket
