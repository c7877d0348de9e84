import WebSocket.Bytes

/-!
# Frames

After the upgrade both sides talk in frames: a header that names the kind and the length of a
payload, an optional mask, and the payload.

## Main definitions

* `Opcode` — what a frame is for.
* `MaskKey`, `MaskKey.apply` — the key that hides a payload on the wire.
* `Frame` — where a frame lies in a byte string and what its header says.
* `Frame.encode` — the bytes of a frame, with the length in its shortest form.

## Main results

* `MaskKey.apply_apply` — masking twice gives the payload back.
* `Opcode.ofCode?_code` — an opcode is found again from its code.
-/

namespace WebSocket

/-- What a frame is for. -/
inductive Opcode
  /-- More of the message that is being sent. -/
  | continuation
  /-- The beginning of a text message. -/
  | text
  /-- The beginning of a binary message. -/
  | binary
  /-- The connection is to be closed. -/
  | close
  /-- A sign of life is asked for. -/
  | ping
  /-- A sign of life. -/
  | pong
  deriving DecidableEq, Repr

namespace Opcode

/-- The number of an opcode on the wire. -/
def code : Opcode → UInt8
  | continuation => 0x0
  | text => 0x1
  | binary => 0x2
  | close => 0x8
  | ping => 0x9
  | pong => 0xA

/-- The name of an opcode. -/
def label : Opcode → String
  | continuation => "Continuation"
  | text => "Text"
  | binary => "Binary"
  | close => "Close"
  | ping => "Ping"
  | pong => "Pong"

/-- The opcodes. -/
def all : List Opcode := [continuation, text, binary, close, ping, pong]

/-- The opcode with a number, if there is one. -/
def ofCode? (code : UInt8) : Option Opcode :=
  if code = 0x0 then some continuation
  else if code = 0x1 then some text
  else if code = 0x2 then some binary
  else if code = 0x8 then some close
  else if code = 0x9 then some ping
  else if code = 0xA then some pong
  else none

@[simp] theorem ofCode?_code (op : Opcode) : ofCode? op.code = some op := by cases op <;> rfl

theorem ofCode?_eq_some {c : UInt8} {op : Opcode} : ofCode? c = some op ↔ c = op.code := by
  constructor
  · intro h
    unfold ofCode? at h
    repeat' split at h
    all_goals first | (obtain rfl := Option.some.inj h; assumption) | simp at h
  · rintro rfl
    exact ofCode?_code op

/-- Close, ping and pong control the connection; the others carry data. -/
def isControl : Opcode → Bool
  | close | ping | pong => true
  | continuation | text | binary => false

end Opcode

/-! ### Masks -/

/-- The four bytes that hide a payload on the wire. -/
structure MaskKey where
  k0 : UInt8
  k1 : UInt8
  k2 : UInt8
  k3 : UInt8
  deriving DecidableEq, Repr

namespace MaskKey

/-- The byte of the key that goes with position `i` of a payload. -/
def byteAt (key : MaskKey) (i : Nat) : UInt8 :=
  match i % 4 with
  | 0 => key.k0
  | 1 => key.k1
  | 2 => key.k2
  | _ => key.k3

/-- The payload with each byte combined with the byte of the key at its position. -/
def apply (key : MaskKey) (payload : Bytes) : Bytes :=
  payload.mapIdx fun i b => b ^^^ key.byteAt i

@[simp] theorem length_apply (key : MaskKey) (payload : Bytes) :
    (key.apply payload).length = payload.length := by simp [apply]

/-- Masking twice gives the payload back. -/
@[simp] theorem apply_apply (key : MaskKey) (payload : Bytes) :
    key.apply (key.apply payload) = payload := by
  refine List.ext_getElem (by simp) fun i _ _ => ?_
  simp only [apply, List.getElem_mapIdx]
  rw [UInt8.xor_assoc, UInt8.xor_self, UInt8.xor_zero]

/-- The bytes of a key as they stand in a frame. -/
def bytes (key : MaskKey) : Bytes := [key.k0, key.k1, key.k2, key.k3]

/-- The key that four bytes spell. -/
def ofBytes? : Bytes → Option MaskKey
  | [k0, k1, k2, k3] => some ⟨k0, k1, k2, k3⟩
  | _ => none

end MaskKey

/-! ### Frames in a byte string -/

/-- A frame inside a byte string: where it lies and what its header says. -/
structure Frame where
  /-- The position of its first byte. -/
  start : Nat
  /-- It is the last frame of its message. -/
  fin : Bool
  opcode : Opcode
  mask : Option MaskKey
  /-- The bytes before the payload: first two, extended length, mask. -/
  headerLength : Nat
  payloadLength : Nat
  deriving DecidableEq, Repr

namespace Frame

/-- The bytes of the whole frame. -/
def length (f : Frame) : Nat := f.headerLength + f.payloadLength

/-- The position of the first byte of the payload. -/
def payloadStart (f : Frame) : Nat := f.start + f.headerLength

/-- The position after the last byte of the frame. -/
def stop (f : Frame) : Nat := f.start + f.length

/-- The payload as it stands on the wire. -/
def wirePayload (f : Frame) (data : Bytes) : Bytes :=
  (data.drop f.payloadStart).take f.payloadLength

/-- A payload with the mask of the frame taken off. -/
def unmask (f : Frame) (bytes : Bytes) : Bytes :=
  match f.mask with
  | some key => key.apply bytes
  | none => bytes

/-- The payload as it was meant, its mask taken off. -/
def payload (f : Frame) (data : Bytes) : Bytes := f.unmask (f.wirePayload data)

/-- The payload as it was meant, taken from bytes whose positions are reached at once. -/
def payloadIn (f : Frame) (data : Array UInt8) : Bytes :=
  f.unmask (data.extract f.payloadStart (f.payloadStart + f.payloadLength)).toList

@[simp] theorem payloadIn_toArray (f : Frame) (data : Bytes) :
    f.payloadIn data.toArray = f.payload data := by
  simp [payloadIn, payload, wirePayload]

/-- The bytes of several frames together. -/
def totalLength : List Frame → Nat
  | [] => 0
  | f :: frames => f.length + totalLength frames

/-- The largest payload whose length is written in the second byte itself. -/
def inlineMax : Nat := 125

/-- The first length that no longer fits into two bytes. -/
def shortLimit : Nat := 0x10000

/-- The second byte of a header and the bytes of the extended length, in the shortest form. -/
def encodeLength (maskBit : UInt8) (n : Nat) : Bytes :=
  if n ≤ inlineMax then [maskBit ||| UInt8.ofNat n]
  else if n < shortLimit then (maskBit ||| 126) :: Bytes.ofNatBE 2 n
  else (maskBit ||| 127) :: Bytes.ofNatBE 8 n

/-- The bytes of a frame. -/
def encode (opcode : Opcode) (fin : Bool) (payload : Bytes) (mask : Option MaskKey) : Bytes :=
  let finBit : UInt8 := if fin then 0x80 else 0
  let maskBit : UInt8 := if mask.isSome then 0x80 else 0
  let body := match mask with
    | some key => key.bytes ++ key.apply payload
    | none => payload
  (finBit ||| opcode.code) :: (encodeLength maskBit payload.length ++ body)

end Frame

end WebSocket
