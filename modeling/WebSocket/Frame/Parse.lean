import WebSocket.Frame.Basic
import WebSocket.ProtocolError

/-!
# Reading one frame

A frame is read from its first byte on, and what can be refused is refused as early as the bytes
allow: a bad opcode from the first byte alone, a length over the limit before any payload.

## Main definitions

* `Frame.Header`, `Frame.Header.parse` — the part of a frame before its payload.
* `Frame.parseHead` — the frame at the head of a byte string.
* `Frame.parse` — the frame at a position of a byte string.

## Main results

* `Frame.parseHead_bounds` — a frame that was read lies inside its bytes, has at least two of them,
  and its payload is within the limit.
-/

namespace WebSocket

namespace Frame

/-- What the bytes before a payload say. -/
structure Header where
  fin : Bool
  opcode : Opcode
  mask : Option MaskKey
  /-- The bytes of the header itself. -/
  length : Nat
  payloadLength : Nat
  deriving DecidableEq, Repr

/-- The payload length after the second byte of a header: its seven low bits, or, where these are
126 or 127, the two or eight bytes that follow.  Returned with the number of bytes that follow and
with the rest; nothing while they are still missing. -/
def readLength (second : UInt8) (rest : Bytes) : Option (Nat × Nat × Bytes) :=
  let small := (second &&& 0x7F).toNat
  let width := if small = 126 then 2 else if small = 127 then 8 else 0
  if width = 0 then some (small, 0, rest)
  else (Bytes.take? width rest).map fun (front, rest) => (Bytes.toNatBE front, width, rest)

/-- The mask after the length, for a second byte that announces one.  Nothing while its bytes are
still missing. -/
def readMask (second : UInt8) (rest : Bytes) : Option (Option MaskKey) :=
  if second &&& 0x80 == 0 then some none
  else (MaskKey.ofBytes? (rest.take 4)).map some

/-- What the first byte says: the final bit and the opcode. -/
def readFirst (first : UInt8) : Except ProtocolError (Bool × Opcode) :=
  let fin := first &&& 0x80 != 0
  match Opcode.ofCode? (first &&& 0x0F) with
  | none => .error (.unknownOpcode (first &&& 0x0F))
  | some opcode =>
    if opcode.isControl && !fin then .error .fragmentedControl else .ok (fin, opcode)

/-- The header at the head of a byte string, or nothing while a part of it is still missing. -/
def Header.parse (limit : Nat) : Bytes → Except ProtocolError (Option Header)
  | [] => .ok none
  | first :: rest =>
    match readFirst first with
    | .error e => .error e
    | .ok (fin, opcode) =>
      match rest with
      | [] => .ok none
      | second :: rest =>
        match readLength second rest with
        | none => .ok none
        | some (payloadLength, width, rest) =>
          if payloadLength > limit then .error (.tooLarge payloadLength limit)
          else match readMask second rest with
            | none => .ok none
            | some mask =>
              let length := 2 + width + if mask.isSome then 4 else 0
              .ok (some ⟨fin, opcode, mask, length, payloadLength⟩)

/-- The frame that a header announces, for a frame that starts at `start`. -/
def Header.frameAt (h : Header) (start : Nat) : Frame :=
  ⟨start, h.fin, h.opcode, h.mask, h.length, h.payloadLength⟩

/-- The frame at the head of `bytes`, which stand at position `start`, or nothing while a part of
it is still missing. -/
def parseHead (limit start : Nat) (bytes : Bytes) : Except ProtocolError (Option Frame) :=
  match Header.parse limit bytes with
  | .error e => .error e
  | .ok none => .ok none
  | .ok (some h) =>
    if Bytes.reaches (h.length + h.payloadLength) bytes then .ok (some (h.frameAt start))
    else .ok none

/-- The frame at position `start` of `data`, or nothing while a part of it is still missing. -/
def parse (limit : Nat) (data : Bytes) (start : Nat) : Except ProtocolError (Option Frame) :=
  parseHead limit start (data.drop start)

theorem Header.parse_bounds {limit : Nat} {bytes : Bytes} {h : Header}
    (hp : Header.parse limit bytes = .ok (some h)) : 2 ≤ h.length ∧ h.payloadLength ≤ limit := by
  unfold Header.parse at hp
  repeat' split at hp
  all_goals simp only [reduceCtorEq, Except.ok.injEq, Option.some.injEq] at hp
  all_goals
    subst hp
    simp only
    omega

/-- A frame that was read lies inside its bytes, has at least two of them, and its payload is
within the limit. -/
theorem parseHead_bounds {limit start : Nat} {bytes : Bytes} {f : Frame}
    (hf : parseHead limit start bytes = .ok (some f)) :
    f.start = start ∧ 2 ≤ f.headerLength ∧ f.length ≤ bytes.length ∧ f.payloadLength ≤ limit := by
  unfold parseHead at hf
  repeat' split at hf
  all_goals simp only [reduceCtorEq, Except.ok.injEq, Option.some.injEq] at hf
  next h hh hle =>
  subst hf
  have := Header.parse_bounds hh
  exact ⟨rfl, this.1, Bytes.reaches_iff.1 hle, this.2⟩

end Frame

end WebSocket
