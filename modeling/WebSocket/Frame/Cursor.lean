import WebSocket.Frame.Sequence
import WebSocket.Text.Decimal

/-!
# Reading frames by position

The readers of `Frame/Parse` and `Frame/Sequence` pass on what is left of the bytes.  A program that
never copies goes over them by position instead, and its positions are words of 64 bits, as are the
lengths that a header declares.  Here frames are read in that way: every sum is made with a check
that it is a word, bytes are asked for by their positions, and the frames of a message are read in
rounds, of which only so many are allowed.

## Main definitions

* `Fault`, `Halt` — what stops a reading.
* `Cursor.add`, `Cursor.sub` — sums and differences of words.
* `Cursor.byteAt`, `Cursor.bytesAt`, `Cursor.slice` — bytes by position.
* `Span`, `Span.parse` — a frame as the positions that were met, and how it is read.
* `Span.scan` — the frames of a message, in at most so many rounds.
* `Frame.span` — the positions of a frame.
-/

namespace WebSocket

/-- What no program goes on after. -/
inductive Fault
  /-- A sum that is no word, or a difference below zero. -/
  | overflow
  /-- A piece of the bytes that is not there. -/
  | outOfRange
  /-- All rounds are used up. -/
  | exhausted
  deriving DecidableEq, Repr

/-- How a reading ends that finds nothing. -/
inductive Halt
  /-- A part is still missing. -/
  | missing
  | refused (e : ProtocolError)
  | fault (f : Fault)
  deriving DecidableEq, Repr

/-- What a reader found that knows no faults. -/
def Halt.ofReading {α : Type} : Except ProtocolError (Option α) → Except Halt α
  | .error e => .error (.refused e)
  | .ok none => .error .missing
  | .ok (some a) => .ok a

theorem Halt.map_ofReading_ne_fault {α β : Type} (r : Except ProtocolError (Option α)) (g : α → β)
    (fault : Fault) : (ofReading r).map g ≠ .error (.fault fault) := by
  cases r with
  | error e => simp [ofReading, Except.map]
  | ok found => cases found <;> simp [ofReading, Except.map]

namespace Cursor

/-! ### Words -/

/-- The sum of two words, as long as it is a word. -/
def add (a b : Nat) : Except Halt Nat :=
  if a + b < Text.wordLimit then .ok (a + b) else .error (.fault .overflow)

/-- The difference of two words, as long as it is not below zero. -/
def sub (a b : Nat) : Except Halt Nat :=
  if b ≤ a then .ok (a - b) else .error (.fault .overflow)

/-- Goes on only where a condition holds. -/
def ensure (c : Prop) [Decidable c] (h : Halt) : Except Halt Unit :=
  if c then .ok () else .error h

@[simp] theorem ok_bind {α β : Type} (a : α) (f : α → Except Halt β) :
    (Except.ok a >>= f) = f a := rfl

@[simp] theorem error_bind {α β : Type} (h : Halt) (f : α → Except Halt β) :
    (Except.error h >>= f) = .error h := rfl

@[simp] theorem mapError_ok {α : Type} (a : α) :
    (Except.ok a).mapError Halt.refused = .ok a := rfl

theorem add_eq_ok {a b : Nat} (h : a + b < Text.wordLimit) : add a b = .ok (a + b) := if_pos h

theorem add_eq_error {a b : Nat} (h : Text.wordLimit ≤ a + b) :
    add a b = .error (.fault .overflow) := if_neg (Nat.not_lt.2 h)

theorem sub_eq_ok {a b : Nat} (h : b ≤ a) : sub a b = .ok (a - b) := if_pos h

theorem ensure_eq_ok {c : Prop} [Decidable c] (hc : c) (h : Halt) : ensure c h = .ok () := if_pos hc

theorem ensure_eq_error {c : Prop} [Decidable c] (hc : ¬ c) (h : Halt) :
    ensure c h = .error h := if_neg hc

/-! ### Bytes by position -/

/-- The byte at a position. -/
def byteAt (data : Bytes) (i : Nat) : Except Halt UInt8 :=
  match data[i]? with
  | some b => .ok b
  | none => .error .missing

/-- The `k` bytes from a position on, and the position behind them. -/
def bytesAt (data : Bytes) (i k : Nat) : Except Halt (Bytes × Nat) := do
  let stop ← add i k
  ensure (stop ≤ data.length) .missing
  return ((data.drop i).take k, stop)

/-- The bytes from a position up to another, which have to be there. -/
def slice (data : Bytes) (i j : Nat) : Except Halt Bytes := do
  ensure (i ≤ j ∧ j ≤ data.length) (.fault .outOfRange)
  return (data.drop i).take (j - i)

/-- The payload length after the second byte of a header, and the position behind it. -/
def lengthAt (data : Bytes) (second : UInt8) (i : Nat) : Except Halt (Nat × Nat) :=
  let small := (second &&& 0x7F).toNat
  if small = 126 then do
    let (front, i) ← bytesAt data i 2
    return (Bytes.toNatBE front, i)
  else if small = 127 then do
    let (front, i) ← bytesAt data i 8
    return (Bytes.toNatBE front, i)
  else return (small, i)

/-- The mask behind the length, where the second byte announces one, and the position behind it. -/
def maskAt (data : Bytes) (second : UInt8) (i : Nat) : Except Halt (Option MaskKey × Nat) :=
  if second &&& 0x80 == 0 then return (none, i)
  else do
    let (key, i) ← bytesAt data i 4
    return (MaskKey.ofBytes? key, i)

end Cursor

open Cursor

/-- A frame as the positions that were met in a byte string. -/
structure Span where
  start : Nat
  /-- The bytes of the whole frame. -/
  length : Nat
  fin : Bool
  opcode : Opcode
  mask : Option MaskKey
  payloadStart : Nat
  payloadLength : Nat
  deriving DecidableEq, Repr

namespace Span

/-- The frame at position `start` of `data`. -/
def parse (limit : Nat) (data : Bytes) (start : Nat) : Except Halt Span := do
  let first ← byteAt data start
  let (fin, opcode) ← (Frame.readFirst first).mapError Halt.refused
  let second ← byteAt data (← add start 1)
  let cursor ← add start 2
  let (declared, cursor) ← lengthAt data second cursor
  ensure (declared ≤ limit) (.refused (.tooLarge declared limit))
  let (mask, cursor) ← maskAt data second cursor
  let stop ← add cursor declared
  ensure (stop ≤ data.length) .missing
  let length ← sub stop start
  return ⟨start, length, fin, opcode, mask, cursor, declared⟩

/-- The position after the last byte of a frame. -/
def stop (s : Span) : Except Halt Nat := add s.start s.length

/-- The payload as it stands on the wire. -/
def wirePayload (s : Span) (data : Bytes) : Except Halt Bytes := do
  slice data s.payloadStart (← add s.payloadStart s.payloadLength)

/-- The frames of a message from position `start` on, behind those that were read before, in at most
so many rounds. -/
def scanFrom (limit : Nat) (data : Bytes) :
    (rounds start : Nat) → (before : List Span) → Except Halt (List Span)
  | 0, _, _ => .error (.fault .exhausted)
  | rounds + 1, start, before => do
    let s ← parse limit data start
    let found := before ++ [s]
    if s.opcode.isControl && found.length == 1 then return found
    else if !s.opcode.isControl && s.fin then return found
    else do
      let stop ← s.stop
      ensure (stop ≤ limit) (.refused (.tooLarge stop limit))
      scanFrom limit data rounds stop found

/-- The frames of the message at the head of `data`, in at most so many rounds. -/
def scan (limit rounds : Nat) (data : Bytes) : Except Halt (List Span) :=
  scanFrom limit data rounds 0 []

/-- The bytes of several frames together, summed one after the other. -/
def total (spans : List Span) : Except Halt Nat := spans.foldlM (fun n s => add n s.length) 0

end Span

/-- The positions of a frame. -/
def Frame.span (f : Frame) : Span :=
  ⟨f.start, f.length, f.fin, f.opcode, f.mask, f.payloadStart, f.payloadLength⟩

end WebSocket
