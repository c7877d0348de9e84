import WebSocket.Policy
import WebSocket.Session.Buffer
import WebSocket.Session.Error
import WebSocket.Session.Socket

/-!
# The inbound half of a session

Bytes are read until the socket would wait.  After every read the complete units at the front of the
buffer are handed over, each once and in order; the rest stays for the next read.

## Main definitions

* `Inbox` — the buffer, and whether a unit is half received.
* `Inbox.handOver`, `Inbox.drain` — the complete units handed over.
* `Inbox.reception`, `Inbox.receive` — reading until nothing more has arrived, and the reads that
  were made.

## Main results

* `Inbox.contents_release` — the bytes that are not handed over stay.
-/

namespace WebSocket

/-- The inbound half of a session. -/
structure Inbox where
  buffer : Buffer
  /-- A unit has begun to arrive and is not complete. -/
  assembling : Bool

namespace Inbox

/-- An inbox that has received nothing. -/
def new (initial ceiling : Nat) : Inbox := ⟨.new initial ceiling, false⟩

/-- What one pass over an inbox comes to: the inbox after it, the state of whoever takes the units,
and how it ended. -/
structure Pass (σ α : Type) where
  inbox : Inbox
  state : σ
  result : Except SessionError α

variable {σ : Type}

/-- What handing over units comes to: how many bytes were handed over, the state of whoever takes
the units, and how it ended. -/
structure Handover (σ : Type) where
  used : Nat
  state : σ
  result : Except SessionError Unit

/-- Every complete unit at the front of `rest` handed over to `handle`, which keeps a state and may
refuse a unit; `used` bytes were handed over before.  A unit that was refused was not. -/
def handOver (p : Policy) (handle : σ → Bytes → σ × Option SessionError) (rest : Bytes)
    (used : Nat) (s : σ) : Handover σ :=
  match _h : p.boundary rest with
  | .error e => ⟨used, s, .error (.protocol e)⟩
  | .ok .incomplete => ⟨used, s, .ok ()⟩
  | .ok (.complete n) =>
    match handle s (rest.take n) with
    | (s, some e) => ⟨used, s, .error e⟩
    | (s, none) => handOver p handle (rest.drop n) (used + n) s
termination_by rest.length
decreasing_by
  have := Policy.boundary_bounds _h
  simp only [List.length_drop]
  omega

/-- The inbox after the first `n` bytes were handed over. -/
def release (i : Inbox) (n : Nat) : Inbox :=
  if n = 0 then i
  else if n ≥ i.buffer.filled then ⟨i.buffer.reset, false⟩
  else { i with buffer := i.buffer.consume n }

/-- What was not handed over stays, in its order. -/
theorem contents_release (i : Inbox) (n : Nat) :
    (i.release n).buffer.contents = i.buffer.contents.drop n := by
  unfold release
  split
  · next h => simp [h]
  · split
    · next h => simp [List.drop_eq_nil_of_le, h]
    · exact Buffer.contents_consume ..

/-- Every complete unit at the front of the buffer handed over to `handle`.  A unit that was refused
stays in the buffer. -/
def drain (p : Policy) (handle : σ → Bytes → σ × Option SessionError) (i : Inbox) (s : σ) :
    Pass σ Unit :=
  let h := handOver p handle i.buffer.contents 0 s
  ⟨i.release h.used, h.state, h.result⟩

/-- The inbox with at least one byte of room, or nothing when it is full at its largest size. -/
def makeRoom? (i : Inbox) : Option Inbox :=
  if i.buffer.isFull then i.buffer.grow?.map fun b => { i with buffer := b } else some i

/-- The inbox with a chunk that was read. -/
def take (i : Inbox) (chunk : Bytes) : Inbox := ⟨i.buffer.put chunk, true⟩

/-- A read: for how many bytes there was room, and what it found. -/
structure Read where
  room : Nat
  found : Arrival
  deriving DecidableEq, Repr

/-- What reading comes to, and the reads that were made, in order. -/
structure Reception (σ : Type) where
  pass : Pass σ Nat
  source : Source
  reads : List Read

/-- A read that was made before the others. -/
def Reception.behind (read : Read) (r : Reception σ) : Reception σ :=
  { r with reads := read :: r.reads }

/-- Reading from `source` until nothing more has arrived, with the units handed over after every
read.  The result is the number of bytes read, `total` of them before this. -/
def reception (p : Policy) (handle : σ → Bytes → σ × Option SessionError) (i : Inbox)
    (source : Source) (s : σ) (total : Nat) : Reception σ :=
  match i.makeRoom? with
  | none => ⟨⟨i, s, .error (.bufferFull i.buffer.ceiling)⟩, source, []⟩
  | some j =>
    match _h : source.read j.buffer.room with
    | (.blocked, source) => ⟨⟨j, s, .ok total⟩, source, [⟨j.buffer.room, .blocked⟩]⟩
    | (.failed detail, source) =>
      ⟨⟨j, s, .error (.io detail)⟩, source, [⟨j.buffer.room, .failed detail⟩]⟩
    | (.interrupted, source) =>
      .behind ⟨j.buffer.room, .interrupted⟩ (reception p handle j source s total)
    | (.bytes [], source) => ⟨⟨j, s, .error .peerClosed⟩, source, [⟨j.buffer.room, .bytes []⟩]⟩
    | (.bytes (b :: chunk), source) =>
      match drain p handle (j.take (b :: chunk)) s with
      | ⟨k, s, .error e⟩ =>
        ⟨⟨k, s, .error e⟩, source, [⟨j.buffer.room, .bytes (b :: chunk)⟩]⟩
      | ⟨k, s, .ok ()⟩ =>
        .behind ⟨j.buffer.room, .bytes (b :: chunk)⟩
          (reception p handle k source s (total + (b :: chunk).length))
termination_by source.weight
decreasing_by
  · exact Source.weight_read_interrupted _h
  · have := Source.weight_read_bytes _h
    simp only [List.length_cons] at this
    omega

/-- Reading from `source`, as `reception` does it, and the source afterwards. -/
def receiveFrom (p : Policy) (handle : σ → Bytes → σ × Option SessionError) (i : Inbox)
    (source : Source) (s : σ) (total : Nat) : Pass σ Nat × Source :=
  let r := reception p handle i source s total
  (r.pass, r.source)

/-- Reading from `source` until nothing more has arrived; the result is the number of bytes read. -/
def receive (p : Policy) (handle : σ → Bytes → σ × Option SessionError) (i : Inbox)
    (source : Source) (s : σ) : Pass σ Nat × Source :=
  receiveFrom p handle i source s 0

end Inbox

end WebSocket
