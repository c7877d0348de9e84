import WebSocket.Notice
import WebSocket.Session.Socket

/-!
# The outbound half of a session

Packets wait in a queue until the socket accepts them.  Anyone may add one while there is space;
only the session itself takes them out and writes them, one after the other, each from where the
last write left off.

## Main definitions

* `Packet`, `Outbox` — what waits, and how much of it there is.
* `Outbox.push` — adding a packet, in the steps `Outbox.admits`, `Outbox.count`,
  `Outbox.takeNumber` and `Outbox.append`, each of which touches one thing that all threads share.
* `Writer`, `Writer.flush`, `Writer.abort` — writing, and giving up.
* `Outbox.loadFactor` — how full the queue is.

## Main results

* `Outbox.waiting_push`, `Outbox.waiting_pop?` — packets are added at the end and taken out at the
  front.
-/

namespace WebSocket

/-- Bytes to be sent, numbered in the order in which they were added. -/
structure Packet where
  bytes : Bytes
  seq : Nat
  kind : MessageKind
  deriving DecidableEq, Repr

/-- The packets of a session that wait to be sent. -/
structure Outbox where
  /-- The packets that wait, the latest first. -/
  latest : List Packet
  /-- The packets that wait, and the one that is being written. -/
  pending : Nat
  /-- The largest number that was ever pending. -/
  peak : Nat
  nextSeq : Nat
  capacity : Nat
  deriving DecidableEq, Repr

namespace Outbox

/-- A queue that nothing was added to. -/
def new (capacity : Nat) : Outbox := ⟨[], 0, 0, 1, capacity⟩

/-- The packets that wait, in order. -/
def waiting (o : Outbox) : List Packet := o.latest.reverse

/-- The packets `waiting` made those that wait. -/
def keep (waiting : List Packet) (o : Outbox) : Outbox := { o with latest := waiting.reverse }

@[simp] theorem waiting_keep (waiting : List Packet) (o : Outbox) :
    (o.keep waiting).waiting = waiting := by
  simp [Outbox.waiting, keep]

@[simp] theorem pending_keep (waiting : List Packet) (o : Outbox) :
    (o.keep waiting).pending = o.pending := rfl

/-- As far as the count tells, one more packet may be pending. -/
def admits (o : Outbox) : Bool := o.pending < o.capacity

/-- A packet counted that is about to be added. -/
def count (o : Outbox) : Outbox :=
  { o with pending := o.pending + 1, peak := max o.peak (o.pending + 1) }

/-- The next number taken. -/
def takeNumber (o : Outbox) : Nat × Outbox := (o.nextSeq, { o with nextSeq := o.nextSeq + 1 })

/-- A packet put at the end of those that wait. -/
def append (p : Packet) (o : Outbox) : Outbox := { o with latest := p :: o.latest }

@[simp] theorem waiting_append (p : Packet) (o : Outbox) :
    (o.append p).waiting = o.waiting ++ [p] := by
  simp [Outbox.waiting, append]

/-- A packet added, and its number, as long as fewer are pending than may be. -/
def push (o : Outbox) (bytes : Bytes) (kind : MessageKind) : Except SessionError (Nat × Outbox) :=
  if o.admits then
    let (seq, o) := o.count.takeNumber
    .ok (seq, o.append ⟨bytes, seq, kind⟩)
  else .error (.outboxFull o.capacity)

/-- A packet that was added waits behind the others. -/
theorem waiting_push {o o' : Outbox} {bytes : Bytes} {kind : MessageKind} {seq : Nat}
    (h : o.push bytes kind = .ok (seq, o')) : o'.waiting = o.waiting ++ [⟨bytes, seq, kind⟩] := by
  unfold push at h
  split at h
  · obtain ⟨rfl, rfl⟩ : _ = seq ∧ _ = o' := by simpa using h
    exact waiting_append ..
  · simp at h

/-- The packet that waited longest, and the queue without it. -/
def pop? (o : Outbox) : Option (Packet × Outbox) :=
  match o.waiting with
  | [] => none
  | p :: waiting => some (p, o.keep waiting)

theorem pop?_of_nil {o : Outbox} (h : o.waiting = []) : o.pop? = none := by
  unfold pop?
  rw [h]

theorem pop?_of_cons {o : Outbox} {p : Packet} {waiting : List Packet}
    (h : o.waiting = p :: waiting) : o.pop? = some (p, o.keep waiting) := by
  unfold pop?
  rw [h]

/-- The packet that was taken out stood first, and the others are kept. -/
theorem pop?_eq_some {o rest : Outbox} {p : Packet} (h : o.pop? = some (p, rest)) :
    ∃ waiting, o.waiting = p :: waiting ∧ rest = o.keep waiting := by
  unfold pop? at h
  split at h
  · simp at h
  · next q waiting hw =>
    obtain ⟨rfl, rfl⟩ : q = p ∧ o.keep waiting = rest := by simpa using h
    exact ⟨waiting, hw, rfl⟩

/-- The packet that was taken out stood first, and the others wait as before. -/
theorem waiting_pop? {o rest : Outbox} {p : Packet} (h : o.pop? = some (p, rest)) :
    o.waiting = p :: rest.waiting := by
  obtain ⟨waiting, hw, rfl⟩ := pop?_eq_some h
  rw [hw, waiting_keep]

/-- One packet is no longer pending. -/
def complete (o : Outbox) : Outbox := { o with pending := o.pending - 1 }

@[simp] theorem pending_complete (o : Outbox) : o.complete.pending = o.pending - 1 := rfl

@[simp] theorem waiting_complete (o : Outbox) : o.complete.waiting = o.waiting := rfl

/-- Every packet that waits dropped, and their number. -/
def clear (o : Outbox) : Nat × Outbox :=
  let dropped := o.latest.length
  (dropped, { o with latest := [], pending := o.pending - dropped })

/-- How full the queue is, between 0 and 1; one that takes nothing is full. -/
def loadFactor (o : Outbox) : Float :=
  if o.capacity = 0 then 1.0
  else
    let ratio := Float.ofNat o.pending / Float.ofNat o.capacity
    if ratio > 1.0 then 1.0 else ratio

end Outbox

/-- What writing one packet comes to. -/
inductive Delivery
  /-- All of it was written. -/
  | done
  /-- The first `offset` bytes were written. -/
  | blocked (offset : Nat)
  | failed (cause : SessionError)
  deriving DecidableEq, Repr

/-- A packet written to `sink` from `offset` on, until it is done or the sink takes no more. -/
def Packet.writeFrom (p : Packet) (offset : Nat) (sink : Sink) : Delivery × Sink :=
  if _ho : offset < p.bytes.length then
    match _h : sink.write (p.bytes.drop offset) with
    | (.bytes 0, sink) => (.failed .writeZero, sink)
    | (.bytes (n + 1), sink) => p.writeFrom (offset + (n + 1)) sink
    | (.blocked, sink) => (.blocked offset, sink)
    | (.interrupted, sink) => p.writeFrom offset sink
    | (.failed detail, sink) => (.failed (.io detail), sink)
  else (.done, sink)
termination_by (sink.acceptances.length, p.bytes.length - offset)
decreasing_by
  · rcases Sink.write_decreases _h with hlt | ⟨heq, _⟩
    · exact Prod.Lex.left _ _ hlt
    · rw [heq]
      exact Prod.Lex.right _ (by omega)
  · rcases Sink.write_decreases _h with hlt | ⟨_, ha⟩
    · exact Prod.Lex.left _ _ hlt
    · simp at ha

/-- The writing half of a session: the packet that is being written, and how much of it was. -/
structure Writer where
  inFlight : Option (Packet × Nat)
  deriving DecidableEq, Repr

namespace Writer

/-- Nothing is being written. -/
def idle : Writer := ⟨none⟩

/-- A packet is being written or waits. -/
def hasPending (w : Writer) (o : Outbox) : Bool := w.inFlight.isSome || o.pending ≠ 0

/-- What flushing or aborting comes to. -/
structure Pass (α : Type) where
  writer : Writer
  outbox : Outbox
  sink : Sink
  notices : List Notice
  result : α

/-- What is told when a packet was written. -/
def written (id : ConnectionId) (p : Packet) : List Notice :=
  [.log (.packetWritten id p.seq p.kind p.bytes.length), .count (.packetsSent p.kind) 1,
    .count .bytesWritten p.bytes.length]

/-- What is told when a packet could not be written. -/
def failed (id : ConnectionId) (p : Packet) : List Notice :=
  [.log (.packetFailed id p.seq p.kind), .count (.packetsFailed p.kind) 1]

/-- The packet `p` written from `offset` on, then those in `waiting`, until none is left or the sink
takes no more.  The result is the number of bytes that were written, `total` of them before this. -/
def flushFrom (id : ConnectionId) (o : Outbox) (sink : Sink) (p : Packet) (offset total : Nat)
    (waiting : List Packet) : Pass (Except SessionError Nat) :=
  match p.writeFrom offset sink with
  | (.blocked reached, sink) =>
    ⟨⟨some (p, reached)⟩, o.keep waiting, sink, [], .ok (total + (reached - offset))⟩
  | (.failed e, sink) => ⟨idle, o.complete.keep waiting, sink, failed id p, .error e⟩
  | (.done, sink) =>
    let total := total + (p.bytes.length - offset)
    match waiting with
    | [] => ⟨idle, o.complete.keep [], sink, written id p, .ok total⟩
    | next :: waiting =>
      let pass := flushFrom id o.complete sink next 0 total waiting
      { pass with notices := written id p ++ pass.notices }

/-- The packets that are pending written in order, until none is left or the sink takes no more.
The result is the number of bytes that were written. -/
def flush (id : ConnectionId) (w : Writer) (o : Outbox) (sink : Sink) :
    Pass (Except SessionError Nat) :=
  match w.inFlight, o.waiting with
  | some (p, offset), waiting => flushFrom id o sink p offset 0 waiting
  | none, p :: waiting => flushFrom id o sink p 0 0 waiting
  | none, [] => ⟨idle, o, sink, [], .ok 0⟩

/-- Everything that is pending given up; the result is the number of packets. -/
def abort (id : ConnectionId) (w : Writer) (o : Outbox) (sink : Sink) : Pass Nat :=
  let (dropped, o) := o.clear
  match w.inFlight with
  | some (p, _) => ⟨idle, o.complete, sink, failed id p, dropped + 1⟩
  | none => ⟨idle, o, sink, [], dropped⟩

end Writer

end WebSocket
