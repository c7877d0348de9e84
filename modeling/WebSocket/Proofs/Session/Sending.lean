import Mathlib
import WebSocket.Session.Outbox

/-!
# What a socket is given

Packets are added to a queue and written from it, and a write may take any part of what it is given,
or nothing.  A packet that was cut is taken up where the last write left off, so the socket is given
the bytes of the packets one after the other, in the order in which they were added.

## Main definitions

* `Writer.packets`, `Writer.front`, `Writer.rest` — the packet that is being written, and its two
  parts.
* `Sending` — a queue and its writer on a sink, with what happened to them.
* `Sending.Act`, `Sending.run` — packets added and pending packets written, in any order.
* `Sending.Told` — the invariant of such a run.

## Main results

* `Packet.taken_writeFrom` — writing a packet goes on where it left off.
* `Writer.flush_spec` — **what flushing writes.**
* `Sending.run_order` — **a socket is given the packets in order, and every byte of them once.**
-/

namespace WebSocket

/-! ### Writing one packet -/

/-- How much of a packet was written in the end, unless writing it failed. -/
def Delivery.reached (p : Packet) : Delivery → Option Nat
  | .done => some p.bytes.length
  | .blocked offset => some offset
  | .failed _ => none

/-- **Writing a packet goes on where it left off.**  Where a sink was given the first bytes of a
packet behind others, it is given more of them, and nothing else. -/
theorem Packet.taken_writeFrom {p : Packet} {before : Bytes} {offset reached : Nat} {sink : Sink}
    (htaken : sink.taken = before ++ p.bytes.take offset) (ho : offset ≤ p.bytes.length)
    (hr : (p.writeFrom offset sink).1.reached p = some reached) :
    (p.writeFrom offset sink).2.taken = before ++ p.bytes.take reached ∧
      offset ≤ reached ∧ reached ≤ p.bytes.length := by
  fun_induction Packet.writeFrom p offset sink with
  | case1 => simp [Delivery.reached] at hr
  | case2 offset sink hlt n t h ih =>
    have hle := Sink.write_le h
    rw [List.length_drop] at hle
    have hmore : t.taken = before ++ p.bytes.take (offset + (n + 1)) := by
      rw [Sink.taken_write h, htaken, List.append_assoc, List.take_add]
    obtain ⟨hend, hlow, hhigh⟩ := ih hmore (by omega) hr
    exact ⟨hend, by omega, hhigh⟩
  | case3 offset sink hlt t h =>
    obtain rfl : offset = reached := Option.some.inj hr
    exact ⟨(Sink.taken_write_of_ne h (by simp)).trans htaken, Nat.le_refl _, ho⟩
  | case4 offset sink hlt t h ih =>
    exact ih ((Sink.taken_write_of_ne h (by simp)).trans htaken) ho hr
  | case5 => simp [Delivery.reached] at hr
  | case6 offset sink hge =>
    obtain rfl : p.bytes.length = reached := Option.some.inj hr
    obtain rfl : offset = p.bytes.length := by omega
    exact ⟨htaken, Nat.le_refl _, Nat.le_refl _⟩

/-! ### Flushing -/

namespace Writer

/-- The packet that is being written. -/
def packets (w : Writer) : List Packet := (w.inFlight.map Prod.fst).toList

/-- What was written of it. -/
def front (w : Writer) : Bytes :=
  match w.inFlight with
  | some (p, offset) => p.bytes.take offset
  | none => []

/-- What is still to be written of it. -/
def rest (w : Writer) : Bytes :=
  match w.inFlight with
  | some (p, offset) => p.bytes.drop offset
  | none => []

/-- Not more of a packet was written than there is. -/
def Sound (w : Writer) : Prop := ∀ p offset, w.inFlight = some (p, offset) → offset ≤ p.bytes.length

theorem front_append_rest (w : Writer) : w.front ++ w.rest = w.packets.flatMap Packet.bytes := by
  obtain ⟨_ | ⟨p, offset⟩⟩ := w
  · rfl
  · simp [front, rest, packets]

theorem length_front {w : Writer} (h : w.Sound) {p : Packet} {offset : Nat}
    (hw : w.inFlight = some (p, offset)) : w.front.length = offset := by
  simp only [front, hw, List.length_take]
  exact Nat.min_eq_left (h p offset hw)

/-- What a pass of the writer has done: it was to write the packets `todo` to a sink that was given
`before` and then `given` bytes. -/
structure Pass.Writes (pass : Pass (Except SessionError Nat)) (id : ConnectionId)
    (before : Bytes) (todo done : List Packet) : Prop where
  /-- The packets that were written are told. -/
  told : pass.notices = done.flatMap (written id)
  /-- They come first, and after them the packet that is being written, and those that wait. -/
  order : todo = done ++ pass.writer.packets ++ pass.outbox.waiting
  /-- The sink was given them, and the first bytes of the packet that is being written. -/
  taken : pass.sink.taken = before ++ done.flatMap Packet.bytes ++ pass.writer.front
  sound : pass.writer.Sound

/-- Packets are written in order.  The induction is on those that wait. -/
theorem flushFrom_spec {id : ConnectionId} {o : Outbox} {sink : Sink} {p : Packet}
    {before : Bytes} {offset total n : Nat} {waiting : List Packet}
    (htaken : sink.taken = before ++ p.bytes.take offset) (ho : offset ≤ p.bytes.length)
    (hn : (flushFrom id o sink p offset total waiting).result = .ok n) :
    ∃ done, (flushFrom id o sink p offset total waiting).Writes id before (p :: waiting) done ∧
      total + (flushFrom id o sink p offset total waiting).sink.taken.length =
        n + sink.taken.length := by
  fun_induction flushFrom id o sink p offset total waiting generalizing before with
  | case1 waiting o sink p offset total reached t h =>
    obtain rfl : total + (reached - offset) = n := Except.ok.inj hn
    obtain ⟨hend, hlow, hhigh⟩ := @Packet.taken_writeFrom _ _ _ reached _ htaken ho (by rw [h]; rfl)
    rw [h] at hend
    refine ⟨[], ⟨rfl, ?_, ?_, ?_⟩, ?_⟩
    · simp [packets]
    · simpa [front] using hend
    · rintro q offset' hq
      obtain ⟨rfl, rfl⟩ : p = q ∧ reached = offset' := by simpa using hq
      exact hhigh
    · simp only [hend, htaken, List.length_append, List.length_take]
      omega
  | case2 => simp at hn
  | case3 o sink p offset total t h =>
    obtain rfl : total + (p.bytes.length - offset) = n := Except.ok.inj hn
    obtain ⟨hend, -, -⟩ := Packet.taken_writeFrom htaken ho (by rw [h]; rfl)
    rw [h, List.take_length] at hend
    refine ⟨[p], ⟨by simp, ?_, ?_, ?_⟩, ?_⟩
    · simp [packets, idle]
    · simpa [front, idle] using hend
    · simp [Sound, idle]
    · simp only [hend, htaken, List.length_append, List.length_take]
      omega
  | case4 o sink p offset total t h total' next waiting pass =>
    rename_i ih
    obtain ⟨hend, -, -⟩ := Packet.taken_writeFrom htaken ho (by rw [h]; rfl)
    rw [h, List.take_length] at hend
    -- The next packet is written behind this one.
    obtain ⟨done, hdone, hcount⟩ : ∃ done,
        pass.Writes id (before ++ p.bytes) (next :: waiting) done ∧
        total' + pass.sink.taken.length = n + t.taken.length :=
      ih (by simpa using hend) (Nat.zero_le _) hn
    refine ⟨p :: done, ⟨?_, ?_, ?_, hdone.sound⟩, ?_⟩
    · rw [List.flatMap_cons, ← hdone.told]
    · rw [hdone.order]
      simp
    · rw [hdone.taken, List.flatMap_cons]
      simp
    · simp only [total', hend, htaken, List.length_append, List.length_take] at hcount ⊢
      omega

/-- **What flushing writes.**  The packet that is being written is taken up where it was left, and
the others follow in order; the result is the number of bytes that the sink was given. -/
theorem flush_spec {id : ConnectionId} {w : Writer} {o : Outbox} {sink : Sink} {before : Bytes}
    {n : Nat} (hw : w.Sound) (htaken : sink.taken = before ++ w.front)
    (hn : (w.flush id o sink).result = .ok n) :
    ∃ done, (w.flush id o sink).Writes id before (w.packets ++ o.waiting) done ∧
      (w.flush id o sink).sink.taken.length = n + sink.taken.length := by
  obtain ⟨inFlight⟩ := w
  cases inFlight with
  | some inFlight =>
    obtain ⟨p, offset⟩ := inFlight
    obtain ⟨done, hdone, hcount⟩ := flushFrom_spec htaken (hw p offset rfl) hn
    exact ⟨done, hdone, by rwa [Nat.zero_add] at hcount⟩
  | none =>
    unfold flush at hn ⊢
    cases hwaiting : o.waiting with
    | nil =>
      -- There is nothing to write.
      rw [hwaiting] at hn
      obtain rfl : 0 = n := Except.ok.inj hn
      exact ⟨[], ⟨rfl, by simp [packets, idle, hwaiting], by simpa [front, idle] using htaken,
        by simp [Sound, idle]⟩, (Nat.zero_add _).symm⟩
    | cons p waiting =>
      rw [hwaiting] at hn
      have hstart : sink.taken = before ++ p.bytes.take 0 := htaken
      obtain ⟨done, hdone, hcount⟩ := flushFrom_spec hstart (Nat.zero_le _) hn
      exact ⟨done, hdone, by rwa [Nat.zero_add] at hcount⟩

end Writer

/-! ### Packets added and written in any order -/

/-- A queue and its writer on a sink, with what happened to them. -/
structure Sending where
  outbox : Outbox
  writer : Writer
  sink : Sink
  /-- The packets that were added, in order. -/
  added : List Packet
  /-- What the writer told. -/
  told : List Notice
  /-- What the flushes returned, in order. -/
  returned : List Nat

namespace Sending

/-- Nothing was added and nothing was written. -/
def new (capacity : Nat) : Sending := ⟨.new capacity, .idle, .new [], [], [], []⟩

/-- What happens to a queue and its writer. -/
inductive Act
  /-- Somebody adds a packet, if there is room. -/
  | push (bytes : Bytes) (kind : MessageKind)
  /-- The packets that are pending are written; the writes find what is given here. -/
  | flush (found : List Acceptance)
  deriving DecidableEq, Repr

/-- One act, unless it is a flush that fails.  A packet that is refused changes nothing. -/
def act (id : ConnectionId) (s : Sending) : Act → Except SessionError Sending
  | .push bytes kind =>
    match s.outbox.push bytes kind with
    | .ok (seq, outbox) => .ok { s with outbox, added := s.added ++ [⟨bytes, seq, kind⟩] }
    | .error _ => .ok s
  | .flush found =>
    let pass := s.writer.flush id s.outbox { s.sink with acceptances := found }
    match pass.result with
    | .ok n => .ok { s with
        outbox := pass.outbox
        writer := pass.writer
        sink := pass.sink
        told := s.told ++ pass.notices
        returned := s.returned ++ [n] }
    | .error e => .error e

/-- Acts in order, unless a flush fails. -/
def run (id : ConnectionId) (s : Sending) (acts : List Act) : Except SessionError Sending :=
  acts.foldlM (act id) s

/-- The packets `done` were written, and what else was added is being written or waits. -/
structure Told (id : ConnectionId) (s : Sending) (done : List Packet) : Prop where
  told : s.told = done.flatMap (Writer.written id)
  order : s.added = done ++ s.writer.packets ++ s.outbox.waiting
  taken : s.sink.taken = done.flatMap Packet.bytes ++ s.writer.front
  sound : s.writer.Sound
  count : s.returned.sum = s.sink.taken.length

theorem told_new (id : ConnectionId) (capacity : Nat) : (new capacity).Told id [] where
  told := rfl
  order := rfl
  taken := rfl
  sound := by simp [Writer.Sound, new, Writer.idle]
  count := rfl

/-- Every act that does not fail keeps to the order. -/
theorem Told.act {id : ConnectionId} {s s' : Sending} {done : List Packet} (h : s.Told id done)
    {a : Act} (ha : s.act id a = .ok s') : ∃ more, s'.Told id (done ++ more) := by
  cases a with
  | push bytes kind =>
    simp only [Sending.act] at ha
    split at ha
    · next seq outbox hpush =>
      obtain rfl := Except.ok.inj ha
      refine ⟨[], ⟨by simpa using h.told, ?_, by simpa using h.taken, h.sound, h.count⟩⟩
      simp [h.order, Outbox.waiting_push hpush]
    · obtain rfl := Except.ok.inj ha
      exact ⟨[], by simpa using h⟩
  | flush found =>
    simp only [Sending.act] at ha
    split at ha
    · next n hn =>
      obtain rfl := Except.ok.inj ha
      -- What the writes will find does not change what the sink was given.
      have htaken : ({ s.sink with acceptances := found } : Sink).taken =
          done.flatMap Packet.bytes ++ s.writer.front := h.taken
      obtain ⟨more, hmore, hcount⟩ := Writer.flush_spec h.sound htaken hn
      refine ⟨more, ⟨?_, ?_, ?_, hmore.sound, ?_⟩⟩
      · rw [List.flatMap_append, ← h.told, ← hmore.told]
      · rw [List.append_assoc, List.append_assoc, ← List.append_assoc more, ← hmore.order,
          ← List.append_assoc]
        exact h.order
      · rw [List.flatMap_append]
        exact hmore.taken
      · rw [hcount, List.sum_append, List.sum_singleton, h.count, Nat.add_comm]
        rfl
    · simp at ha

/-- So does every run of them.  The induction is on the acts. -/
theorem Told.run {id : ConnectionId} {s s' : Sending} {done : List Packet} (h : s.Told id done)
    {acts : List Act} (hr : s.run id acts = .ok s') : ∃ more, s'.Told id (done ++ more) := by
  induction acts generalizing s done with
  | nil =>
    obtain rfl := Except.ok.inj hr
    exact ⟨[], by simpa using h⟩
  | cons a acts ih =>
    cases ha : s.act id a with
    | error e => simp [Sending.run, List.foldlM_cons, ha, bind, Except.bind] at hr
    | ok t =>
      have hrest : t.run id acts = .ok s' := by
        simpa [Sending.run, List.foldlM_cons, ha, bind, Except.bind] using hr
      obtain ⟨more, hmore⟩ := h.act ha
      obtain ⟨later, hlater⟩ := ih hmore hrest
      exact ⟨more ++ later, by rwa [← List.append_assoc]⟩

/-- **A socket is given the packets in order, and every byte of them once.**  Whatever was added,
however often it was tried to write, and whatever the writes found: the packets that were written
come first, in the order in which they were added, then the packet that is being written, then those
that wait.  The socket was given the bytes of the first, and as much of the packet that is being
written as the writer knows of; with the rest of that packet and with those that wait, these are the
bytes of all packets that were added.  What the flushes returned adds up to what was given. -/
theorem run_order {id : ConnectionId} {capacity : Nat} {acts : List Act} {s : Sending}
    (h : (new capacity).run id acts = .ok s) :
    ∃ done, s.told = done.flatMap (Writer.written id) ∧
      s.added = done ++ s.writer.packets ++ s.outbox.waiting ∧
      s.sink.taken = done.flatMap Packet.bytes ++ s.writer.front ∧
      (∀ p offset, s.writer.inFlight = some (p, offset) → s.writer.front.length = offset) ∧
      s.sink.taken ++ s.writer.rest ++ s.outbox.waiting.flatMap Packet.bytes =
        s.added.flatMap Packet.bytes ∧
      s.returned.sum = s.sink.taken.length := by
  obtain ⟨done, hdone⟩ := (told_new id capacity).run h
  rw [List.nil_append] at hdone
  refine ⟨done, hdone.told, hdone.order, hdone.taken, ?_, ?_, hdone.count⟩
  · exact fun p offset hw => Writer.length_front hdone.sound hw
  · calc s.sink.taken ++ s.writer.rest ++ s.outbox.waiting.flatMap Packet.bytes
        = done.flatMap Packet.bytes ++ (s.writer.front ++ s.writer.rest) ++
            s.outbox.waiting.flatMap Packet.bytes := by
          rw [hdone.taken]
          simp only [List.append_assoc]
      _ = (done ++ s.writer.packets ++ s.outbox.waiting).flatMap Packet.bytes := by
          rw [Writer.front_append_rest]
          simp only [List.flatMap_append]
      _ = s.added.flatMap Packet.bytes := by rw [hdone.order]

/-- The first of two packets is cut after two bytes, and a third one is refused. -/
theorem run_order_cut : ∃ s : Sending,
    (new 2).run ⟨7⟩ [.push [1, 2, 3] .binary, .push [4] .text, .push [5] .text,
        .flush [.bytes 2, .interrupted, .blocked]] = .ok s ∧
      s.sink.taken = [1, 2] ∧
      s.sink.taken ++ s.writer.rest ++ s.outbox.waiting.flatMap Packet.bytes = [1, 2, 3, 4] ∧
      s.returned.sum = 2 := by
  have hrun : (new 2).run ⟨7⟩ [.push [1, 2, 3] .binary, .push [4] .text, .push [5] .text,
      .flush [.bytes 2, .interrupted, .blocked]] =
        .ok ⟨⟨[⟨[4], 2, .text⟩], 2, 2, 3, 2⟩, ⟨some (⟨[1, 2, 3], 1, .binary⟩, 2)⟩,
          ⟨[], #[1, 2]⟩, [⟨[1, 2, 3], 1, .binary⟩, ⟨[4], 2, .text⟩], [], [2]⟩ := by
    cbv
  obtain ⟨done, -, -, -, -, hbytes, hsum⟩ := run_order hrun
  exact ⟨_, hrun, rfl, hbytes, hsum⟩

end Sending

end WebSocket
