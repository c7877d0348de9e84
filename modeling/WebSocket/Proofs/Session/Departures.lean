import WebSocket.Proofs.Session.Sending

/-!
# How packets leave a session

A packet leaves a session when all of it was accepted, when writing it fails, or when it is given up
while it is being written.  In the last two cases a part of it may have been accepted before.

## Main definitions

* `Departure` — a packet that has left, and how much of it was accepted.
* `Departure.notices` — what is told of it.
* `Writer.Pass.Departs` — which packets leave in a pass.

## Main results

* `Packet.exists_taken_writeFrom` — what a sink has been given of a packet, however writing it ends.
* `Writer.departs_flush`, `Writer.departs_abort` — **what a sink has been given is what departed
  from the session, and the front of the packet that is being written.**
-/

namespace WebSocket

/-- A packet that has left its session, and how much of it was accepted. -/
structure Departure where
  packet : Packet
  accepted : Nat
  deriving DecidableEq, Repr

namespace Departure

/-- All of the packet was accepted. -/
def isWhole (d : Departure) : Bool := d.packet.bytes.length ≤ d.accepted

/-- The bytes that were accepted. -/
def bytes (d : Departure) : Bytes := d.packet.bytes.take d.accepted

/-- What is told of the packet. -/
def notices (id : ConnectionId) (d : Departure) : List Notice :=
  if d.isWhole then Writer.written id d.packet else Writer.failed id d.packet

variable {p : Packet} {n : Nat}

theorem bytes_of_le (h : p.bytes.length ≤ n) : (Departure.mk p n).bytes = p.bytes :=
  List.take_of_length_le h

theorem notices_of_le (id : ConnectionId) (h : p.bytes.length ≤ n) :
    (Departure.mk p n).notices id = Writer.written id p := by
  rw [notices, if_pos]
  exact decide_eq_true h

theorem notices_of_lt (id : ConnectionId) (h : n < p.bytes.length) :
    (Departure.mk p n).notices id = Writer.failed id p := by
  rw [notices, if_neg]
  exact fun hwhole => Nat.not_le_of_lt h (of_decide_eq_true hwhole)

end Departure

/-- How much of a packet was accepted when writing it has ended. -/
def Delivery.Leaves (p : Packet) (accepted : Nat) : Delivery → Prop
  | .done => accepted = p.bytes.length
  | .blocked offset => accepted = offset ∧ offset < p.bytes.length
  | .failed _ => accepted < p.bytes.length

/-- However writing a packet ends, a sink that was given the first bytes of it has been given more
of them, and nothing else. -/
theorem Packet.exists_taken_writeFrom {p : Packet} {before : Bytes} {offset : Nat} {sink : Sink}
    (htaken : sink.taken = before ++ p.bytes.take offset) (ho : offset ≤ p.bytes.length) :
    ∃ accepted, (p.writeFrom offset sink).1.Leaves p accepted ∧
      (p.writeFrom offset sink).2.taken = before ++ p.bytes.take accepted := by
  fun_induction Packet.writeFrom p offset sink with
  | case1 offset sink hlt t h =>
    -- A write that accepts nothing fails.
    have hnone := Sink.taken_write h
    rw [List.take_zero, List.append_nil] at hnone
    exact ⟨offset, hlt, hnone.trans htaken⟩
  | case2 offset sink hlt n t h ih =>
    have hle := Sink.write_le h
    rw [List.length_drop] at hle
    have hmore : t.taken = before ++ p.bytes.take (offset + (n + 1)) := by
      rw [Sink.taken_write h, htaken, List.append_assoc, List.take_add]
    exact ih hmore (by omega)
  | case3 offset sink hlt t h =>
    exact ⟨offset, ⟨rfl, hlt⟩, (Sink.taken_write_of_ne h (by simp)).trans htaken⟩
  | case4 offset sink hlt t h ih => exact ih ((Sink.taken_write_of_ne h (by simp)).trans htaken) ho
  | case5 offset sink hlt detail t h =>
    exact ⟨offset, hlt, (Sink.taken_write_of_ne h (by simp)).trans htaken⟩
  | case6 offset sink hge =>
    obtain rfl : p.bytes.length = offset := by omega
    exact ⟨_, rfl, htaken⟩

namespace Writer

/-- Something is still to be written of the packet that is being written. -/
def Unfinished (w : Writer) : Prop :=
  ∀ p offset, w.inFlight = some (p, offset) → offset < p.bytes.length

theorem unfinished_idle : idle.Unfinished := by
  intro p offset h
  simp [idle] at h

/-- Which packets leave in a pass, on a sink that was given `before`. -/
structure Pass.Departs {α : Type} (pass : Pass α) (id : ConnectionId) (before : Bytes)
    (departures : List Departure) : Prop where
  told : pass.notices = departures.flatMap (Departure.notices id)
  /-- The sink was given what was accepted of them, and then the first bytes of the packet that is
  being written. -/
  taken : pass.sink.taken = before ++ departures.flatMap Departure.bytes ++ pass.writer.front
  unfinished : pass.writer.Unfinished

variable {id : ConnectionId} {w : Writer} {o : Outbox} {sink : Sink} {before : Bytes}

/-- Packets leave one after the other, up to the one that cannot be written now, or at all.  The
induction is on those that wait. -/
theorem departs_flushFrom {p : Packet} {offset total : Nat} {waiting : List Packet}
    (htaken : sink.taken = before ++ p.bytes.take offset) (ho : offset ≤ p.bytes.length) :
    ∃ departures, (flushFrom id o sink p offset total waiting).Departs id before departures := by
  fun_induction flushFrom id o sink p offset total waiting generalizing before with
  | case1 waiting o sink p offset total reached t h =>
    obtain ⟨accepted, hleaves, hgiven⟩ := Packet.exists_taken_writeFrom htaken ho
    rw [h] at hleaves hgiven
    obtain ⟨rfl, hlt⟩ := hleaves
    refine ⟨[], rfl, ?_, ?_⟩
    · rw [List.flatMap_nil, List.append_nil]
      exact hgiven
    · intro q offset' hq
      obtain ⟨rfl, rfl⟩ := Prod.mk.inj (Option.some.inj hq)
      exact hlt
  | case2 waiting o sink p offset total e t h =>
    obtain ⟨accepted, hlt, hgiven⟩ := Packet.exists_taken_writeFrom htaken ho
    rw [h] at hlt hgiven
    refine ⟨[⟨p, accepted⟩], ?_, ?_, unfinished_idle⟩
    · rw [List.flatMap_singleton, Departure.notices_of_lt id hlt]
    · rw [List.flatMap_singleton]
      exact hgiven.trans (List.append_nil _).symm
  | case3 o sink p offset total t h =>
    obtain ⟨accepted, hwhole, hgiven⟩ := Packet.exists_taken_writeFrom htaken ho
    rw [h] at hwhole hgiven
    have hle := Nat.le_of_eq hwhole.symm
    refine ⟨[⟨p, accepted⟩], ?_, ?_, unfinished_idle⟩
    · rw [List.flatMap_singleton, Departure.notices_of_le id hle]
    · rw [List.flatMap_singleton]
      exact hgiven.trans (List.append_nil _).symm
  | case4 o sink p offset total t h total' next waiting pass =>
    rename_i ih
    obtain ⟨accepted, hwhole, hgiven⟩ := Packet.exists_taken_writeFrom htaken ho
    rw [h] at hwhole hgiven
    have hle := Nat.le_of_eq hwhole.symm
    -- The next packet is written behind this one.
    have hnext : t.taken = before ++ p.bytes.take accepted ++ next.bytes.take 0 := by
      rw [List.take_zero, List.append_nil]
      exact hgiven
    obtain ⟨departures, htold, hall, hunfinished⟩ := ih hnext (Nat.zero_le _)
    refine ⟨⟨p, accepted⟩ :: departures, ?_, ?_, hunfinished⟩
    · show written id p ++ pass.notices = _
      rw [List.flatMap_cons, Departure.notices_of_le id hle, htold]
    · show pass.sink.taken = _
      rw [hall, List.flatMap_cons, ← List.append_assoc, Departure.bytes]

/-- **What flushing gives to a sink**, whether it fails or not: what is accepted of the packets that
leave, and the front of the packet that is being written. -/
theorem departs_flush (hw : w.Unfinished) (htaken : sink.taken = before ++ w.front) :
    ∃ departures, (w.flush id o sink).Departs id before departures := by
  obtain ⟨inFlight⟩ := w
  cases inFlight with
  | some inFlight =>
    obtain ⟨p, offset⟩ := inFlight
    exact departs_flushFrom htaken (Nat.le_of_lt (hw p offset rfl))
  | none =>
    unfold flush
    cases o.waiting with
    | nil =>
      refine ⟨[], rfl, ?_, unfinished_idle⟩
      rw [List.flatMap_nil, List.append_nil]
      exact htaken
    | cons p waiting => exact departs_flushFrom htaken (Nat.zero_le _)

/-- When everything is given up, the packet that is being written leaves, and the sink is given
nothing. -/
theorem departs_abort (hw : w.Unfinished) (htaken : sink.taken = before ++ w.front) :
    ∃ departures, (w.abort id o sink).Departs id before departures ∧
      (w.abort id o sink).writer = idle ∧ (w.abort id o sink).sink = sink := by
  obtain ⟨inFlight⟩ := w
  cases inFlight with
  | some inFlight =>
    obtain ⟨p, offset⟩ := inFlight
    refine ⟨[⟨p, offset⟩], ⟨?_, ?_, unfinished_idle⟩, rfl, rfl⟩
    · rw [List.flatMap_singleton, Departure.notices_of_lt id (hw p offset rfl)]
      rfl
    · rw [List.flatMap_singleton]
      exact htaken.trans (List.append_nil _).symm
  | none =>
    refine ⟨[], ⟨rfl, ?_, unfinished_idle⟩, rfl, rfl⟩
    rw [List.flatMap_nil, List.append_nil]
    exact htaken

end Writer

end WebSocket
