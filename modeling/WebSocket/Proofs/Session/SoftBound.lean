import Mathlib.Data.List.Perm.Basic
import WebSocket.Session.Contention

/-!
# The soft bound of a queue

Whoever pushes looks at the count first and adds to it later, and in between others may have looked
as well.  So the count can go over the capacity.  It never does by as many as there are pushes in
progress, for the last of them that looked saw room: with those that have seen room and not counted
yet, the count is within this bound already.  What is counted is in the queue, in the hands of the
writer, or about to be added, so nothing is ever taken off a count of zero.

## Main definitions

* `Outbox.Contention.admitted` — the pushes that have seen room and not counted their packets.
* `Outbox.Contention.Change` — what a step can do.
* `Outbox.Contention.Sound` — what every step keeps.

## Main results

* `Outbox.Contention.change_of_step` — a step does nothing else.
* `Outbox.Contention.Reachable.sound` — the invariant holds in every order of the steps.
* `Outbox.Contention.soft_bound` — **the count is right, and stays within the soft bound.**
-/

namespace WebSocket

namespace Outbox

/-- The push has seen room and has not counted its packet. -/
def Push.isAdmitted : Push → Bool
  | .admitted .. => true
  | .entered .. | .counted .. | .numbered _ => false

namespace Contention

/-- How many pushes have seen room and not counted their packets. -/
def admitted (c : Contention) : Nat := c.pushes.countP Push.isAdmitted

/-! ### What a step can do -/

/-- What a push does in one step: the stage that it leaves, the one that it comes to, and what
becomes of the queue and of the packets that were added.  It leaves none where it begins, and comes
to none where it ends. -/
inductive Stage (c : Contention) : List Push → List Push → Outbox → List Packet → Prop
  | enters {bytes : Bytes} {kind : MessageKind} :
      Stage c [] [.entered bytes kind] c.outbox c.accepted
  /-- It sees no room. -/
  | refused {bytes : Bytes} {kind : MessageKind} : c.outbox.capacity ≤ c.outbox.pending →
      Stage c [.entered bytes kind] [] c.outbox c.accepted
  /-- It sees room. -/
  | admitted {bytes : Bytes} {kind : MessageKind} : c.outbox.pending < c.outbox.capacity →
      Stage c [.entered bytes kind] [.admitted bytes kind] c.outbox c.accepted
  | counts {bytes : Bytes} {kind : MessageKind} :
      Stage c [.admitted bytes kind] [.counted bytes kind] c.outbox.count c.accepted
  | takesNumber {bytes : Bytes} {kind : MessageKind} :
      Stage c [.counted bytes kind] [.numbered ⟨bytes, c.outbox.takeNumber.1, kind⟩]
        c.outbox.takeNumber.2 c.accepted
  | appends {p : Packet} :
      Stage c [.numbered p] [] (c.outbox.append p) (c.accepted ++ [p])

/-- What a step can do. -/
inductive Change (c : Contention) : Move → Contention → Prop
  /-- A push goes from one stage to another, and the `rest` of the pushes stay where they are. -/
  | pushed {m : Move} {before after pushes rest : List Push} {outbox : Outbox}
      {accepted : List Packet} : m.isWriter = false → Stage c before after outbox accepted →
      c.pushes.Perm (before ++ rest) → pushes.Perm (after ++ rest) →
      Change c m { c with outbox, pushes, accepted }
  /-- The writer takes a packet to write it. -/
  | popped {p : Packet} {waiting : List Packet} :
      c.inFlight = none → c.outbox.waiting = p :: waiting →
      Change c .pop { c with outbox := c.outbox.keep waiting, inFlight := some (p, 0) }
  /-- The writer gets on with its packet. -/
  | wrote {p : Packet} {n offset : Nat} : c.inFlight = some (p, offset) →
      Change c (.write n) { c with inFlight := some (p, min (offset + n) p.bytes.length) }
  /-- The writer is done with its packet. -/
  | completed {p : Packet} {offset : Nat} : c.inFlight = some (p, offset) →
      Change c .complete { c with outbox := c.outbox.complete, inFlight := none }
  /-- The writer takes a packet to give it up. -/
  | discarded {p : Packet} {waiting : List Packet} :
      c.givenUp = none → c.outbox.waiting = p :: waiting →
      Change c .discard { c with outbox := c.outbox.keep waiting, givenUp := some p }
  /-- The writer has given up the packet. -/
  | forgot {p : Packet} : c.givenUp = some p →
      Change c .forget { c with outbox := c.outbox.complete, givenUp := none }

variable {c d : Contention} {m : Move} {capacity k : Nat}

theorem change_of_pushStep {place : Nat} {p : Push} (hp : c.pushes[place]? = some p)
    (h : c.pushStep m place p = some d) : Change c m d := by
  obtain ⟨hplace, rfl⟩ := List.getElem?_eq_some_iff.1 hp
  -- The rest are the pushes without the one at the place, in whichever order they are told.
  have hbefore := (List.getElem_cons_eraseIdx_perm hplace).symm
  have hafter (q : Push) := List.set_perm_cons_eraseIdx hplace q
  generalize c.pushes[place] = p at *
  unfold pushStep at h
  split at h
  · split at h
    · next hroom =>
      obtain rfl := Option.some.inj h
      exact .pushed rfl (.admitted (of_decide_eq_true hroom)) hbefore (hafter _)
    · next hroom =>
      obtain rfl := Option.some.inj h
      have hfull : ¬ c.outbox.pending < c.outbox.capacity := fun hlt => hroom (decide_eq_true hlt)
      exact .pushed rfl (.refused (Nat.le_of_not_lt hfull)) hbefore (.refl _)
  · obtain rfl := Option.some.inj h
    exact .pushed rfl .counts hbefore (hafter _)
  · obtain rfl := Option.some.inj h
    exact .pushed rfl .takesNumber hbefore (hafter _)
  · obtain rfl := Option.some.inj h
    exact .pushed rfl .appends hbefore (.refl _)
  · simp at h

theorem change_of_writerStep (h : c.writerStep m = some d) : Change c m d := by
  unfold writerStep at h
  split at h
  · next hgivenUp hinFlight =>
    obtain ⟨⟨p, rest⟩, hpop, rfl⟩ := Option.map_eq_some_iff.1 h
    obtain ⟨waiting, hwaiting, rfl⟩ := pop?_eq_some hpop
    exact .popped hinFlight hwaiting
  · next hgivenUp hinFlight =>
    obtain rfl := Option.some.inj h
    exact .wrote hinFlight
  · next hgivenUp hinFlight =>
    obtain rfl := Option.some.inj h
    exact .completed hinFlight
  · next hgivenUp =>
    obtain ⟨⟨p, rest⟩, hpop, rfl⟩ := Option.map_eq_some_iff.1 h
    obtain ⟨waiting, hwaiting, rfl⟩ := pop?_eq_some hpop
    exact .discarded hgivenUp hwaiting
  · next hgivenUp =>
    obtain rfl := Option.some.inj h
    exact .forgot hgivenUp
  · simp at h

/-- **A step does nothing else.** -/
theorem change_of_step (h : c.step m = some d) : Change c m d := by
  cases m with
  | enter bytes kind =>
    obtain rfl := Option.some.inj h
    exact .pushed rfl .enters (.refl _) (List.perm_append_singleton ..)
  | check | count | number | append =>
    obtain ⟨p, hp, h⟩ := Option.bind_eq_some_iff.1 h
    exact change_of_pushStep hp h
  | pop | write | complete | discard | forget => exact change_of_writerStep h

/-! ### What every step keeps -/

/-- What every order of the steps keeps, while at most `k` pushes are in progress. -/
structure Sound (capacity k : Nat) (c : Contention) : Prop where
  fixed : c.outbox.capacity = capacity
  /-- What is counted is in the queue, in the hands of the writer, or about to be added. -/
  count : c.outbox.pending = c.outbox.waiting.length + c.inHand.length + c.counted
  /-- The pushes that have seen room are within the bound already. -/
  bound : c.outbox.pending + c.admitted ≤ capacity + k - 1
  /-- Only where something may be pending has any push seen room. -/
  opened : 0 < c.admitted + c.counted + c.accepted.length → 0 < capacity

theorem sound_new (capacity k : Nat) : Sound capacity k (new capacity) where
  fixed := rfl
  count := rfl
  bound := Nat.zero_le _
  opened := fun h => absurd h (Nat.lt_irrefl 0)

section

variable {before after pushes rest : List Push} {outbox : Outbox} {accepted : List Packet}

theorem Stage.fixed (h : Stage c before after outbox accepted) :
    outbox.capacity = c.outbox.capacity := by
  cases h <;> rfl

/-- What is counted and is not in the queue is in the pushes. -/
theorem Stage.count (h : Stage c before after outbox accepted) :
    outbox.pending + c.outbox.waiting.length + before.countP Push.isCounted =
      c.outbox.pending + outbox.waiting.length + after.countP Push.isCounted := by
  cases h with
  | enters | refused | admitted | takesNumber => rfl
  | counts =>
    show c.outbox.pending + 1 + c.outbox.waiting.length + 0 =
      c.outbox.pending + c.outbox.waiting.length + 1
    omega
  | appends =>
    rw [waiting_append, List.length_append]
    show c.outbox.pending + c.outbox.waiting.length + 1 =
      c.outbox.pending + (c.outbox.waiting.length + 1) + 0
    omega

/-- What is counted and the pushes that have seen room do not grow together, unless one more sees
room: and then the count is below the capacity. -/
theorem Stage.room (h : Stage c before after outbox accepted) :
    outbox.pending + after.countP Push.isAdmitted =
        c.outbox.pending + before.countP Push.isAdmitted ∨
      outbox.pending < c.outbox.capacity := by
  cases h with
  | enters | refused | counts | takesNumber | appends => exact .inl rfl
  | admitted hroom => exact .inr hroom

/-- Only a push that has seen room adds a packet. -/
theorem Stage.opened (h : Stage c before after outbox accepted)
    (hafter : 0 < after.countP Push.isAdmitted + after.countP Push.isCounted + accepted.length) :
    0 < before.countP Push.isAdmitted + before.countP Push.isCounted + c.accepted.length ∨
      0 < c.outbox.capacity := by
  cases h with
  | enters | refused | takesNumber => exact .inl hafter
  | admitted hroom => exact .inr (Nat.zero_lt_of_lt hroom)
  | counts | appends => exact .inl (Nat.lt_of_lt_of_le Nat.one_pos (Nat.le_add_right 1 _))

/-- A step of a push keeps it.  A push that sees room is one of those in progress, and what it saw
is below the capacity; so the bound holds whatever the count was allowed to be before. -/
theorem Sound.stage (hc : Sound capacity k c) (h : Stage c before after outbox accepted)
    (hbefore : c.pushes.Perm (before ++ rest)) (hafter : pushes.Perm (after ++ rest))
    (hk : pushes.length ≤ k) : Sound capacity k { c with outbox, pushes, accepted } := by
  have hold (isIn : Push → Bool) :
      c.pushes.countP isIn = before.countP isIn + rest.countP isIn := by
    rw [hbefore.countP_eq, List.countP_append]
  have hnew (isIn : Push → Bool) : pushes.countP isIn = after.countP isIn + rest.countP isIn := by
    rw [hafter.countP_eq, List.countP_append]
  obtain ⟨hfixed, hcount, hbound, hopened⟩ := hc
  rw [counted, hold] at hcount
  rw [admitted, hold] at hbound
  rw [admitted, counted, hold, hold] at hopened
  refine ⟨h.fixed.trans hfixed, ?_, ?_, fun hopen => ?_⟩
  · have hstage := h.count
    show outbox.pending = outbox.waiting.length + c.inHand.length + pushes.countP Push.isCounted
    rw [hnew]
    omega
  · show outbox.pending + pushes.countP Push.isAdmitted ≤ capacity + k - 1
    obtain hsame | hroom := h.room
    · rw [hnew]
      omega
    · -- One more has seen room: all that have are in progress, and the count is below the capacity.
      have hmost : pushes.countP Push.isAdmitted ≤ k := Nat.le_trans List.countP_le_length hk
      rw [hfixed] at hroom
      omega
  · change 0 < pushes.countP Push.isAdmitted + pushes.countP Push.isCounted + accepted.length
      at hopen
    rw [hnew, hnew] at hopen
    by_cases hmoving : 0 < rest.countP Push.isAdmitted + rest.countP Push.isCounted
    · exact hopened (by omega)
    · -- None of the others has seen room, so it was this push, now or earlier.
      rcases h.opened (by omega) with hearlier | hroom
      · exact hopened (by omega)
      · rwa [hfixed] at hroom

end

/-- So does a step of the writer that takes off the count what leaves its hands. -/
theorem Sound.writer (hc : Sound capacity k c) {outbox : Outbox}
    {inFlight : Option (Packet × Nat)} {givenUp : Option Packet}
    (hfixed : outbox.capacity = c.outbox.capacity) (hle : outbox.pending ≤ c.outbox.pending)
    (h : outbox.pending + (c.outbox.waiting.length + c.inHand.length) = c.outbox.pending +
      (outbox.waiting.length + ({ c with outbox, inFlight, givenUp } : Contention).inHand.length)) :
    Sound capacity k { c with outbox, inFlight, givenUp } := by
  refine ⟨hfixed.trans hc.fixed, ?_, ?_, hc.opened⟩
  · have hcount := hc.count
    generalize ({ c with outbox, inFlight, givenUp } : Contention).inHand = inHand at h ⊢
    show outbox.pending = outbox.waiting.length + inHand.length + c.counted
    omega
  · exact Nat.le_trans (Nat.add_le_add_right hle _) hc.bound

theorem length_inHand (c : Contention) :
    c.inHand.length = c.inFlight.toList.length + c.givenUp.toList.length := by
  rw [inHand, List.length_append]
  cases c.inFlight <;> rfl

/-- **Every step keeps it.** -/
theorem Sound.change (hc : Sound capacity k c) (h : Change c m d) (hk : d.pushes.length ≤ k) :
    Sound capacity k d := by
  have hcount := hc.count
  rw [length_inHand] at hcount
  cases h with
  | pushed hm hstage hbefore hafter => exact hc.stage hstage hbefore hafter hk
  | popped hinFlight hwaiting =>
    -- The packet goes from the queue into the hands of the writer.
    refine hc.writer rfl (Nat.le_refl _) ?_
    simp only [length_inHand, hinFlight, hwaiting, waiting_keep, pending_keep, List.length_cons,
      Option.toList_none, Option.toList_some, List.length_nil]
    omega
  | wrote hinFlight =>
    refine hc.writer rfl (Nat.le_refl _) ?_
    simp only [length_inHand, hinFlight, Option.toList_some, List.length_singleton]
  | completed hinFlight =>
    -- It leaves them when it is taken off the count.
    refine hc.writer rfl (Nat.sub_le ..) ?_
    simp only [length_inHand, hinFlight, pending_complete, waiting_complete, Option.toList_none,
      Option.toList_some, List.length_singleton, List.length_nil] at hcount ⊢
    omega
  | discarded hgivenUp hwaiting =>
    refine hc.writer rfl (Nat.le_refl _) ?_
    simp only [length_inHand, hgivenUp, hwaiting, waiting_keep, pending_keep, List.length_cons,
      Option.toList_none, Option.toList_some, List.length_nil]
    omega
  | forgot hgivenUp =>
    refine hc.writer rfl (Nat.sub_le ..) ?_
    simp only [length_inHand, hgivenUp, pending_complete, waiting_complete, Option.toList_none,
      Option.toList_some, List.length_singleton, List.length_nil] at hcount ⊢
    omega

/-- **The invariant holds in every order of the steps.**  The induction is on the steps. -/
theorem Reachable.sound (h : Reachable capacity k c) : Sound capacity k c := by
  induction h with
  | start => exact sound_new capacity k
  | next m _ hstep hk ih => exact ih.change (change_of_step hstep) hk

/-- What is taken off the count was on it. -/
theorem Sound.pending_of_step (hc : Sound capacity k c) (hm : m = .complete ∨ m = .forget)
    (hstep : c.step m = some d) :
    1 ≤ c.outbox.pending ∧ d.outbox.pending = c.outbox.pending - 1 := by
  -- The packet that goes is in the hands of the writer, and so it is counted.
  have hheld : 0 < c.inHand.length ∧ d.outbox.pending = c.outbox.pending - 1 := by
    rcases hm with rfl | rfl
    · cases change_of_step hstep with
      | pushed hm => simp [Move.isWriter] at hm
      | completed hinFlight => exact ⟨by simp [inHand, hinFlight], rfl⟩
    · cases change_of_step hstep with
      | pushed hm => simp [Move.isWriter] at hm
      | forgot hgivenUp => exact ⟨by simp [inHand, hgivenUp], rfl⟩
  have hcount := hc.count
  exact ⟨by omega, hheld.2⟩

/-- **The count is right, and stays within the soft bound.**  Whatever the order of the steps, while
at most `k` pushes are in progress at once: what is pending is what waits, what the writer took out
and has not taken off the count, and what the pushes have counted and not added yet.  The writer
never takes anything off a count of zero.  The count goes over the capacity by less than `k`, and a
queue without capacity takes no packet. -/
theorem soft_bound (h : Reachable capacity k c) :
    c.outbox.pending = c.outbox.waiting.length + c.inHand.length + c.counted ∧
      (∀ m d, m = .complete ∨ m = .forget → c.step m = some d →
        1 ≤ c.outbox.pending ∧ d.outbox.pending = c.outbox.pending - 1) ∧
      c.outbox.pending ≤ capacity + k - 1 ∧
      (capacity = 0 → c.accepted = []) := by
  have hsound := h.sound
  refine ⟨hsound.count, fun m d hm hstep => hsound.pending_of_step hm hstep, ?_, ?_⟩
  · exact Nat.le_trans (Nat.le_add_right ..) hsound.bound
  · rintro rfl
    by_contra hne
    have hsome : 0 < c.accepted.length := List.length_pos_iff.2 hne
    exact absurd (hsound.opened (Nat.lt_of_lt_of_le hsome (Nat.le_add_left ..))) (Nat.lt_irrefl 0)

/-- Two pushes both see the only place, and the writer takes one of the packets while the other is
not yet in the queue: the count is one above the capacity, and no more. -/
theorem soft_bound_overshot : ∃ c d : Contention, Reachable 1 2 c ∧ c.step .complete = some d ∧
    c.outbox.pending = 2 ∧ c.outbox.waiting.length + c.inHand.length + c.counted = 2 ∧
    d.outbox.pending = 1 ∧ c.outbox.pending ≤ 1 + 2 - 1 := by
  have hentered : Reachable 1 2 _ := .next (.enter [1] .text) .start rfl (by decide)
  have hboth : Reachable 1 2 _ := .next (.enter [2] .text) hentered rfl (by decide)
  have hroom : Reachable 1 2 _ := .next (.check 0) hboth rfl (by decide)
  have hroom' : Reachable 1 2 _ := .next (.check 1) hroom rfl (by decide)
  have hone : Reachable 1 2 _ := .next (.count 1) hroom' rfl (by decide)
  have htwo : Reachable 1 2 _ := .next (.count 0) hone rfl (by decide)
  have hnumbered : Reachable 1 2 _ := .next (.number 0) htwo rfl (by decide)
  have hadded : Reachable 1 2 _ := .next (.append 0) hnumbered rfl (by decide)
  have hreachable : Reachable 1 2 _ := .next .pop hadded rfl (by decide)
  obtain ⟨hcount, htaken, hbound, -⟩ := soft_bound hreachable
  refine ⟨_, _, hreachable, rfl, rfl, hcount.symm, ?_, hbound⟩
  exact (htaken .complete _ (.inl rfl) rfl).2

end Contention

end Outbox

end WebSocket
