import Mathlib
import WebSocket.Proofs.Session.Pending

/-!
# The books of a queue

A queue counts what is pending in one place, keeps the packets that wait in another, and the packet
that is being written in a third; and a count is brought down so that it would stay at zero where it
should not have been brought down at all.  So a count that is wrong would never be seen: the queue
would only refuse too much, or too little.  Here packets are added, written to whatever the writes
find, and given up, one thing after the other in any order.  The count is right throughout, and
every packet that was added is in the books: it was told to be sent, or to have failed, or was
dropped from the queue, or is pending.

## Main definitions

* `Outbox.complete?`, `Writer.flush?`, `Writer.abort?` — the same passes with a count that cannot be
  brought below zero.
* `Notice.sent`, `Notice.failed` — how many packets were told to be sent, and to have failed.
* `Writer.Pass.Books` — what a pass does to the books.
* `Traffic` — a queue and its writer, with what happened to them.
* `Traffic.Act`, `Traffic.act`, `Traffic.run` — what may happen, in any order.
* `Traffic.Balanced` — the invariant of such a run.

## Main results

* `Writer.flush?_eq`, `Writer.abort?_eq` — where the count is right, it never meets zero.
* `Writer.books_flush`, `Writer.books_abort` — what a pass puts into the books.
* `Traffic.Balanced.act` — what one act keeps.
* `Traffic.isGreatest_peak` — the peak is the largest count that was reached.
* `Traffic.run_accounts` — **the books of a queue are right after every run.**
-/

namespace WebSocket

/-! ### Passes with a count that is checked -/

/-- One packet is no longer pending, if any was. -/
def Outbox.complete? (o : Outbox) : Option Outbox := if o.pending = 0 then none else some o.complete

theorem Outbox.complete?_eq {o : Outbox} (h : 0 < o.pending) : o.complete? = some o.complete :=
  if_neg (Nat.ne_of_gt h)

theorem Outbox.pending_complete_of_eq {o : Outbox} {n : Nat} (h : o.pending = n + 1) :
    o.complete.pending = n :=
  congrArg (· - 1) h

/-- The packets `waiting` taken out and dropped one by one, and their number. -/
def Outbox.clearFrom? (o : Outbox) : List Packet → Option (Nat × Outbox)
  | [] => some (0, o.keep [])
  | _ :: waiting => do
    let o ← o.complete?
    let (dropped, o) ← o.clearFrom? waiting
    return (dropped + 1, o)

namespace Writer

/-- `flushFrom` with a count that is checked. -/
def flushFrom? (id : ConnectionId) (o : Outbox) (sink : Sink) (p : Packet) (offset total : Nat)
    (waiting : List Packet) : Option (Pass (Except SessionError Nat)) :=
  match p.writeFrom offset sink with
  | (.blocked reached, sink) =>
    some ⟨⟨some (p, reached)⟩, o.keep waiting, sink, [], .ok (total + (reached - offset))⟩
  | (.failed e, sink) => do
    let o ← o.complete?
    return ⟨idle, o.keep waiting, sink, failed id p, .error e⟩
  | (.done, sink) => do
    let o ← o.complete?
    let total := total + (p.bytes.length - offset)
    match waiting with
    | [] => return ⟨idle, o.keep [], sink, written id p, .ok total⟩
    | next :: waiting =>
      let pass ← flushFrom? id o sink next 0 total waiting
      return { pass with notices := written id p ++ pass.notices }

/-- `flush` with a count that is checked. -/
def flush? (id : ConnectionId) (w : Writer) (o : Outbox) (sink : Sink) :
    Option (Pass (Except SessionError Nat)) :=
  match w.inFlight, o.waiting with
  | some (p, offset), waiting => flushFrom? id o sink p offset 0 waiting
  | none, p :: waiting => flushFrom? id o sink p 0 0 waiting
  | none, [] => some ⟨idle, o, sink, [], .ok 0⟩

/-- `abort` with a count that is checked, down to each packet that is dropped. -/
def abort? (id : ConnectionId) (w : Writer) (o : Outbox) (sink : Sink) : Option (Pass Nat) := do
  let (dropped, o) ← o.clearFrom? o.waiting
  match w.inFlight with
  | some (p, _) =>
    let o ← o.complete?
    return ⟨idle, o, sink, failed id p, dropped + 1⟩
  | none => return ⟨idle, o, sink, [], dropped⟩

end Writer

/-- Dropping the packets one by one drops all of them at once, as long as they are counted.  The
induction is on the packets. -/
theorem Outbox.clearFrom?_eq {o : Outbox} {waiting : List Packet} (h : waiting.length ≤ o.pending) :
    o.clearFrom? waiting = some (waiting.length,
      { o with latest := [], pending := o.pending - waiting.length }) := by
  induction waiting generalizing o with
  | nil => rfl
  | cons p waiting ih =>
    rw [List.length_cons] at h
    have hcomplete := Outbox.complete?_eq (Nat.zero_lt_of_lt h)
    have hrest := ih (o := o.complete) (Nat.le_sub_one_of_lt h)
    have hpending : o.complete.pending - waiting.length = o.pending - (waiting.length + 1) := by
      show o.pending - 1 - waiting.length = _
      omega
    rw [hpending] at hrest
    simp only [Outbox.clearFrom?, hcomplete, Option.bind_eq_bind, Option.bind_some, hrest]
    rfl

/-- What waits can be dropped one by one where it is counted. -/
theorem Outbox.clearFrom?_waiting {o : Outbox} (h : o.waiting.length ≤ o.pending) :
    o.clearFrom? o.waiting = some o.clear := by
  rw [Outbox.clearFrom?_eq h, Outbox.waiting, List.length_reverse]
  rfl

namespace Writer

variable {id : ConnectionId} {w : Writer} {o : Outbox} {sink : Sink}

/-- Each packet that is taken off the count was on it.  The induction is on those that wait. -/
theorem flushFrom?_eq {p : Packet} {offset total : Nat} {waiting : List Packet}
    (h : o.pending = waiting.length + 1) :
    flushFrom? id o sink p offset total waiting =
      some (flushFrom id o sink p offset total waiting) := by
  fun_induction flushFrom id o sink p offset total waiting with
  | case1 waiting o sink p offset total reached t hwrite =>
    unfold flushFrom?
    rw [hwrite]
  | case2 waiting o sink p offset total e t hwrite =>
    have hcomplete : o.complete? = some o.complete := Outbox.complete?_eq (by omega)
    unfold flushFrom?
    rw [hwrite]
    simp only [hcomplete, Option.bind_eq_bind, Option.bind_some]
    rfl
  | case3 o sink p offset total t hwrite =>
    have hcomplete : o.complete? = some o.complete := Outbox.complete?_eq (by omega)
    unfold flushFrom?
    rw [hwrite]
    simp only [hcomplete, Option.bind_eq_bind, Option.bind_some]
    rfl
  | case4 o sink p offset total t hwrite total' next waiting pass ih =>
    have hcomplete : o.complete? = some o.complete := Outbox.complete?_eq (by omega)
    have hnext : o.complete.pending = waiting.length + 1 := Outbox.pending_complete_of_eq h
    unfold flushFrom?
    rw [hwrite]
    simp only [hcomplete, Option.bind_eq_bind, Option.bind_some]
    exact (congrArg (Option.bind · _) (ih hnext)).trans rfl

/-- A pass has nothing to do, or writes a packet and those that wait behind it, all of them
counted. -/
theorem flush_cases (id : ConnectionId) (sink : Sink) (h : w.Counts o) :
    (w.flush id o sink = ⟨idle, o, sink, [], .ok 0⟩ ∧
        w.flush? id o sink = some ⟨idle, o, sink, [], .ok 0⟩) ∨
      ∃ p offset waiting, o.pending = waiting.length + 1 ∧
        w.flush id o sink = flushFrom id o sink p offset 0 waiting ∧
        w.flush? id o sink = flushFrom? id o sink p offset 0 waiting := by
  obtain ⟨inFlight⟩ := w
  cases inFlight with
  | some inFlight => exact .inr ⟨inFlight.1, inFlight.2, o.waiting, h, rfl, rfl⟩
  | none =>
    have hcount : o.pending = o.waiting.length := h
    unfold flush flush?
    cases hwaiting : o.waiting with
    | nil => exact .inl ⟨rfl, rfl⟩
    | cons p waiting =>
      exact .inr ⟨p, 0, waiting, by rw [hcount, hwaiting, List.length_cons], rfl, rfl⟩

/-- Flushing never takes anything off a count of zero. -/
theorem flush?_eq (h : w.Counts o) : w.flush? id o sink = some (w.flush id o sink) := by
  rcases flush_cases id sink h with
    ⟨hflush, hchecked⟩ | ⟨p, offset, waiting, hcount, hflush, hchecked⟩
  · rw [hchecked, hflush]
  · rw [hchecked, hflush, flushFrom?_eq hcount]

/-- Neither does aborting. -/
theorem abort?_eq (h : w.Counts o) : w.abort? id o sink = some (w.abort id o sink) := by
  obtain ⟨inFlight⟩ := w
  cases inFlight with
  | some inFlight =>
    have hcount : o.pending = o.waiting.length + 1 := h
    have hlength : o.waiting.length = o.clear.1 := List.length_reverse
    -- The packet that is being written is still counted when those that wait are gone.
    have hleft : 0 < o.clear.2.pending := by
      show 0 < o.pending - o.clear.1
      omega
    simp only [abort?, Outbox.clearFrom?_waiting (by omega : o.waiting.length ≤ o.pending),
      Option.bind_eq_bind, Option.bind_some]
    exact (congrArg (Option.bind · _) (Outbox.complete?_eq hleft)).trans rfl
  | none =>
    have hcount : o.pending = o.waiting.length := h
    simp only [abort?, Outbox.clearFrom?_waiting (Nat.le_of_eq hcount.symm), Option.bind_eq_bind,
      Option.bind_some]
    rfl

end Writer

/-! ### What goes into the books -/

section

variable {o : Outbox} (bytes : Bytes) (kind : MessageKind)

/-- Where there is room, a packet is added. -/
theorem Outbox.push_of_lt (h : o.pending < o.capacity) :
    o.push bytes kind =
      .ok (o.nextSeq, o.count.takeNumber.2.append ⟨bytes, o.nextSeq, kind⟩) :=
  if_pos (decide_eq_true h)

/-- Where there is none, it is refused. -/
theorem Outbox.push_of_le (h : o.capacity ≤ o.pending) :
    o.push bytes kind = .error (.outboxFull o.capacity) :=
  if_neg fun hroom => Nat.not_lt_of_le h (of_decide_eq_true hroom)

end

/-- How far notices move the counters of all kinds of messages. -/
def Notice.totalOverKinds (counter : MessageKind → Counter) (told : List Notice) : Nat :=
  (MessageKind.all.map fun kind => total (counter kind) told).sum

theorem Notice.totalOverKinds_append (counter : MessageKind → Counter) (told more : List Notice) :
    totalOverKinds counter (told ++ more) =
      totalOverKinds counter told + totalOverKinds counter more := by
  simp only [totalOverKinds, total_append, List.sum_map_add]

/-- How many packets were told to be sent. -/
def Notice.sent (told : List Notice) : Nat := totalOverKinds .packetsSent told

/-- How many packets were told to have failed. -/
def Notice.failed (told : List Notice) : Nat := totalOverKinds .packetsFailed told

@[simp] theorem Notice.sent_append (told more : List Notice) :
    sent (told ++ more) = sent told + sent more :=
  totalOverKinds_append ..

@[simp] theorem Notice.failed_append (told more : List Notice) :
    failed (told ++ more) = failed told + failed more :=
  totalOverKinds_append ..

namespace Writer

variable {id : ConnectionId} {w : Writer} {o : Outbox} {sink : Sink}

/-- A packet that was written is told once. -/
theorem told_written (id : ConnectionId) (p : Packet) :
    Notice.sent (written id p) = 1 ∧ Notice.failed (written id p) = 0 := by
  obtain ⟨bytes, seq, kind⟩ := p
  cases kind <;> exact ⟨rfl, rfl⟩

/-- So is one that could not be written. -/
theorem told_failed (id : ConnectionId) (p : Packet) :
    Notice.sent (failed id p) = 0 ∧ Notice.failed (failed id p) = 1 := by
  obtain ⟨bytes, seq, kind⟩ := p
  cases kind <;> exact ⟨rfl, rfl⟩

/-- What a pass does to the books: what is no longer pending was told to be sent or to have failed,
or was dropped from the queue. -/
structure Pass.Books {α : Type} (pass : Pass α) (o : Outbox) (dropped : Nat) : Prop where
  balance : o.pending =
    Notice.sent pass.notices + Notice.failed pass.notices + dropped + pass.outbox.pending
  peak : pass.outbox.peak = o.peak
  fixed : pass.outbox.capacity = o.capacity

/-- Packets written one after the other.  The induction is on those that wait. -/
theorem books_flushFrom {p : Packet} {offset total : Nat} {waiting : List Packet}
    (h : o.pending = waiting.length + 1) :
    (flushFrom id o sink p offset total waiting).Books o 0 := by
  fun_induction flushFrom id o sink p offset total waiting with
  | case1 waiting o sink p offset total reached t hwrite => exact ⟨(Nat.zero_add _).symm, rfl, rfl⟩
  | case2 waiting o sink p offset total e t hwrite =>
    obtain ⟨hsent, hfailed⟩ := told_failed id p
    refine ⟨?_, rfl, rfl⟩
    show o.pending = Notice.sent (failed id p) + Notice.failed (failed id p) + 0 + (o.pending - 1)
    omega
  | case3 o sink p offset total t hwrite =>
    obtain ⟨hsent, hfailed⟩ := told_written id p
    refine ⟨?_, rfl, rfl⟩
    show o.pending = Notice.sent (written id p) + Notice.failed (written id p) + 0 + (o.pending - 1)
    omega
  | case4 o sink p offset total t hwrite total' next waiting pass ih =>
    obtain ⟨hsent, hfailed⟩ := told_written id p
    have hnext : o.complete.pending = waiting.length + 1 := Outbox.pending_complete_of_eq h
    obtain ⟨hbalance, hpeak, hfixed⟩ : pass.Books o.complete 0 := ih hnext
    refine ⟨?_, hpeak, hfixed⟩
    show o.pending = Notice.sent (written id p ++ pass.notices) +
      Notice.failed (written id p ++ pass.notices) + 0 + pass.outbox.pending
    rw [Notice.sent_append, Notice.failed_append]
    change o.pending - 1 = _ at hbalance
    omega

theorem books_flush (h : w.Counts o) : (w.flush id o sink).Books o 0 := by
  rcases flush_cases id sink h with ⟨hflush, -⟩ | ⟨p, offset, waiting, hcount, hflush, -⟩
  · rw [hflush]
    exact ⟨(Nat.zero_add _).symm, rfl, rfl⟩
  · rw [hflush]
    exact books_flushFrom hcount

/-- What is given up leaves the books as failed if it was being written, and as dropped if it
waited. -/
theorem books_abort (h : w.Counts o) : (w.abort id o sink).Books o o.clear.1 := by
  have hlength : o.waiting.length = o.clear.1 := List.length_reverse
  obtain ⟨inFlight⟩ := w
  cases inFlight with
  | some inFlight =>
    have hcount : o.pending = o.waiting.length + 1 := h
    obtain ⟨hsent, hfailed⟩ := told_failed id inFlight.1
    refine ⟨?_, rfl, rfl⟩
    show o.pending = Notice.sent (failed id inFlight.1) + Notice.failed (failed id inFlight.1) +
      o.clear.1 + (o.pending - o.clear.1 - 1)
    omega
  | none =>
    have hcount : o.pending = o.waiting.length := h
    refine ⟨?_, rfl, rfl⟩
    show o.pending = 0 + 0 + o.clear.1 + (o.pending - o.clear.1)
    omega

/-- Aborting returns what it found pending. -/
theorem result_abort (h : w.Counts o) : (w.abort id o sink).result = o.pending := by
  have hlength : o.waiting.length = o.latest.length := List.length_reverse
  obtain ⟨inFlight⟩ := w
  cases inFlight with
  | some inFlight =>
    have hcount : o.pending = o.waiting.length + 1 := h
    show o.latest.length + 1 = o.pending
    omega
  | none =>
    have hcount : o.pending = o.waiting.length := h
    show o.latest.length = o.pending
    omega

theorem writer_abort (id : ConnectionId) (w : Writer) (o : Outbox) (sink : Sink) :
    (w.abort id o sink).writer = idle := by
  obtain ⟨_ | inFlight⟩ := w <;> rfl

/-- The count stays right when everything is given up. -/
theorem counts_abort (h : w.Counts o) :
    (w.abort id o sink).writer.Counts (w.abort id o sink).outbox := by
  have hwaiting : (w.abort id o sink).outbox.waiting = [] := by
    obtain ⟨_ | inFlight⟩ := w <;> rfl
  rw [Counts, CountsBeside, writer_abort, hwaiting]
  exact pending_abort h

end Writer

/-! ### Whole runs -/

/-- A queue and its writer on a sink, with what happened to them. -/
structure Traffic where
  outbox : Outbox
  writer : Writer
  sink : Sink
  /-- The packets that were added, in order. -/
  added : List Packet
  /-- What the writer told. -/
  told : List Notice
  /-- How many packets were dropped from the queue. -/
  dropped : Nat

namespace Traffic

/-- Nothing was added and nothing was written. -/
def new (capacity : Nat) : Traffic := ⟨.new capacity, .idle, .new [], [], [], 0⟩

/-- What happens to a queue and its writer. -/
inductive Act
  /-- Somebody adds a packet, if there is room. -/
  | push (bytes : Bytes) (kind : MessageKind)
  /-- The packets that are pending are written; the writes find what is given here. -/
  | flush (found : List Acceptance)
  /-- Everything that is pending is given up. -/
  | abort
  deriving DecidableEq, Repr

/-- What a pass of the writer leaves. -/
def pass {α : Type} (s : Traffic) (pass : Writer.Pass α) (dropped : Nat) : Traffic :=
  { s with
    outbox := pass.outbox
    writer := pass.writer
    sink := pass.sink
    told := s.told ++ pass.notices
    dropped := s.dropped + dropped }

/-- One act.  A packet that is refused changes nothing, and a flush that fails ends where it
failed. -/
def act (id : ConnectionId) (s : Traffic) : Act → Traffic
  | .push bytes kind =>
    match s.outbox.push bytes kind with
    | .ok (seq, outbox) => { s with outbox, added := s.added ++ [⟨bytes, seq, kind⟩] }
    | .error _ => s
  | .flush found => s.pass (s.writer.flush id s.outbox { s.sink with acceptances := found }) 0
  | .abort => s.pass (s.writer.abort id s.outbox s.sink) s.outbox.clear.1

/-- Acts in order. -/
def run (id : ConnectionId) (s : Traffic) (acts : List Act) : Traffic := acts.foldl (act id) s

/-- What every run keeps. -/
structure Balanced (capacity : Nat) (s : Traffic) : Prop where
  fixed : s.outbox.capacity = capacity
  counts : s.writer.Counts s.outbox
  risen : s.outbox.pending ≤ s.outbox.peak
  bounded : s.outbox.peak ≤ capacity
  /-- What was added was told to be sent or to have failed, or was dropped, or is pending. -/
  balance : s.added.length =
    Notice.sent s.told + Notice.failed s.told + s.dropped + s.outbox.pending

variable {id : ConnectionId} {capacity : Nat} {s : Traffic}

theorem balanced_new (capacity : Nat) : Balanced capacity (new capacity) where
  fixed := rfl
  counts := rfl
  risen := Nat.le_refl 0
  bounded := Nat.zero_le capacity
  balance := rfl

/-- A pass that keeps the count right keeps the rest as well, and the queue was not fuller than it
was before. -/
theorem Balanced.pass {α : Type} (hs : Balanced capacity s) {pass : Writer.Pass α} {dropped : Nat}
    (hbooks : pass.Books s.outbox dropped) (hcounts : pass.writer.Counts pass.outbox) :
    Balanced capacity (s.pass pass dropped) ∧
      (s.pass pass dropped).outbox.peak =
        max s.outbox.peak (s.pass pass dropped).outbox.pending := by
  have hbalance := hs.balance
  have hrisen := hs.risen
  obtain ⟨hpass, hpeak, hfixed⟩ := hbooks
  -- A pass only takes packets off the count, which was not above the peak.
  have hle : pass.outbox.pending ≤ s.outbox.peak := by omega
  refine ⟨⟨hfixed.trans hs.fixed, hcounts, hpeak ▸ hle, hpeak ▸ hs.bounded, ?_⟩, ?_⟩
  · show s.added.length = Notice.sent (s.told ++ pass.notices) +
      Notice.failed (s.told ++ pass.notices) + (s.dropped + dropped) + pass.outbox.pending
    rw [Notice.sent_append, Notice.failed_append]
    omega
  · exact hpeak.trans (Nat.max_eq_left hle).symm

/-- Every act keeps it, and the peak goes with the count. -/
theorem Balanced.act (id : ConnectionId) (hs : Balanced capacity s) (a : Act) :
    Balanced capacity (s.act id a) ∧
      (s.act id a).outbox.peak = max s.outbox.peak (s.act id a).outbox.pending := by
  cases a with
  | push bytes kind =>
    have hrisen := hs.risen
    have hbounded := hs.bounded
    have hfixed := hs.fixed
    unfold Traffic.act
    by_cases hroom : s.outbox.pending < s.outbox.capacity
    · have hpush := Outbox.push_of_lt bytes kind hroom
      simp only [hpush]
      refine ⟨⟨hfixed, hs.counts.push hpush, Nat.le_max_right .., ?_, ?_⟩, rfl⟩
      · show max s.outbox.peak (s.outbox.pending + 1) ≤ capacity
        omega
      · have hbalance := hs.balance
        show (s.added ++ [_]).length =
          Notice.sent s.told + Notice.failed s.told + s.dropped + (s.outbox.pending + 1)
        rw [List.length_append, List.length_singleton]
        omega
    · simp only [Outbox.push_of_le bytes kind (Nat.le_of_not_lt hroom)]
      exact ⟨hs, (Nat.max_eq_left hrisen).symm⟩
  | flush found => exact hs.pass (Writer.books_flush hs.counts) (Writer.counts_flush hs.counts)
  | abort => exact hs.pass (Writer.books_abort hs.counts) (Writer.counts_abort hs.counts)

theorem run_concat (s : Traffic) (acts : List Act) (a : Act) :
    s.run id (acts ++ [a]) = (s.run id acts).act id a := by
  simp [run]

/-- Every run keeps it.  The induction is on the acts, the last one first. -/
theorem balanced_run (id : ConnectionId) (capacity : Nat) (acts : List Act) :
    Balanced capacity ((new capacity).run id acts) := by
  induction acts using List.reverseRecOn with
  | nil => exact balanced_new capacity
  | append_singleton acts a ih =>
    rw [run_concat]
    exact (ih.act id a).1

/-- The peak is the largest count that any part of the run came to. -/
theorem isGreatest_peak (id : ConnectionId) (capacity : Nat) (acts : List Act) :
    IsGreatest {n | ∃ before, before <+: acts ∧ ((new capacity).run id before).outbox.pending = n}
      ((new capacity).run id acts).outbox.peak := by
  induction acts using List.reverseRecOn with
  | nil =>
    refine ⟨⟨[], List.nil_prefix, rfl⟩, ?_⟩
    rintro _ ⟨before, hbefore, rfl⟩
    rw [List.prefix_nil.1 hbefore]
    exact Nat.le_refl 0
  | append_singleton acts a ih =>
    obtain ⟨⟨before, hbefore, hreached⟩, hgreatest⟩ := ih
    have hpeak := ((balanced_run id capacity acts).act id a).2
    rw [← run_concat] at hpeak
    rw [hpeak]
    constructor
    · -- Either it was reached before, or the last act came to it.
      rcases Nat.le_total ((new capacity).run id (acts ++ [a])).outbox.pending
        ((new capacity).run id acts).outbox.peak with hle | hle
      · exact ⟨before, hbefore.trans (List.prefix_append ..), by rw [Nat.max_eq_left hle, hreached]⟩
      · exact ⟨acts ++ [a], List.prefix_rfl, (Nat.max_eq_right hle).symm⟩
    · rintro _ ⟨earlier, hearlier, rfl⟩
      rcases List.prefix_concat_iff.1 hearlier with rfl | hearlier
      · exact Nat.le_max_right ..
      · exact Nat.le_trans (hgreatest ⟨earlier, hearlier, rfl⟩) (Nat.le_max_left ..)

/-- **The books of a queue are right after every run.**  Whatever was added, written to whatever the
writes found, and given up, in any order:

* what is pending is what waits and what is being written;
* no pass of the writer takes anything off a count of zero;
* a packet is added exactly if fewer are pending than may be, and one that is refused changes
  nothing;
* the peak is the largest count that was reached, and not above the capacity;
* every packet that was added was told to be sent or to have failed, or was dropped from the queue,
  or is pending;
* aborting returns what it finds pending, and leaves nothing of it. -/
theorem run_accounts (id : ConnectionId) (capacity : Nat) (acts : List Act) :
    let s := (new capacity).run id acts
    s.outbox.pending = s.outbox.waiting.length + s.writer.packets.length ∧
      (∀ sink, s.writer.flush? id s.outbox sink = some (s.writer.flush id s.outbox sink) ∧
        s.writer.abort? id s.outbox sink = some (s.writer.abort id s.outbox sink)) ∧
      (∀ bytes kind, if s.outbox.pending < capacity
        then ∃ seq outbox, s.outbox.push bytes kind = .ok (seq, outbox)
        else s.outbox.push bytes kind = .error (.outboxFull capacity) ∧
          s.act id (.push bytes kind) = s) ∧
      IsGreatest {n | ∃ before, before <+: acts ∧
        ((new capacity).run id before).outbox.pending = n} s.outbox.peak ∧
      s.outbox.peak ≤ capacity ∧
      s.added.length =
        Notice.sent s.told + Notice.failed s.told + s.dropped + s.outbox.pending ∧
      (∀ sink, (s.writer.abort id s.outbox sink).result = s.outbox.pending ∧
        (s.writer.abort id s.outbox sink).outbox.pending = 0 ∧
        (s.writer.abort id s.outbox sink).writer = .idle) := by
  intro s
  have hs : Balanced capacity s := balanced_run id capacity acts
  have hgreatest := isGreatest_peak id capacity acts
  refine ⟨hs.counts, fun sink => ⟨Writer.flush?_eq hs.counts, Writer.abort?_eq hs.counts⟩,
    fun bytes kind => ?_, hgreatest, hs.bounded, hs.balance, fun sink =>
      ⟨Writer.result_abort hs.counts, Writer.pending_abort hs.counts, Writer.writer_abort ..⟩⟩
  rw [← hs.fixed]
  split
  · next hroom => exact ⟨_, _, Outbox.push_of_lt bytes kind hroom⟩
  · next hfull =>
    have hpush := Outbox.push_of_le bytes kind (Nat.le_of_not_lt hfull)
    refine ⟨hpush, ?_⟩
    unfold Traffic.act
    simp only [hpush]

-- The third packet is refused, the first one fails, and the second one is dropped.
example :
    let s := (new 2).run ⟨7⟩ [.push [1] .text, .push [2] .ping, .push [3] .text,
      .flush [.failed "reset"], .abort]
    s.added.length = 2 ∧ Notice.sent s.told = 0 ∧ Notice.failed s.told = 1 ∧ s.dropped = 1 ∧
      s.outbox.peak = 2 := by
  cbv

end Traffic

end WebSocket
