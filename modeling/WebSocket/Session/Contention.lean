import WebSocket.Session.Outbox

/-!
# An outbox shared by threads

Anybody may push while the session writes.  A push goes through its steps one by one, and so does
the writer, which may also give packets up, and between two steps of one of them the others may do
any of theirs.  A packet that the writer took out of the queue stays in its hands until it is taken
off the count.

## Main definitions

* `Outbox.Contention` — a queue, where every push stands, and what the writer has in its hands.
* `Outbox.Contention.Move`, `Outbox.Contention.step` — the steps.
* `Outbox.Contention.Reachable` — what some order of steps leads to while at most so many pushes are
  in progress.

## Main results

* `Outbox.Contention.run_push` — a push that nothing comes between is `Outbox.push`.
* `Outbox.Contention.run_flush`, `Outbox.Contention.run_abort` — so are the passes of the writer.
-/

namespace WebSocket

/-- Writing does not go back, and not beyond the end of the packet. -/
theorem Packet.blocked_le {p : Packet} {offset reached : Nat} {sink rest : Sink}
    (ho : offset ≤ p.bytes.length) (h : p.writeFrom offset sink = (.blocked reached, rest)) :
    offset ≤ reached ∧ reached ≤ p.bytes.length := by
  fun_induction p.writeFrom offset sink with
  | case1 => simp at h
  | case2 offset sink hlt n t hwrite ih =>
    have hle := Sink.write_le hwrite
    rw [List.length_drop] at hle
    have hmore := ih (by omega) h
    omega
  | case3 offset sink hlt t hwrite =>
    obtain ⟨rfl, -⟩ : offset = reached ∧ t = rest := by simpa using h
    exact ⟨Nat.le_refl _, ho⟩
  | case4 offset sink hlt t hwrite ih => exact ih ho h
  | case5 => simp at h
  | case6 => simp at h

namespace Outbox

/-- A push in progress. -/
inductive Push
  /-- It has not looked at the count yet. -/
  | entered (bytes : Bytes) (kind : MessageKind)
  /-- There was room. -/
  | admitted (bytes : Bytes) (kind : MessageKind)
  /-- Its packet is counted. -/
  | counted (bytes : Bytes) (kind : MessageKind)
  /-- Its packet is counted and has its number. -/
  | numbered (p : Packet)
  deriving DecidableEq, Repr

/-- The packet of the push is counted and not yet in the queue. -/
def Push.isCounted : Push → Bool
  | .counted .. | .numbered _ => true
  | .entered .. | .admitted .. => false

/-- A queue of packets shared by threads. -/
structure Contention where
  outbox : Outbox
  pushes : List Push
  /-- The packet that is being written, and how much of it was. -/
  inFlight : Option (Packet × Nat)
  /-- The packet that was taken out of the queue to be given up. -/
  givenUp : Option Packet
  /-- The packets that were added, in order. -/
  accepted : List Packet
  deriving DecidableEq, Repr

namespace Contention

/-- A queue that no thread has touched. -/
def new (capacity : Nat) : Contention := ⟨.new capacity, [], none, none, []⟩

/-- The steps of the threads. -/
inductive Move
  /-- A push begins. -/
  | enter (bytes : Bytes) (kind : MessageKind)
  /-- The push at a place looks whether there is room; without room it ends. -/
  | check (place : Nat)
  | count (place : Nat)
  | number (place : Nat)
  | append (place : Nat)
  /-- The writer takes the packet that waited longest. -/
  | pop
  /-- So many bytes of it are written. -/
  | write (n : Nat)
  /-- The packet is no longer pending, whether all of it was written or not. -/
  | complete
  /-- The writer takes the packet that waited longest, to give it up. -/
  | discard
  /-- The packet that was given up is no longer pending. -/
  | forget
  deriving DecidableEq, Repr

/-- The steps of the writer. -/
def Move.isWriter : Move → Bool
  | .pop | .write _ | .complete | .discard | .forget => true
  | _ => false

/-- The packets that the writer took out of the queue and has not taken off the count: the one that
is being written, and the one that is being given up. -/
def inHand (c : Contention) : List Packet := (c.inFlight.map Prod.fst).toList ++ c.givenUp.toList

/-- How many pushes have counted their packets and not added them. -/
def counted (c : Contention) : Nat := c.pushes.countP Push.isCounted

/-- The push at a place goes on. -/
def goOn (place : Nat) (p : Push) (c : Contention) : Contention :=
  { c with pushes := c.pushes.set place p }

/-- The step that the push at a place takes, if it can take it. -/
def pushStep (m : Move) (place : Nat) (p : Push) (c : Contention) : Option Contention :=
  match m, p with
  | .check _, .entered bytes kind =>
    if c.outbox.admits then c.goOn place (.admitted bytes kind)
    else some { c with pushes := c.pushes.eraseIdx place }
  | .count _, .admitted bytes kind =>
    { c with outbox := c.outbox.count }.goOn place (.counted bytes kind)
  | .number _, .counted bytes kind =>
    let (seq, outbox) := c.outbox.takeNumber
    { c with outbox }.goOn place (.numbered ⟨bytes, seq, kind⟩)
  | .append _, .numbered p =>
    some { c with
      outbox := c.outbox.append p
      pushes := c.pushes.eraseIdx place
      accepted := c.accepted ++ [p] }
  | _, _ => none

/-- The step of the writer, if it can take it.  It gives up one packet after the other, and does
nothing else in between. -/
def writerStep (m : Move) (c : Contention) : Option Contention :=
  match m, c.givenUp, c.inFlight with
  | .pop, none, none =>
    c.outbox.pop?.map fun (p, outbox) => { c with outbox, inFlight := some (p, 0) }
  | .write n, none, some (p, offset) =>
    some { c with inFlight := some (p, min (offset + n) p.bytes.length) }
  | .complete, none, some _ => some { c with outbox := c.outbox.complete, inFlight := none }
  | .discard, none, _ => c.outbox.pop?.map fun (p, outbox) => { c with outbox, givenUp := some p }
  | .forget, some _, _ => some { c with outbox := c.outbox.complete, givenUp := none }
  | _, _, _ => none

/-- One step of some thread, if it can be taken. -/
def step (m : Move) (c : Contention) : Option Contention :=
  match m with
  | .enter bytes kind => some { c with pushes := c.pushes ++ [.entered bytes kind] }
  | .check place | .count place | .number place | .append place =>
    c.pushes[place]?.bind fun p => c.pushStep m place p
  | _ => c.writerStep m

/-- What some order of steps leads to while at most `k` pushes are in progress at once. -/
inductive Reachable (capacity k : Nat) : Contention → Prop
  | start : Reachable capacity k (.new capacity)
  | next {c d : Contention} (m : Move) : Reachable capacity k c → c.step m = some d →
      d.pushes.length ≤ k → Reachable capacity k d

/-- The steps of a given order, if all of them can be taken. -/
def run (moves : List Move) (c : Contention) : Option Contention :=
  moves.foldlM (fun c m => c.step m) c

/-- The steps of a push that finds room, for the only push in progress. -/
def pushMoves (bytes : Bytes) (kind : MessageKind) : List Move :=
  [.enter bytes kind, .check 0, .count 0, .number 0, .append 0]

/-- A push that finds room and that nothing comes between is `Outbox.push`. -/
theorem run_push (c : Contention) (bytes : Bytes) (kind : MessageKind) (hp : c.pushes = [])
    (hroom : c.outbox.admits) :
    (c.run (pushMoves bytes kind)).map Contention.outbox =
      (c.outbox.push bytes kind).toOption.map Prod.snd := by
  simp [run, pushMoves, step, pushStep, hp, hroom, goOn, Outbox.push, Except.toOption]

/-! ### The passes of the writer -/

theorem run_cons {c d : Contention} {m : Move} (h : c.step m = some d) (moves : List Move) :
    c.run (m :: moves) = d.run moves := by
  simp [run, List.foldlM_cons, h]

theorem run_append {c d : Contention} {moves : List Move} (h : c.run moves = some d)
    (more : List Move) : c.run (moves ++ more) = d.run more := by
  rw [run, List.foldlM_append]
  exact (congrArg (Option.bind · _) h).trans rfl

/-- Writing packets one after the other is a sequence of the writer's steps.  The induction is on
those that wait. -/
theorem run_flushFrom (id : ConnectionId) {c : Contention} (sink : Sink) {p : Packet}
    {offset : Nat} (total : Nat) {waiting : List Packet} (hg : c.givenUp = none)
    (hp : c.inFlight = some (p, offset)) (ho : offset ≤ p.bytes.length)
    {o : Outbox} (hc : c.outbox = o.keep waiting) :
    ∃ moves : List Move, (∀ m ∈ moves, m.isWriter) ∧ c.run moves = some { c with
      outbox := (Writer.flushFrom id o sink p offset total waiting).outbox
      inFlight := (Writer.flushFrom id o sink p offset total waiting).writer.inFlight } := by
  obtain ⟨outbox, pushes, inFlight, givenUp, accepted⟩ := c
  obtain rfl : givenUp = none := hg
  obtain rfl : inFlight = some (p, offset) := hp
  obtain rfl : outbox = o.keep waiting := hc
  fun_induction Writer.flushFrom id o sink p offset total waiting with
  | case1 waiting o sink p offset total reached t hwrite =>
    obtain ⟨hlow, hhigh⟩ := Packet.blocked_le ho hwrite
    refine ⟨[.write (reached - offset)], by simp [Move.isWriter], ?_⟩
    have hreached : min (offset + (reached - offset)) p.bytes.length = reached := by omega
    simp [run, step, writerStep, hreached]
  | case2 waiting o sink p offset total e t hwrite =>
    exact ⟨[.complete], by simp [Move.isWriter], rfl⟩
  | case3 o sink p offset total t hwrite =>
    exact ⟨[.complete], by simp [Move.isWriter], rfl⟩
  | case4 o sink p offset total t hwrite total' next waiting pass ih =>
    obtain ⟨moves, hmoves, hrun⟩ := ih (Nat.zero_le _)
    refine ⟨.complete :: .pop :: moves, by simpa [Move.isWriter] using hmoves, ?_⟩
    have hpop : (o.keep (next :: waiting)).complete.pop? =
        some (next, o.complete.keep waiting) := by
      simp [pop?, complete, keep, Outbox.waiting]
    rw [run_cons rfl]
    rw [run_cons (by simp [step, writerStep, hpop]; rfl)]
    exact hrun

/-- Flushing is a sequence of the writer's steps. -/
theorem run_flush (id : ConnectionId) {c : Contention} (sink : Sink) (hg : c.givenUp = none)
    (hsound : ∀ p offset, c.inFlight = some (p, offset) → offset ≤ p.bytes.length) :
    ∃ moves : List Move, (∀ m ∈ moves, m.isWriter) ∧ c.run moves = some { c with
      outbox := (Writer.flush id ⟨c.inFlight⟩ c.outbox sink).outbox
      inFlight := (Writer.flush id ⟨c.inFlight⟩ c.outbox sink).writer.inFlight } := by
  obtain ⟨o, pushes, inFlight, givenUp, accepted⟩ := c
  obtain rfl : givenUp = none := hg
  cases inFlight with
  | some inFlight =>
    have hkept : o = o.keep o.waiting := by simp [keep, Outbox.waiting]
    exact run_flushFrom id sink 0 rfl rfl (hsound _ _ rfl) hkept
  | none =>
    unfold Writer.flush
    simp only
    cases hwaiting : o.waiting with
    | nil => exact ⟨[], by simp, rfl⟩
    | cons p waiting =>
      have hpop : o.pop? = some (p, o.keep waiting) := by simp [pop?, hwaiting]
      obtain ⟨moves, hmoves, hrun⟩ := run_flushFrom id
        (c := ⟨o.keep waiting, pushes, some (p, 0), none, accepted⟩) sink 0 rfl rfl
        (Nat.zero_le _) rfl
      refine ⟨.pop :: moves, by simpa [Move.isWriter] using hmoves, ?_⟩
      rw [run_cons (by simp [step, writerStep, hpop]; rfl)]
      exact hrun

/-- What waits given up, packet by packet. -/
def discards (waiting : List Packet) : List Move := waiting.flatMap fun _ => [.discard, .forget]

theorem run_discards {c : Contention} (hg : c.givenUp = none) {waiting : List Packet}
    (h : c.outbox.waiting = waiting) : c.run (discards waiting) = some { c with
      outbox := { c.outbox with latest := [], pending := c.outbox.pending - waiting.length } } := by
  induction waiting generalizing c with
  | nil =>
    have hlatest : c.outbox.latest = [] := List.reverse_eq_nil_iff.1 h
    show some c = _
    rw [List.length_nil, Nat.sub_zero, ← hlatest]
  | cons p waiting ih =>
    have hpop : c.outbox.pop? = some (p, c.outbox.keep waiting) := by simp [pop?, h]
    show run (.discard :: .forget :: discards waiting) c = _
    rw [run_cons (d := { c with outbox := c.outbox.keep waiting, givenUp := some p })
      (by simp [step, writerStep, hpop, hg]), run_cons rfl]
    refine (ih rfl (by simp [complete, keep, Outbox.waiting])).trans ?_
    simp [complete, keep, Nat.sub_sub, Nat.add_comm, ← hg]

/-- Aborting is a sequence of the writer's steps: what waits goes first, then the packet that is
being written. -/
theorem run_abort (id : ConnectionId) {c : Contention} (sink : Sink) (hg : c.givenUp = none) :
    ∃ moves : List Move, (∀ m ∈ moves, m.isWriter) ∧ c.run moves = some { c with
      outbox := (Writer.abort id ⟨c.inFlight⟩ c.outbox sink).outbox
      inFlight := none } := by
  obtain ⟨o, pushes, inFlight, givenUp, accepted⟩ := c
  obtain rfl : givenUp = none := hg
  have hdiscards : ∀ m ∈ discards o.waiting, m.isWriter := by
    intro m hm
    obtain ⟨p, -, hm⟩ := List.mem_flatMap.1 hm
    obtain rfl | rfl : m = .discard ∨ m = .forget := by simpa using hm
    · rfl
    · rfl
  have hrun := run_discards (c := ⟨o, pushes, inFlight, none, accepted⟩) rfl rfl
  have hlength : o.waiting.length = o.latest.length := List.length_reverse
  simp only [hlength] at hrun
  cases inFlight with
  | none => exact ⟨discards o.waiting, hdiscards, hrun⟩
  | some inFlight =>
    refine ⟨discards o.waiting ++ [.complete], ?_, ?_⟩
    · intro m hm
      obtain hm | rfl : m ∈ discards o.waiting ∨ m = .complete := by simpa using hm
      · exact hdiscards m hm
      · rfl
    · rw [run_append hrun]
      rfl

end Contention

end Outbox

end WebSocket
