import WebSocket.Bytes

/-!
# Sockets that never wait

A socket is read and written without waiting: a read takes what has arrived, a write gives what is
accepted, and either may find nothing to do, be interrupted, or fail.  What the outside does is laid
down in the socket, so that reading and writing are functions.

## Main definitions

* `Arrival`, `Source` — what reads find, and `Source.read`.
* `Acceptance`, `Sink` — what writes find, and `Sink.write`.
* `Socket` — both directions of a connection.

## Main results

* `Source.content_read`, `Source.content_read_of_ne` — a read takes bytes off the front of what will
  arrive.
* `Source.weight_read_bytes`, `Source.weight_read_interrupted` — a read that found bytes or an
  interruption has used something up.
* `Sink.taken_write`, `Sink.taken_write_of_ne` — a write puts what it accepted behind what was
  accepted before.
* `Sink.write_decreases` — a write that was accepted or interrupted has used something up.
-/

namespace WebSocket

/-- What a read finds. -/
inductive Arrival
  /-- Bytes; none at all mean that the other side has ended. -/
  | bytes (chunk : Bytes)
  /-- Nothing has arrived. -/
  | blocked
  | interrupted
  | failed (detail : String)
  deriving DecidableEq, Repr

/-- How many reads can find an arrival at most: each byte by itself, and once more. -/
def Arrival.weight : Arrival → Nat
  | .bytes chunk => chunk.length + 1
  | _ => 1

/-- How many reads can find one of several arrivals at most. -/
def Arrival.totalWeight : List Arrival → Nat
  | [] => 0
  | a :: arrivals => a.weight + totalWeight arrivals

/-- The bytes of an arrival. -/
def Arrival.content : Arrival → Bytes
  | .bytes chunk => chunk
  | _ => []

/-- What reads will find, in order. -/
structure Source where
  arrivals : List Arrival
  /-- After all arrivals the other side has ended; otherwise nothing has arrived. -/
  ended : Bool
  deriving DecidableEq, Repr

namespace Source

/-- A read with room for `room` bytes.  Of a chunk that is too long the rest stays. -/
def read (room : Nat) (s : Source) : Arrival × Source :=
  match s.arrivals with
  | [] => (if s.ended then .bytes [] else .blocked, s)
  | .bytes chunk :: rest =>
    if Bytes.reaches (room + 1) chunk then
      (.bytes (chunk.take room), { s with arrivals := .bytes (chunk.drop room) :: rest })
    else (.bytes chunk, { s with arrivals := rest })
  | a :: rest => (a, { s with arrivals := rest })

/-- How many reads can find something at most. -/
def weight (s : Source) : Nat := Arrival.totalWeight s.arrivals

/-- The bytes that reads will find, in order. -/
def content (s : Source) : Bytes := s.arrivals.flatMap Arrival.content

/-- A read that found bytes took them off the front. -/
theorem content_read {room : Nat} {s t : Source} {chunk : Bytes}
    (h : s.read room = (.bytes chunk, t)) : s.content = chunk ++ t.content := by
  unfold read at h
  split at h
  · next hn =>
    split at h
    · obtain ⟨rfl, rfl⟩ : chunk = [] ∧ s = t := by simpa [eq_comm] using h
      rfl
    · simp at h
  · next c rest hc =>
    split at h
    · obtain ⟨rfl, rfl⟩ : c.take room = chunk ∧ _ = t := by simpa using h
      simp [content, hc, Arrival.content, ← List.append_assoc]
    · obtain ⟨rfl, rfl⟩ : c = chunk ∧ _ = t := by simpa using h
      simp [content, hc, Arrival.content]
  · next a rest hc _ =>
    obtain ⟨rfl, _⟩ : a = .bytes chunk ∧ _ = t := by simpa using h
    exact absurd rfl (hc chunk)

/-- A read that found something else leaves all bytes for later. -/
theorem content_read_of_ne {room : Nat} {s t : Source} {a : Arrival} (h : s.read room = (a, t))
    (ha : ∀ chunk, a ≠ .bytes chunk) : t.content = s.content := by
  unfold read at h
  split at h
  · obtain ⟨-, rfl⟩ := Prod.mk.inj h
    rfl
  · split at h <;> exact absurd (Prod.mk.inj h).1.symm (ha _)
  · next b rest hc hs =>
    obtain ⟨rfl, rfl⟩ := Prod.mk.inj h
    have hnothing : b.content = [] := by
      cases b with
      | bytes chunk => exact absurd rfl (ha chunk)
      | _ => rfl
    rw [content, content, hs, List.flatMap_cons, hnothing, List.nil_append]

/-- A read takes at most as many bytes as there is room for. -/
theorem length_read_le {room : Nat} {s t : Source} {chunk : Bytes}
    (h : s.read room = (.bytes chunk, t)) : chunk.length ≤ room := by
  unfold read at h
  split at h
  · split at h
    · obtain ⟨rfl, -⟩ : chunk = [] ∧ s = t := by simpa [eq_comm] using h
      exact Nat.zero_le _
    · simp at h
  · next c rest hc =>
    split at h
    · obtain ⟨rfl, -⟩ : c.take room = chunk ∧ _ = t := by simpa using h
      exact List.length_take_le ..
    · next hshort =>
      obtain ⟨rfl, -⟩ : c = chunk ∧ _ = t := by simpa using h
      rw [Bytes.reaches_iff] at hshort
      omega
  · next a rest hc _ =>
    obtain ⟨rfl, -⟩ : a = .bytes chunk ∧ _ = t := by simpa using h
    exact absurd rfl (hc chunk)

/-- Of bytes that have arrived a read with room takes at least one, and what stays of them is not
empty. -/
theorem read_cons {room : Nat} (hroom : 0 < room) (b : UInt8) (rest : Bytes)
    (later : List Arrival) (ended : Bool) :
    ∃ chunk stay, (⟨.bytes (b :: rest) :: later, ended⟩ : Source).read room =
        (.bytes (b :: chunk), ⟨stay ++ later, ended⟩) ∧
      ∀ a ∈ stay, ∃ b rest, a = .bytes (b :: rest) := by
  by_cases hlong : Bytes.reaches (room + 1) (b :: rest)
  · -- The chunk is cut, and a part of it that is not empty stays.
    obtain ⟨n, rfl⟩ : ∃ n, room = n + 1 := ⟨room - 1, by omega⟩
    refine ⟨rest.take n, [.bytes (rest.drop n)], ?_, ?_⟩
    · simp only [read, if_pos hlong, List.take_succ_cons, List.drop_succ_cons, List.cons_append,
        List.nil_append]
    · intro a ha
      obtain rfl := List.mem_singleton.1 ha
      have hlen := Bytes.reaches_iff.1 hlong
      rw [List.length_cons] at hlen
      cases hdrop : rest.drop n with
      | nil => rw [List.drop_eq_nil_iff] at hdrop; omega
      | cons b' rest' => exact ⟨b', rest', rfl⟩
  · refine ⟨rest, [], ?_, by simp⟩
    simp only [read, if_neg hlong, List.nil_append]

/-! ### Room and release -/

/-- A read that found bytes has used as much up. -/
theorem weight_read_bytes {room : Nat} {s t : Source} {chunk : Bytes}
    (h : s.read room = (.bytes chunk, t)) : t.weight + chunk.length ≤ s.weight := by
  unfold read at h
  split at h
  · next hn =>
    split at h
    · obtain ⟨rfl, rfl⟩ : chunk = [] ∧ s = t := by simpa [eq_comm] using h
      simp
    · simp at h
  · next c rest hc =>
    simp only [weight, hc, Arrival.totalWeight, Arrival.weight]
    split at h
    · obtain ⟨rfl, rfl⟩ : c.take room = chunk ∧ _ = t := by simpa using h
      simp only [Arrival.totalWeight, Arrival.weight, List.length_drop, List.length_take]
      omega
    · obtain ⟨rfl, rfl⟩ : c = chunk ∧ _ = t := by simpa using h
      simp only
      omega
  · next a rest hc _ =>
    obtain ⟨rfl, _⟩ : a = .bytes chunk ∧ _ = t := by simpa using h
    exact absurd rfl (hc chunk)

/-- A read that was interrupted has used the interruption up. -/
theorem weight_read_interrupted {room : Nat} {s t : Source}
    (h : s.read room = (.interrupted, t)) : t.weight < s.weight := by
  unfold read at h
  split at h
  · split at h <;> simp at h
  · split at h <;> simp at h
  · next a rest _ hc =>
    obtain ⟨rfl, rfl⟩ : a = .interrupted ∧ _ = t := by simpa using h
    simp [weight, hc, Arrival.totalWeight, Arrival.weight]

/-- More bytes have arrived; they join those that arrived before them. -/
def send (s : Source) (chunk : Bytes) : Source :=
  if chunk.isEmpty then s
  else match s.arrivals.getLast? with
    | some (.bytes last) =>
      { s with arrivals := s.arrivals.dropLast ++ [.bytes (last ++ chunk)] }
    | _ => { s with arrivals := s.arrivals ++ [.bytes chunk] }

end Source

/-- What a write finds. -/
inductive Acceptance
  /-- So many bytes are accepted at most. -/
  | bytes (n : Nat)
  /-- Nothing can be accepted now. -/
  | blocked
  | interrupted
  | failed (detail : String)
  deriving DecidableEq, Repr

/-- What writes will find, in order; after that everything is accepted. -/
structure Sink where
  acceptances : List Acceptance
  /-- All bytes that were accepted. -/
  accepted : Array UInt8
  deriving DecidableEq, Repr

namespace Sink

/-- A sink that has accepted nothing yet. -/
def new (acceptances : List Acceptance) : Sink := ⟨acceptances, #[]⟩

/-- All bytes that were accepted. -/
def taken (s : Sink) : Bytes := s.accepted.toList

/-- A write, and what was accepted of it. -/
def write (chunk : Bytes) (s : Sink) : Acceptance × Sink :=
  match s.acceptances with
  | [] => (.bytes chunk.length, { s with accepted := s.accepted ++ chunk })
  | .bytes n :: rest =>
    let front := chunk.take n
    (.bytes front.length, ⟨rest, s.accepted ++ front⟩)
  | a :: rest => (a, { s with acceptances := rest })

/-- After a write that found something less is left to find; where nothing is left to find, all of
it was accepted. -/
theorem write_decreases {chunk : Bytes} {s t : Sink} {a : Acceptance} (h : s.write chunk = (a, t)) :
    t.acceptances.length < s.acceptances.length ∨
      (t.acceptances = s.acceptances ∧ a = .bytes chunk.length) := by
  unfold write at h
  split at h
  · next hn =>
    obtain ⟨rfl, rfl⟩ : Acceptance.bytes chunk.length = a ∧ _ = t := by simpa using h
    exact .inr ⟨rfl, rfl⟩
  · next n rest hc =>
    obtain ⟨rfl, rfl⟩ : Acceptance.bytes (chunk.take n).length = a ∧ _ = t := by simpa using h
    exact .inl (by simp [hc])
  · next b rest _ hc =>
    obtain ⟨rfl, rfl⟩ : b = a ∧ _ = t := by simpa using h
    exact .inl (by simp [hc])

/-- A write that accepted `n` bytes has put the first `n` of the chunk behind those before. -/
theorem taken_write {chunk : Bytes} {s t : Sink} {n : Nat} (h : s.write chunk = (.bytes n, t)) :
    t.taken = s.taken ++ chunk.take n := by
  unfold write at h
  split at h
  · obtain ⟨rfl, rfl⟩ : chunk.length = n ∧ _ = t := by simpa using h
    simp [taken]
  · next m rest _ =>
    obtain ⟨rfl, rfl⟩ : (chunk.take m).length = n ∧ _ = t := by simpa using h
    simp [taken]
  · next a rest hc _ =>
    obtain ⟨rfl, _⟩ : a = .bytes n ∧ _ = t := by simpa using h
    exact absurd rfl (hc n)

/-- A write accepts at most what it is given. -/
theorem write_le {chunk : Bytes} {s t : Sink} {n : Nat} (h : s.write chunk = (.bytes n, t)) :
    n ≤ chunk.length := by
  unfold write at h
  split at h
  · obtain ⟨rfl, -⟩ : chunk.length = n ∧ _ = t := by simpa using h
    exact Nat.le_refl _
  · next m rest _ =>
    obtain ⟨rfl, -⟩ : (chunk.take m).length = n ∧ _ = t := by simpa using h
    exact List.length_take_le' ..
  · next a rest hc _ =>
    obtain ⟨rfl, -⟩ : a = .bytes n ∧ _ = t := by simpa using h
    exact absurd rfl (hc n)

/-- A write that accepted nothing, or was put off, has changed nothing. -/
theorem taken_write_of_ne {chunk : Bytes} {s t : Sink} {a : Acceptance}
    (h : s.write chunk = (a, t)) (ha : ∀ n, a ≠ .bytes n) : t.taken = s.taken := by
  unfold write at h
  split at h
  · exact absurd (Prod.mk.inj h).1.symm (ha _)
  · exact absurd (Prod.mk.inj h).1.symm (ha _)
  · rw [← (Prod.mk.inj h).2]
    rfl

end Sink

/-- One end of a connection. -/
structure Socket where
  incoming : Source
  outgoing : Sink
  /-- This end was closed. -/
  hungUp : Bool
  /-- What waiting for another readiness will fail with, if it will. -/
  refusal : Option String
  deriving DecidableEq, Repr

namespace Socket

/-- A fresh connection, whose other end takes whatever is written. -/
def fresh : Socket := ⟨⟨[], false⟩, .new [], false, none⟩

/-- The other end has sent bytes. -/
def arrive (s : Socket) (chunk : Bytes) : Socket := { s with incoming := s.incoming.send chunk }

/-- The other end sends bytes.  It cannot once either end has closed this direction; but where there
is nothing to send, nothing can be refused. -/
def offer? (s : Socket) (chunk : Bytes) : Option Socket :=
  if chunk.isEmpty then some s
  else if s.hungUp || s.incoming.ended then none
  else some (s.arrive chunk)

/-- The other end sends nothing more. -/
def finish (s : Socket) : Socket := { s with incoming := { s.incoming with ended := true } }

/-- This end is closed. -/
def hangUp (s : Socket) : Socket := { s with hungUp := true }

end Socket

end WebSocket
