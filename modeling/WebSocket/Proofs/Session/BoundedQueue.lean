import Mathlib.Algebra.Group.Nat.Defs
import WebSocket.Session.Buffer

/-!
# The receive buffer is a bounded queue

The filled part of a buffer is a queue: bytes come in at its end, as many as there is room for, and
leave at its front.  The storage holds more than that.  Bytes that leave are overwritten by those
behind them, whose copies stay where they were; growing appends zeros, and shrinking cuts off what
is there.  None of this is ever seen in the queue, whatever was done before.

## Main definitions

* `Buffer.Act`, `Buffer.act`, `Buffer.run` — what is done to a buffer.
* `Buffer.write` — bytes written behind the filled part that do not count as filled yet.
* `ByteQueue`, `ByteQueue.act`, `ByteQueue.run` — the same for a queue, which has no storage.
* `Buffer.Shows` — a buffer that shows a queue.

## Main results

* `Buffer.put_eq_advance_write` — filling in is writing, and then counting what was written.
* `Buffer.Shows.act`, `Buffer.shows_run` — whatever is done, the buffer shows the queue.
* `ByteQueue.Doubled.act` — the capacity is the first one, doubled some times and capped.
* `Buffer.run_bounded_queue` — **a buffer is a bounded queue**, after any acts.
-/

namespace WebSocket

namespace Buffer

/-! ### What is done to a buffer -/

/-- What is done to a buffer. -/
inductive Act
  /-- As much of a chunk as fits is filled in. -/
  | fill (chunk : Bytes)
  /-- Some bytes leave. -/
  | consume (n : Nat)
  | grow
  | reset
  deriving DecidableEq, Repr

/-- A buffer after an act.  One that cannot grow stays as it is. -/
def act (b : Buffer) : Act → Buffer
  | .fill chunk => b.put chunk
  | .consume n => b.consume n
  | .grow => b.grow?.getD b
  | .reset => b.reset

/-- A buffer after some acts. -/
def run (b : Buffer) (acts : List Act) : Buffer := acts.foldl act b

/-- The largest capacity under a ceiling: there is room for a byte under every ceiling. -/
def largest (ceiling : Nat) : Nat := max ceiling 1

/-- The capacity to start with, between one byte and the largest. -/
def smallest (initial ceiling : Nat) : Nat := max 1 (min initial (largest ceiling))

theorem smallest_le (initial ceiling : Nat) : smallest initial ceiling ≤ largest ceiling := by
  unfold smallest largest
  omega

/-! ### Filling in -/

/-- As much of `chunk` as fits, written behind the filled part without counting as filled. -/
def write (b : Buffer) (chunk : Bytes) : Buffer :=
  have hlen : (b.put chunk).storage.length = b.storage.length := capacity_put b chunk
  { b with
    storage := (b.put chunk).storage
    filled_le := by rw [hlen]; exact b.filled_le
    initial_le := by rw [hlen]; exact b.initial_le
    storage_le := by rw [hlen]; exact b.storage_le }

/-- What is only written is not seen. -/
theorem contents_write (b : Buffer) (chunk : Bytes) : (b.write chunk).contents = b.contents := by
  have hstorage : (b.write chunk).storage =
      b.contents ++ (chunk.take b.room ++ b.storage.drop (b.filled + (chunk.take b.room).length)) :=
    List.append_assoc ..
  rw [contents, hstorage]
  exact List.take_left' b.length_contents

/-- **Filling in is writing, and then counting what was written.** -/
theorem put_eq_advance_write (b : Buffer) (chunk : Bytes) :
    b.put chunk = (b.write chunk).advance (min chunk.length b.room) := by
  have hlen : (b.put chunk).storage.length = b.storage.length := capacity_put b chunk
  have hfilled : b.filled + (chunk.take b.room).length =
      min (b.filled + min chunk.length b.room) (b.put chunk).storage.length := by
    have hle := b.filled_le
    rw [hlen, List.length_take, room, capacity]
    omega
  simp only [advance, write, ← hfilled]
  rfl

/-- Filling in appends what fits. -/
theorem filled_put (b : Buffer) (chunk : Bytes) :
    (b.put chunk).filled = b.filled + min chunk.length b.room := by
  rw [← length_contents, contents_put, List.length_append, length_contents, List.length_take,
    Nat.min_comm]

end Buffer

/-! ### Queues -/

/-- A queue of bytes that has room for a number of them. -/
structure ByteQueue where
  bytes : Bytes
  capacity : Nat
  deriving DecidableEq, Repr

namespace ByteQueue

open Buffer (Act)

/-- A queue after an act, where `least` is its capacity at first and `most` the largest. -/
def act (least most : Nat) (q : ByteQueue) : Act → ByteQueue
  | .fill chunk => { q with bytes := q.bytes ++ chunk.take (q.capacity - q.bytes.length) }
  | .consume n => { q with bytes := q.bytes.drop (min n q.bytes.length) }
  | .grow => { q with capacity := min (q.capacity * 2) most }
  | .reset => ⟨[], least⟩

/-- What some acts make of an empty queue. -/
def run (least most : Nat) (acts : List Act) : ByteQueue := acts.foldl (act least most) ⟨[], least⟩

/-- The capacity is the first one doubled some times, or the largest if that is less. -/
def Doubled (least most : Nat) (q : ByteQueue) : Prop := ∃ j, q.capacity = min (least * 2 ^ j) most

variable {least most : Nat} {q : ByteQueue}

theorem Doubled.act (h : q.Doubled least most) (hle : least ≤ most) (a : Act) :
    (q.act least most a).Doubled least most := by
  obtain ⟨j, hj⟩ := h
  cases a with
  | fill chunk => exact ⟨j, hj⟩
  | consume n => exact ⟨j, hj⟩
  | grow =>
    refine ⟨j + 1, ?_⟩
    show min (q.capacity * 2) most = _
    rw [hj, Nat.pow_succ, ← Nat.mul_assoc]
    omega
  | reset =>
    refine ⟨0, ?_⟩
    show least = _
    omega

theorem doubled_run (hle : least ≤ most) (acts : List Act) :
    (run least most acts).Doubled least most := by
  have hstart : (ByteQueue.mk [] least).Doubled least most := ⟨0, by show least = _; omega⟩
  unfold run
  generalize ByteQueue.mk [] least = q at hstart
  induction acts generalizing q with
  | nil => exact hstart
  | cons a acts ih => exact ih _ (hstart.act hle a)

end ByteQueue

namespace Buffer

/-! ### A buffer shows a queue -/

/-- A buffer shows a queue: it has its bytes filled in, and as much room in all. -/
structure Shows (least most : Nat) (b : Buffer) (q : ByteQueue) : Prop where
  contents : b.contents = q.bytes
  capacity : b.capacity = q.capacity
  initial : b.initial = least
  ceiling : b.ceiling = most

variable {least most : Nat} {b c : Buffer} {q : ByteQueue}

/-- **What is done to a buffer is seen in its queue.** -/
theorem Shows.act (h : b.Shows least most q) (a : Act) :
    (b.act a).Shows least most (q.act least most a) := by
  have hlength : b.filled = q.bytes.length := by rw [← length_contents, h.contents]
  cases a with
  | fill chunk =>
    refine ⟨?_, (capacity_put b chunk).trans h.capacity, h.initial, h.ceiling⟩
    show (b.put chunk).contents = q.bytes ++ chunk.take (q.capacity - q.bytes.length)
    rw [contents_put, h.contents, room, h.capacity, hlength]
  | consume n =>
    refine ⟨?_, (capacity_consume b n).trans h.capacity, h.initial, h.ceiling⟩
    show (b.consume n).contents = q.bytes.drop (min n q.bytes.length)
    rw [contents_consume, h.contents]
    rcases Nat.le_total n q.bytes.length with hle | hle
    · rw [Nat.min_eq_left hle]
    · rw [Nat.min_eq_right hle, List.drop_length, List.drop_of_length_le hle]
  | grow =>
    show (b.grow?.getD b).Shows least most { q with capacity := min (q.capacity * 2) most }
    cases hgrow : b.grow? with
    | none =>
      -- Twice the largest capacity is no less than the largest.
      have hfull := grow?_eq_none.1 hgrow
      refine ⟨h.contents, ?_, h.initial, h.ceiling⟩
      show b.capacity = min (q.capacity * 2) most
      rw [← h.capacity, ← h.ceiling]
      omega
    | some c =>
      refine ⟨(contents_grow? hgrow).trans h.contents, ?_, (initial_grow? hgrow).trans h.initial,
        (ceiling_grow? hgrow).trans h.ceiling⟩
      show c.capacity = min (q.capacity * 2) most
      rw [capacity_grow? hgrow, h.capacity, h.ceiling]
  | reset => exact ⟨contents_reset b, (capacity_reset b).trans h.initial, h.initial, h.ceiling⟩

theorem shows_new (initial ceiling : Nat) :
    (new initial ceiling).Shows (smallest initial ceiling) (largest ceiling)
      ⟨[], smallest initial ceiling⟩ :=
  ⟨rfl, List.length_replicate, rfl, rfl⟩

/-- Whatever was done, a buffer shows the queue to which the same was done. -/
theorem shows_run (initial ceiling : Nat) (acts : List Act) :
    ((new initial ceiling).run acts).Shows (smallest initial ceiling) (largest ceiling)
      (ByteQueue.run (smallest initial ceiling) (largest ceiling) acts) := by
  have hstart := shows_new initial ceiling
  unfold run ByteQueue.run
  generalize new initial ceiling = b, ByteQueue.mk [] (smallest initial ceiling) = q at hstart
  induction acts generalizing b q with
  | nil => exact hstart
  | cons a acts ih => exact ih _ _ (hstart.act a)

/-! ### The bounds -/

/-- The spare part of a buffer that has grown is longer than before. -/
theorem room_lt_grow? (h : b.grow? = some c) : b.room < c.room := by
  have hle := b.filled_le
  have hlt := capacity_lt_grow? h
  simp only [room, filled_grow? h]
  simp only [capacity] at hlt ⊢
  omega

/-- Under a ceiling that is a word, doubling in words that stop at the last one comes to the same
capacity. -/
theorem capacity_grow?_of_word (h : b.grow? = some c) (hword : b.ceiling < 2 ^ 64) :
    c.capacity = min (min (b.capacity * 2) (2 ^ 64 - 1)) b.ceiling := by
  rw [capacity_grow? h]
  omega

/-- **A buffer is a bounded queue**, whatever was done to it.  It has the bytes of the queue filled
in, and room for a number of bytes that is the first one doubled some times, or the largest.
Filling in writes what fits and counts what it wrote.  A buffer cannot grow exactly when it is as
large as it may be, and then stays as it is.  One that has grown has more room and the same
bytes. -/
theorem run_bounded_queue {initial ceiling : Nat} {acts : List Act}
    (hrun : (new initial ceiling).run acts = b) :
    b.contents = (ByteQueue.run (smallest initial ceiling) (largest ceiling) acts).bytes ∧
      (∃ j, b.capacity = min (smallest initial ceiling * 2 ^ j) (largest ceiling)) ∧
      b.filled ≤ b.capacity ∧ b.capacity ≤ largest ceiling ∧
      (∀ chunk, b.act (.fill chunk) = (b.write chunk).advance (min chunk.length b.room) ∧
        (b.write chunk).contents = b.contents ∧
        (b.act (.fill chunk)).filled = b.filled + min chunk.length b.room) ∧
      (b.grow? = none ↔ b.capacity = largest ceiling) ∧
      (b.grow? = none → b.act .grow = b) ∧
      ∀ c, b.grow? = some c → b.act .grow = c ∧ c.contents = b.contents ∧ b.room < c.room ∧
        (largest ceiling < 2 ^ 64 →
          c.capacity = min (min (b.capacity * 2) (2 ^ 64 - 1)) (largest ceiling)) := by
  have hshows := shows_run initial ceiling acts
  rw [hrun] at hshows
  obtain ⟨j, hj⟩ := ByteQueue.doubled_run (smallest_le initial ceiling) acts
  have hle : b.capacity ≤ b.ceiling := b.storage_le
  refine ⟨hshows.contents, ⟨j, hshows.capacity.trans hj⟩, b.filled_le, hshows.ceiling ▸ hle, ?_, ?_,
    ?_, ?_⟩
  · intro chunk
    exact ⟨put_eq_advance_write b chunk, contents_write b chunk, filled_put b chunk⟩
  · rw [← hshows.ceiling]
    exact grow?_eq_none
  · intro hnone
    rw [act, hnone, Option.getD_none]
  · intro c hgrow
    refine ⟨by rw [act, hgrow, Option.getD_some], contents_grow? hgrow, room_lt_grow? hgrow, ?_⟩
    intro hword
    rw [← hshows.ceiling] at hword ⊢
    exact capacity_grow?_of_word hgrow hword

/-- Bytes that left are still in the storage, and the ceiling is met on the second doubling. -/
def reused : List Act :=
  [.fill [1, 2, 3, 4, 5, 6], .consume 3, .fill [7, 8], .grow, .fill [9], .grow, .consume 1]

theorem run_bounded_queue_reused :
    ((new 4 10).run reused).contents = [7, 8, 9] ∧
      ((new 4 10).run reused).storage = [7, 8, 9, 9, 0, 0, 0, 0, 0, 0] ∧
      (new 4 10).run (reused ++ [.grow]) = (new 4 10).run reused ∧
      ((new 4 10).run (reused ++ [.reset])).capacity = 4 := by
  have hrun : (new 4 10).run reused = (new 4 10).run reused := rfl
  obtain ⟨hcontents, -, -, -, -, hgrow, hkept, -⟩ := run_bounded_queue hrun
  refine ⟨hcontents.trans (by decide), by decide, ?_, by decide⟩
  rw [run, List.foldl_append]
  exact hkept (hgrow.2 (by decide))

end Buffer

end WebSocket
