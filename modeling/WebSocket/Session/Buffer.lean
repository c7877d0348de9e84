import WebSocket.Bytes

/-!
# The receive buffer

Bytes that have arrived but do not make up a unit yet wait in a buffer, which doubles when it is
full, up to a ceiling, and shrinks back when it is empty.  The storage behind the filled part still
holds whatever was there before.

## Main definitions

* `Buffer` — storage, of which a front part is filled.
* `Buffer.contents` — the filled part.
* `Buffer.put`, `Buffer.advance`, `Buffer.consume`, `Buffer.grow?`, `Buffer.reset` — the operations.

## Main results

* `Buffer.contents_put`, `Buffer.contents_consume`, `Buffer.contents_grow?`,
  `Buffer.contents_reset` — what each operation does to the filled part.
* `Buffer.grow?_eq_none`, `Buffer.capacity_grow?` — when a buffer grows, and by how much.
-/

namespace WebSocket

/-- Storage of which the front part is filled. -/
structure Buffer where
  storage : Bytes
  /-- The length of the filled part. -/
  filled : Nat
  /-- The capacity to start with and to shrink back to. -/
  initial : Nat
  /-- The largest capacity. -/
  ceiling : Nat
  filled_le : filled ≤ storage.length
  initial_pos : 0 < initial
  initial_le : initial ≤ storage.length
  storage_le : storage.length ≤ ceiling

namespace Buffer

/-- An empty buffer.  The ceiling is at least one byte, and the capacity to start with is between
one byte and the ceiling. -/
def new (initial ceiling : Nat) : Buffer :=
  let ceiling := max ceiling 1
  let initial := max 1 (min initial ceiling)
  { storage := List.replicate initial 0
    filled := 0
    initial
    ceiling
    filled_le := Nat.zero_le _
    initial_pos := by omega
    initial_le := by simp
    storage_le := by simp only [List.length_replicate]; omega }

/-- The filled part. -/
def contents (b : Buffer) : Bytes := b.storage.take b.filled

/-- How many bytes the storage holds. -/
def capacity (b : Buffer) : Nat := b.storage.length

/-- How many bytes may still be filled. -/
def room (b : Buffer) : Nat := b.capacity - b.filled

def isEmpty (b : Buffer) : Bool := b.filled == 0

def isFull (b : Buffer) : Bool := b.filled == b.capacity

@[simp] theorem length_contents (b : Buffer) : b.contents.length = b.filled := by
  simp [contents, b.filled_le]

/-- `n` more bytes of the storage count as filled, as far as there are that many. -/
def advance (b : Buffer) (n : Nat) : Buffer :=
  { b with
    filled := min (b.filled + n) b.storage.length
    filled_le := Nat.min_le_right _ _ }

/-- The storage with `chunk` written behind the filled part. -/
def overwrite (b : Buffer) (chunk : Bytes) : Bytes :=
  b.contents ++ chunk ++ b.storage.drop (b.filled + chunk.length)

/-- As much of `chunk` as fits, filled in. -/
def put (b : Buffer) (chunk : Bytes) : Buffer :=
  let chunk := chunk.take b.room
  have hlen : (b.overwrite chunk).length = b.storage.length := by
    have := b.filled_le
    simp only [overwrite, List.length_append, length_contents, List.length_drop, chunk,
      List.length_take, room, capacity]
    omega
  { b with
    storage := b.overwrite chunk
    filled := b.filled + chunk.length
    filled_le := by
      have := b.filled_le
      rw [hlen]
      simp only [chunk, List.length_take, room, capacity]
      omega
    initial_le := by rw [hlen]; exact b.initial_le
    storage_le := by rw [hlen]; exact b.storage_le }

/-- The first `n` filled bytes dropped, the others moved to the front. -/
def consume (b : Buffer) (n : Nat) : Buffer :=
  let left := b.filled - n
  have hlen : (b.contents.drop n ++ b.storage.drop left).length = b.storage.length := by
    have := b.filled_le
    simp only [List.length_append, List.length_drop, length_contents, left]
    omega
  { b with
    storage := b.contents.drop n ++ b.storage.drop left
    filled := left
    filled_le := by have := b.filled_le; rw [hlen]; omega
    initial_le := by rw [hlen]; exact b.initial_le
    storage_le := by rw [hlen]; exact b.storage_le }

/-- Twice the capacity, or the ceiling if that is less; nothing when the ceiling is reached. -/
def grow? (b : Buffer) : Option Buffer :=
  if b.capacity < b.ceiling then
    let more := min (b.capacity * 2) b.ceiling - b.capacity
    some { b with
      storage := b.storage ++ List.replicate more 0
      filled_le := by
        have := b.filled_le
        simp only [List.length_append, List.length_replicate]
        omega
      initial_le := by
        have := b.initial_le
        simp only [List.length_append, List.length_replicate]
        omega
      storage_le := by
        have := b.storage_le
        simp only [List.length_append, List.length_replicate, capacity, more]
        omega }
  else none

/-- No byte filled, and the capacity to start with. -/
def reset (b : Buffer) : Buffer :=
  { b with
    storage := b.storage.take b.initial
    filled := 0
    filled_le := Nat.zero_le _
    initial_le := by simp [b.initial_le]
    storage_le := by
      have := b.storage_le
      simp only [List.length_take]
      omega }

/-! ### What the operations do to the filled part -/

@[simp] theorem contents_new (initial ceiling : Nat) : (new initial ceiling).contents = [] := rfl

theorem contents_put (b : Buffer) (chunk : Bytes) :
    (b.put chunk).contents = b.contents ++ chunk.take b.room := by
  have hlen : (b.contents ++ chunk.take b.room).length = b.filled + (chunk.take b.room).length := by
    simp
  show ((b.contents ++ chunk.take b.room) ++ _).take (b.filled + (chunk.take b.room).length) = _
  rw [← hlen, List.take_left]

theorem contents_consume (b : Buffer) (n : Nat) : (b.consume n).contents = b.contents.drop n := by
  have hlen : (b.contents.drop n).length = b.filled - n := by simp
  show (b.contents.drop n ++ _).take (b.filled - n) = _
  rw [← hlen, List.take_left]

theorem contents_grow? {b c : Buffer} (h : b.grow? = some c) : c.contents = b.contents := by
  unfold grow? at h
  split at h
  · obtain rfl := Option.some.inj h
    exact List.take_append_of_le_length b.filled_le
  · simp at h

@[simp] theorem contents_reset (b : Buffer) : b.reset.contents = [] := rfl

@[simp] theorem filled_consume (b : Buffer) (n : Nat) : (b.consume n).filled = b.filled - n := rfl

@[simp] theorem filled_reset (b : Buffer) : b.reset.filled = 0 := rfl

/-! ### What the operations do to the capacity -/

theorem capacity_pos (b : Buffer) : 0 < b.capacity := Nat.lt_of_lt_of_le b.initial_pos b.initial_le

/-- A buffer cannot grow exactly when it is as large as it may be. -/
theorem grow?_eq_none {b : Buffer} : b.grow? = none ↔ b.capacity = b.ceiling := by
  have hle : b.capacity ≤ b.ceiling := b.storage_le
  unfold grow?
  split <;> simp <;> omega

theorem filled_grow? {b c : Buffer} (h : b.grow? = some c) : c.filled = b.filled := by
  rw [← length_contents, contents_grow? h, length_contents]

theorem ceiling_grow? {b c : Buffer} (h : b.grow? = some c) : c.ceiling = b.ceiling := by
  unfold grow? at h
  split at h
  · obtain rfl := Option.some.inj h
    rfl
  · simp at h

theorem initial_grow? {b c : Buffer} (h : b.grow? = some c) : c.initial = b.initial := by
  unfold grow? at h
  split at h
  · obtain rfl := Option.some.inj h
    rfl
  · simp at h

/-- A buffer that has grown is twice as large, or as large as it may be. -/
theorem capacity_grow? {b c : Buffer} (h : b.grow? = some c) :
    c.capacity = min (b.capacity * 2) b.ceiling := by
  have hpos := b.capacity_pos
  unfold grow? at h
  split at h
  · obtain rfl := Option.some.inj h
    simp only [capacity, List.length_append, List.length_replicate] at *
    omega
  · simp at h

/-- A buffer that has grown is larger than before. -/
theorem capacity_lt_grow? {b c : Buffer} (h : b.grow? = some c) : b.capacity < c.capacity := by
  have hpos := b.capacity_pos
  have hgrown := capacity_grow? h
  have hle : b.capacity ≤ b.ceiling := b.storage_le
  have hne : b.capacity ≠ b.ceiling := by
    intro heq
    rw [grow?_eq_none.2 heq] at h
    cases h
  omega

@[simp] theorem capacity_put (b : Buffer) (chunk : Bytes) :
    (b.put chunk).capacity = b.capacity := by
  have hle := b.filled_le
  simp only [put, capacity, overwrite, List.length_append, length_contents, List.length_drop,
    List.length_take, room]
  omega

@[simp] theorem capacity_consume (b : Buffer) (n : Nat) : (b.consume n).capacity = b.capacity := by
  have hle := b.filled_le
  simp only [consume, capacity, List.length_append, List.length_drop, length_contents]
  omega

@[simp] theorem capacity_reset (b : Buffer) : b.reset.capacity = b.initial :=
  List.length_take_of_le b.initial_le

end Buffer

end WebSocket
