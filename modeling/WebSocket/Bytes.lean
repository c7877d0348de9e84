/-!
# Byte strings

Everything that crosses a socket is a list of bytes.  This file fixes that type and the
big-endian words inside it.

## Main definitions

* `Bytes` — a byte string.
* `Bytes.reaches` — whether there are at least `n` bytes.
* `Bytes.take?` — the first `n` bytes and the rest, if there are that many.
* `Bytes.toNatBE`, `Bytes.ofNatBE` — big-endian reading and writing of a number.

## Main results

* `Bytes.take?_eq_some` — `take?` cuts its argument in two.
* `Bytes.toNatBE_ofNatBE` — a number that fits in `k` bytes reads back.
* `Bytes.ofNatBE_toNatBE` — every `k` bytes write a number.
-/

namespace WebSocket

/-- A byte string. -/
abbrev Bytes := List UInt8

namespace Bytes

/-- Whether there are at least `n` bytes.  Bytes after these are not looked at, so that a short unit
at the head of a long byte string is found in a time that depends on the unit only. -/
def reaches : (n : Nat) → Bytes → Bool
  | 0, _ => true
  | _ + 1, [] => false
  | n + 1, _ :: rest => reaches n rest

@[simp] theorem reaches_iff {n : Nat} {bytes : Bytes} :
    reaches n bytes = true ↔ n ≤ bytes.length := by
  induction n generalizing bytes with
  | zero => simp [reaches]
  | succ n ih =>
    cases bytes with
    | nil => simp [reaches]
    | cons b rest => simp [reaches, ih]

/-- The first `n` bytes and the rest, or nothing when there are fewer than `n`. -/
def take? (n : Nat) (bytes : Bytes) : Option (Bytes × Bytes) :=
  if reaches n bytes then some (bytes.take n, bytes.drop n) else none

theorem take?_eq_some {n : Nat} {bytes front rest : Bytes} :
    take? n bytes = some (front, rest) ↔ bytes = front ++ rest ∧ front.length = n := by
  unfold take?
  constructor
  · intro h
    split at h
    · next hn =>
      obtain ⟨rfl, rfl⟩ : bytes.take n = front ∧ bytes.drop n = rest := by simpa using h
      exact ⟨(List.take_append_drop n bytes).symm, by simp [reaches_iff.1 hn]⟩
    · simp at h
  · rintro ⟨rfl, rfl⟩
    simp

theorem take?_append (front rest : Bytes) :
    take? front.length (front ++ rest) = some (front, rest) :=
  take?_eq_some.2 ⟨rfl, rfl⟩

/-- The number written in `bytes`, most significant byte first. -/
def toNatBE (bytes : Bytes) : Nat := bytes.foldl (fun acc b => acc * 256 + b.toNat) 0

/-- The `k` lowest bytes of `n`, most significant byte first. -/
def ofNatBE : (k : Nat) → (n : Nat) → Bytes
  | 0, _ => []
  | k + 1, n => ofNatBE k (n / 256) ++ [UInt8.ofNat n]

@[simp] theorem length_ofNatBE (k n : Nat) : (ofNatBE k n).length = k := by
  induction k generalizing n with
  | zero => rfl
  | succ k ih => simp [ofNatBE, ih]

theorem toNatBE_append_singleton (bytes : Bytes) (b : UInt8) :
    toNatBE (bytes ++ [b]) = toNatBE bytes * 256 + b.toNat := by
  simp [toNatBE]

/-- How many numbers `k` bytes can write. -/
def range : (k : Nat) → Nat
  | 0 => 1
  | k + 1 => range k * 256

/-- A number that fits in `k` bytes reads back. -/
theorem toNatBE_ofNatBE {k n : Nat} (h : n < range k) : toNatBE (ofNatBE k n) = n := by
  induction k generalizing n with
  | zero =>
    obtain rfl : n = 0 := by simpa [range] using h
    rfl
  | succ k ih =>
    have hk : n / 256 < range k := by
      rw [range] at h
      omega
    rw [ofNatBE, toNatBE_append_singleton, ih hk]
    simp
    omega

/-- `k` bytes are the number they write, written in `k` bytes. -/
theorem ofNatBE_toNatBE {k : Nat} {bytes : Bytes} (h : bytes.length = k) :
    ofNatBE k (toNatBE bytes) = bytes ∧ toNatBE bytes < range k := by
  induction k generalizing bytes with
  | zero =>
    obtain rfl := List.length_eq_zero_iff.1 h
    exact ⟨rfl, by decide⟩
  | succ k ih =>
    obtain ⟨front, b, rfl⟩ := (List.eq_nil_or_concat bytes).resolve_left (by rintro rfl; simp at h)
    rw [List.concat_eq_append] at h ⊢
    obtain ⟨hfront, hrange⟩ := @ih front (by simpa using h)
    have hbyte : b.toNat < 256 := b.toNat_lt
    have hdiv : (toNatBE front * 256 + b.toNat) / 256 = toNatBE front := by omega
    have hlast : UInt8.ofNat (toNatBE front * 256 + b.toNat) = b := by
      apply UInt8.toNat.inj
      rw [UInt8.toNat_ofNat']
      omega
    rw [toNatBE_append_singleton, ofNatBE, hdiv, hlast, hfront, range]
    exact ⟨rfl, by omega⟩

end Bytes

end WebSocket
