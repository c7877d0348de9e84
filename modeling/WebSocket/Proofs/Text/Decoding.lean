import WebSocket.Text.Utf8

/-!
# Texts are read as they were written

Tolerant reading replaces what is ill-formed.  The bytes of a text are well-formed, so nothing of it
is replaced, and bytes that follow the text do not change how it is read.

## Main definitions

* `Text.Utf8.low` — the byte that carries the lowest six bits of a number.

## Main results

* `Text.Utf8.next_utf8EncodeChar` — the first character is read from its own bytes.
* `Text.Utf8.decode_utf8_append` — **a text is read as it was written**, whatever follows it.
* `Text.mem_utf8_iff` — a byte of ASCII only stands for its own character.
-/

namespace WebSocket

namespace Text

@[simp] theorem utf8_append (s t : String) : utf8 (s ++ t) = utf8 s ++ utf8 t := by
  simp [utf8, String.toUTF8]

/-- The bytes of a text are the bytes of its characters, one after the other. -/
theorem utf8_eq_flatMap (s : String) : utf8 s = s.toList.flatMap String.utf8EncodeChar := by
  rw [← utf8_ofList, String.ofList_toList]

namespace Utf8

/-! ### Single bytes -/

/-- The byte that carries the lowest six bits of a number, behind the first byte of a character. -/
def low (n : Nat) : UInt8 := UInt8.ofNat (n % 64 + 128)

theorem toNat_ofNat_of_lt {n : Nat} (h : n < 256) : (UInt8.ofNat n).toNat = n := by
  rw [UInt8.toNat_ofNat']
  omega

theorem toNat_low (n : Nat) : (low n).toNat = n % 64 + 128 := toNat_ofNat_of_lt (by omega)

@[simp] theorem isContinuation_low (n : Nat) : isContinuation (low n) = true := by
  have hall : ∀ m < 64, isContinuation (UInt8.ofNat (m + 128)) = true := by decide
  exact hall _ (Nat.mod_lt n (by decide))

@[simp] theorem tail_low (n : Nat) : tail (low n) = n % 64 := by
  rw [tail, toNat_low]
  omega

theorem within_iff {first last b : UInt8} :
    (first ≤ b && b ≤ last) = true ↔ first.toNat ≤ b.toNat ∧ b.toNat ≤ last.toNat := by
  rw [Bool.and_eq_true, decide_eq_true_eq, decide_eq_true_eq, UInt8.le_iff_toNat_le,
    UInt8.le_iff_toNat_le]

/-- The number of a character is less than that of the first surrogate, or more than that of the
last, and no more than U+10FFFF. -/
theorem toNat_bounds (c : Char) : c.toNat < 0xD800 ∨ 0xDFFF < c.toNat ∧ c.toNat < 0x110000 :=
  c.valid

/-! ### One character

There is one lemma for each number of bytes.  The first byte is given by its number, so that the
ranges that send the reader into the branch are linear arithmetic. -/

theorem next_one {v : Nat} (h : v < 0x80) (rest : Bytes) :
    next (UInt8.ofNat v) rest = (Char.ofNat v, 0) := by
  have hv : (UInt8.ofNat v).toNat = v := toNat_ofNat_of_lt (by omega)
  have hfirst : UInt8.ofNat v < 0x80 := UInt8.lt_iff_toNat_lt.2 (hv.symm ▸ h)
  simp only [next, if_pos hfirst, hv]

theorem next_two {b : UInt8} {v : Nat} (hb : b.toNat = v / 64 + 0xC0) (h : 0x80 ≤ v)
    (h' : v < 0x800) (rest : Bytes) : next b (low v :: rest) = (Char.ofNat v, 1) := by
  have hone : ¬ b < 0x80 := by
    simp only [UInt8.lt_iff_toNat_lt, UInt8.reduceToNat]
    omega
  have htwo : (0xC2 ≤ b && b ≤ 0xDF) = true := by
    simp only [within_iff, UInt8.reduceToNat]
    omega
  have hv : b.toNat % 32 * 64 + tail (low v) = v := by
    rw [tail_low]
    omega
  simp only [next, if_neg hone, if_pos htwo, isContinuation_low, if_true, hv]

theorem next_three {b : UInt8} {v : Nat} (hb : b.toNat = v / 4096 + 0xE0) (h : 0x800 ≤ v)
    (h' : v < 0x10000) (hsurrogate : v < 0xD800 ∨ 0xDFFF < v) (rest : Bytes) :
    next b (low (v / 64) :: low v :: rest) = (Char.ofNat v, 2) := by
  have hone : ¬ b < 0x80 := by
    simp only [UInt8.lt_iff_toNat_lt, UInt8.reduceToNat]
    omega
  have htwo : ¬ (0xC2 ≤ b && b ≤ 0xDF) = true := by
    simp only [within_iff, UInt8.reduceToNat]
    omega
  have hthree : (0xE0 ≤ b && b ≤ 0xEF) = true := by
    simp only [within_iff, UInt8.reduceToNat]
    omega
  have hsecond : isSecondOfThree b (low (v / 64)) = true := by
    have hlow := toNat_low (v / 64)
    unfold isSecondOfThree
    simp only [beq_iff_eq, ← UInt8.toNat_inj, UInt8.reduceToNat]
    -- The first byte tells how much of the range of the second one is left.
    split
    · simp only [within_iff, UInt8.reduceToNat]
      omega
    · split
      · simp only [within_iff, UInt8.reduceToNat]
        omega
      · simp only [within_iff, UInt8.reduceToNat]
        omega
  have hv : b.toNat % 16 * 4096 + tail (low (v / 64)) * 64 + tail (low v) = v := by
    rw [tail_low, tail_low]
    omega
  simp only [next, if_neg hone, if_neg htwo, if_pos hthree, if_pos hsecond, isContinuation_low,
    if_true, hv]

theorem next_four {b : UInt8} {v : Nat} (hb : b.toNat = v / 262144 + 0xF0) (h : 0x10000 ≤ v)
    (h' : v < 0x110000) (rest : Bytes) :
    next b (low (v / 4096) :: low (v / 64) :: low v :: rest) = (Char.ofNat v, 3) := by
  have hone : ¬ b < 0x80 := by
    simp only [UInt8.lt_iff_toNat_lt, UInt8.reduceToNat]
    omega
  have htwo : ¬ (0xC2 ≤ b && b ≤ 0xDF) = true := by
    simp only [within_iff, UInt8.reduceToNat]
    omega
  have hthree : ¬ (0xE0 ≤ b && b ≤ 0xEF) = true := by
    simp only [within_iff, UInt8.reduceToNat]
    omega
  have hfour : (0xF0 ≤ b && b ≤ 0xF4) = true := by
    simp only [within_iff, UInt8.reduceToNat]
    omega
  have hsecond : isSecondOfFour b (low (v / 4096)) = true := by
    have hlow := toNat_low (v / 4096)
    unfold isSecondOfFour
    simp only [beq_iff_eq, ← UInt8.toNat_inj, UInt8.reduceToNat]
    split
    · simp only [within_iff, UInt8.reduceToNat]
      omega
    · split
      · simp only [within_iff, UInt8.reduceToNat]
        omega
      · simp only [within_iff, UInt8.reduceToNat]
        omega
  have hv : b.toNat % 8 * 262144 + tail (low (v / 4096)) * 4096 + tail (low (v / 64)) * 64 +
      tail (low v) = v := by
    rw [tail_low, tail_low, tail_low]
    omega
  simp only [next, if_neg hone, if_neg htwo, if_neg hthree, if_pos hfour, if_pos hsecond,
    isContinuation_low, if_true, hv]

/-- **The first character is read from its own bytes**, and from all of them. -/
theorem next_utf8EncodeChar (c : Char) :
    ∃ b behind, String.utf8EncodeChar c = b :: behind ∧
      ∀ rest, next b (behind ++ rest) = (c, behind.length) := by
  have hc : Char.ofNat c.toNat = c := Char.ofNat_toNat c
  have hbounds := toNat_bounds c
  generalize hv : c.toNat = v at hc hbounds
  have hval : c.val.toNat = v := hv
  subst hc
  simp only [String.utf8EncodeChar, hval]
  by_cases hone : v ≤ 127
  · rw [if_pos hone]
    exact ⟨_, [], rfl, next_one (by omega)⟩
  rw [if_neg hone]
  by_cases htwo : v ≤ 2047
  · rw [if_pos htwo]
    have hb : (UInt8.ofNat (v / 64 % 32 + 192)).toNat = v / 64 + 0xC0 := by
      rw [toNat_ofNat_of_lt (by omega)]
      omega
    exact ⟨_, [low v], rfl, next_two hb (by omega) (by omega)⟩
  rw [if_neg htwo]
  by_cases hthree : v ≤ 65535
  · rw [if_pos hthree]
    have hb : (UInt8.ofNat (v / 4096 % 16 + 224)).toNat = v / 4096 + 0xE0 := by
      rw [toNat_ofNat_of_lt (by omega)]
      omega
    exact ⟨_, [low (v / 64), low v], rfl, next_three hb (by omega) (by omega) (by omega)⟩
  · rw [if_neg hthree]
    have hb : (UInt8.ofNat (v / 262144 % 8 + 240)).toNat = v / 262144 + 0xF0 := by
      rw [toNat_ofNat_of_lt (by omega)]
      omega
    exact ⟨_, [low (v / 4096), low (v / 64), low v], rfl, next_four hb (by omega) (by omega)⟩

/-! ### Texts -/

theorem decode_utf8EncodeChar_append (c : Char) (bytes : Bytes) :
    decode (String.utf8EncodeChar c ++ bytes) = c :: decode bytes := by
  obtain ⟨b, behind, hc, hnext⟩ := next_utf8EncodeChar c
  rw [hc, List.cons_append, decode, hnext, List.drop_left]

/-- **A text is read as it was written**, whatever follows it. -/
theorem decode_utf8_append (s : String) (bytes : Bytes) :
    decode (utf8 s ++ bytes) = s.toList ++ decode bytes := by
  rw [utf8_eq_flatMap]
  induction s.toList with
  | nil => rfl
  | cons c cs ih =>
    rw [List.flatMap_cons, List.append_assoc, decode_utf8EncodeChar_append, ih, List.cons_append]

@[simp] theorem decode_utf8 (s : String) : decode (utf8 s) = s.toList := by
  have h := decode_utf8_append s []
  rwa [List.append_nil, decode, List.append_nil] at h

theorem utf8EncodeChar_of_lt {c : Char} (h : c.toNat < 0x80) :
    String.utf8EncodeChar c = [UInt8.ofNat c.toNat] := if_pos (Nat.le_of_lt_succ h)

/-- No byte of a character outside of ASCII is a byte of ASCII. -/
theorem le_of_mem_utf8EncodeChar {c : Char} (h : 0x80 ≤ c.toNat) {b : UInt8}
    (hb : b ∈ String.utf8EncodeChar c) : 0x80 ≤ b.toNat := by
  have hone : ¬ c.val.toNat ≤ 127 := Nat.not_le.2 h
  -- Every byte is made of some bits and a mark above them.
  have hmark : ∀ {n mark : Nat}, b = UInt8.ofNat (n + mark) → n + mark < 256 → 0x80 ≤ mark →
      0x80 ≤ b.toNat := by
    rintro n mark rfl hlt hle
    rw [toNat_ofNat_of_lt hlt]
    omega
  rw [String.utf8EncodeChar, if_neg hone] at hb
  split at hb
  · simp only [List.mem_cons, List.not_mem_nil, or_false] at hb
    rcases hb with hb | hb <;> exact hmark hb (by omega) (by omega)
  · split at hb
    · simp only [List.mem_cons, List.not_mem_nil, or_false] at hb
      rcases hb with hb | hb | hb <;> exact hmark hb (by omega) (by omega)
    · simp only [List.mem_cons, List.not_mem_nil, or_false] at hb
      rcases hb with hb | hb | hb | hb <;> exact hmark hb (by omega) (by omega)

theorem mem_utf8EncodeChar_iff {c d : Char} (h : c.toNat < 0x80) :
    UInt8.ofNat c.toNat ∈ String.utf8EncodeChar d ↔ c = d := by
  have hc : (UInt8.ofNat c.toNat).toNat = c.toNat := toNat_ofNat_of_lt (by omega)
  rcases Nat.lt_or_ge d.toNat 0x80 with hd | hd
  · rw [utf8EncodeChar_of_lt hd, List.mem_singleton, ← UInt8.toNat_inj, hc,
      toNat_ofNat_of_lt (by omega), Char.toNat_inj]
  · constructor
    · intro hmem
      have := le_of_mem_utf8EncodeChar hd hmem
      omega
    · rintro rfl
      omega

end Utf8

/-- **A byte of ASCII only stands for its own character.** -/
theorem mem_utf8_iff {c : Char} (h : c.toNat < 0x80) {s : String} :
    UInt8.ofNat c.toNat ∈ utf8 s ↔ c ∈ s.toList := by
  simp only [utf8_eq_flatMap, List.mem_flatMap, Utf8.mem_utf8EncodeChar_iff h, exists_eq_right']

end Text
end WebSocket
