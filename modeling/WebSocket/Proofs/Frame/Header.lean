import WebSocket.Proofs.Frame.Incremental

/-!
# The fields of a header

Each field of a header can be written in more than one way: three bits of the first byte are free,
and a short length may be written in a long form.  A reader takes every such spelling, and it takes
nothing else.

## Main definitions

* `LengthForm` — the three ways to write a length.
* `Frame.firstByte`, `Frame.maskBit`, `Frame.maskBytes` — the other fields as they are written.

## Main results

* `Frame.readFirst_eq_ok`, `Frame.readLength_eq_some_iff`, `Frame.readMask_eq_some_iff` — **what
  each field is read from.**
-/

namespace WebSocket

/-- How the length of a payload is written. -/
inductive LengthForm
  /-- In the second byte itself. -/
  | inline
  /-- In two bytes behind it. -/
  | short
  /-- In eight bytes behind it. -/
  | long
  deriving DecidableEq, Repr

namespace LengthForm

/-- How many bytes behind the second one are there for the length. -/
def width : LengthForm → Nat
  | inline => 0
  | short => 2
  | long => 8

/-- What the seven low bits of the second byte say. -/
def code (n : Nat) : LengthForm → Nat
  | inline => n
  | short => 126
  | long => 127

/-- The form can write the length. -/
def Fits (n : Nat) : LengthForm → Prop
  | inline => n ≤ Frame.inlineMax
  | short => n < Bytes.range 2
  | long => n < Bytes.range 8

instance (n : Nat) : (form : LengthForm) → Decidable (form.Fits n)
  | inline => inferInstanceAs (Decidable (n ≤ Frame.inlineMax))
  | short => inferInstanceAs (Decidable (n < Bytes.range 2))
  | long => inferInstanceAs (Decidable (n < Bytes.range 8))

theorem code_lt {form : LengthForm} {n : Nat} (h : form.Fits n) : form.code n < 128 := by
  cases form <;> simp only [Fits, code, Frame.inlineMax] at h ⊢ <;> omega

/-- What the second byte says tells the forms apart. -/
theorem eq_of_code {form form' : LengthForm} {n n' : Nat} (h : form.Fits n) (h' : form'.Fits n')
    (hcode : form.code n = form'.code n') : form = form' := by
  cases form <;> cases form' <;>
    simp only [Fits, code, Frame.inlineMax, reduceCtorEq] at h h' hcode ⊢ <;> omega

end LengthForm

namespace Frame

/-- The first byte of a frame. -/
def firstByte (fin : Bool) (opcode : Opcode) : UInt8 := (if fin then 0x80 else 0) ||| opcode.code

/-- The bit that announces a mask. -/
def maskBit (masked : Bool) : UInt8 := if masked then 0x80 else 0

/-- What holds of 256 bytes holds of all. -/
theorem forall_byte {P : UInt8 → Prop} (h : ∀ n < 256, P (UInt8.ofNat n)) (b : UInt8) : P b := by
  have hb := h b.toNat b.toNat_lt
  rwa [UInt8.ofNat_toNat] at hb

/-! ### The two first bytes -/

/-- The bits of a first byte do not touch each other. -/
theorem first_byte (fin : Bool) (opcode : Opcode) : ∀ reserved : Fin 8,
    (firstByte fin opcode ||| UInt8.ofNat (16 * reserved)) &&& 0x0F = opcode.code ∧
      ((firstByte fin opcode ||| UInt8.ofNat (16 * reserved)) &&& 0x80 != 0) = fin := by
  cases fin <;> cases opcode <;> decide +kernel

/-- Every first byte is the final bit, four bits of an opcode and three bits that say nothing. -/
theorem first_byte_eq : ∀ b : UInt8,
    b = (if (b &&& 0x80 != 0) = true then 0x80 else 0) ||| (b &&& 0x0F) |||
      UInt8.ofNat (16 * (b.toNat / 16 % 8)) :=
  forall_byte (by decide +kernel)

/-- **What a first byte is read from.**  A control frame has to be final, and the three bits between
the final bit and the opcode do not matter. -/
theorem readFirst_eq_ok {b : UInt8} {fin : Bool} {opcode : Opcode} :
    readFirst b = .ok (fin, opcode) ↔
      (∃ reserved : Fin 8, b = firstByte fin opcode ||| UInt8.ofNat (16 * reserved)) ∧
        (opcode.isControl = true → fin = true) := by
  constructor
  · intro h
    simp only [readFirst] at h
    split at h
    · simp at h
    · next op hop =>
      split at h
      · simp at h
      · next hwhole =>
        obtain ⟨rfl, rfl⟩ : (b &&& 0x80 != 0) = fin ∧ op = opcode := by simpa using h
        refine ⟨⟨⟨b.toNat / 16 % 8, Nat.mod_lt _ (by decide)⟩, ?_⟩, ?_⟩
        · rw [firstByte, ← Opcode.ofCode?_eq_some.1 hop]
          exact first_byte_eq b
        · intro hcontrol
          simpa [hcontrol] using hwhole
  · rintro ⟨⟨reserved, rfl⟩, hwhole⟩
    obtain ⟨hcode, hfin⟩ := first_byte fin opcode reserved
    have hnot : ¬ (opcode.isControl && !fin) = true := by
      rw [Bool.and_eq_true, Bool.not_eq_true']
      rintro ⟨hcontrol, hopen⟩
      simp [hwhole hcontrol] at hopen
    simp only [readFirst, hcode, hfin, Opcode.ofCode?_code, if_neg hnot]

/-- The low bits of a second byte, and the bit that announces a mask, do not touch each other. -/
theorem second_byte (masked : Bool) : ∀ code < 128,
    ((maskBit masked ||| UInt8.ofNat code) &&& 0x7F).toNat = code ∧
      ((maskBit masked ||| UInt8.ofNat code) &&& 0x80 == 0) = !masked := by
  revert masked
  decide +kernel

/-- Every second byte is such a bit and seven low bits. -/
theorem second_byte_eq : ∀ b : UInt8, (b &&& 0x7F).toNat < 128 ∧
    b = maskBit (!(b &&& 0x80 == 0)) ||| UInt8.ofNat (b &&& 0x7F).toNat :=
  forall_byte (by decide +kernel)

/-! ### Lengths -/

/-- Reading a number from the `k` bytes that follow. -/
theorem readWord_eq_some {k width n : Nat} {bytes rest : Bytes} :
    (Bytes.take? k bytes).map (fun (front, rest) => (Bytes.toNatBE front, k, rest)) =
        some (n, width, rest) ↔
      n < Bytes.range k ∧ width = k ∧ bytes = Bytes.ofNatBE k n ++ rest := by
  constructor
  · intro h
    obtain ⟨⟨front, tail⟩, hcut, hsaid⟩ := Option.map_eq_some_iff.1 h
    obtain ⟨rfl, rfl, rfl⟩ : Bytes.toNatBE front = n ∧ k = width ∧ tail = rest := by
      simpa using hsaid
    obtain ⟨rfl, hlen⟩ := Bytes.take?_eq_some.1 hcut
    obtain ⟨hback, hrange⟩ := Bytes.ofNatBE_toNatBE hlen
    exact ⟨hrange, rfl, by rw [hback]⟩
  · rintro ⟨hrange, rfl, rfl⟩
    have hcut : Bytes.take? width (Bytes.ofNatBE width n ++ rest) =
        some (Bytes.ofNatBE width n, rest) :=
      Bytes.take?_eq_some.2 ⟨rfl, Bytes.length_ofNatBE width n⟩
    simp only [hcut, Option.map_some, Bytes.toNatBE_ofNatBE hrange]

/-- Where the second byte announces further bytes, the length is what they say. -/
theorem readLength_eq_some_of_escape {form : LengthForm} (hform : form ≠ .inline) {second : UInt8}
    (hcode : (second &&& 0x7F).toNat = form.code 0) {bytes rest : Bytes} {n width : Nat} :
    readLength second bytes = some (n, width, rest) ↔
      form.Fits n ∧ width = form.width ∧ bytes = Bytes.ofNatBE form.width n ++ rest := by
  cases form with
  | inline => exact absurd rfl hform
  | short =>
    simp only [readLength, hcode, LengthForm.code, if_true, if_neg (show ¬ 2 = 0 by decide)]
    exact readWord_eq_some
  | long =>
    simp only [readLength, hcode, LengthForm.code, if_neg (show ¬ 127 = 126 by decide), if_true,
      if_neg (show ¬ 8 = 0 by decide)]
    exact readWord_eq_some

/-- **A length is read from each form that can write it**, and from nothing else. -/
theorem readLength_eq_some_iff {second : UInt8} {bytes rest : Bytes} {n width : Nat} :
    readLength second bytes = some (n, width, rest) ↔
      ∃ form : LengthForm, form.Fits n ∧ (second &&& 0x7F).toNat = form.code n ∧
        width = form.width ∧ bytes = Bytes.ofNatBE form.width n ++ rest := by
  have hsmall := (second_byte_eq second).1
  by_cases hescape : ∃ form ≠ LengthForm.inline, (second &&& 0x7F).toNat = form.code 0
  · obtain ⟨form, hform, hcode⟩ := hescape
    have hzero : form.Fits 0 := by cases form <;> decide
    have hany : form.code 0 = form.code n := by cases form <;> first | rfl | exact absurd rfl hform
    rw [readLength_eq_some_of_escape hform hcode]
    constructor
    · rintro ⟨hfits, hwidth, hbytes⟩
      exact ⟨form, hfits, hcode.trans hany, hwidth, hbytes⟩
    · rintro ⟨form', hfits, hcode', hwidth, hbytes⟩
      obtain rfl := LengthForm.eq_of_code hzero hfits (hcode.symm.trans hcode')
      exact ⟨hfits, hwidth, hbytes⟩
  · -- The second byte is the length itself.
    have hshort : (second &&& 0x7F).toNat ≠ 126 := fun h => hescape ⟨.short, by decide, h⟩
    have hlong : (second &&& 0x7F).toNat ≠ 127 := fun h => hescape ⟨.long, by decide, h⟩
    simp only [readLength, if_neg hshort, if_neg hlong, if_true, Option.some.injEq, Prod.mk.injEq]
    constructor
    · rintro ⟨rfl, rfl, rfl⟩
      refine ⟨.inline, ?_, rfl, rfl, rfl⟩
      simp only [LengthForm.Fits, inlineMax]
      omega
    · rintro ⟨form, hfits, hcode, rfl, rfl⟩
      cases form with
      | inline => exact ⟨hcode, rfl, rfl⟩
      | short => exact absurd hcode hshort
      | long => exact absurd hcode hlong

/-! ### Masks -/

/-- The bytes of a mask in a header. -/
def maskBytes : Option MaskKey → Bytes
  | some key => key.bytes
  | none => []

theorem length_maskBytes (mask : Option MaskKey) : (maskBytes mask).length = maskWidth mask := by
  cases mask <;> rfl

/-- A mask is read from its bytes, where the second byte announces one. -/
theorem readMask_eq_some_iff {second : UInt8} {bytes : Bytes} {mask : Option MaskKey} :
    readMask second bytes = some mask ↔
      (second &&& 0x80 == 0) = !mask.isSome ∧ maskBytes mask <+: bytes := by
  unfold readMask
  by_cases hbit : (second &&& 0x80 == 0) = true
  · rw [if_pos hbit, hbit]
    cases mask with
    | none => simp [maskBytes]
    | some key => simp
  · rw [if_neg hbit, eq_false_of_ne_true hbit]
    cases mask with
    | none => simp
    | some key =>
      -- Four bytes are there and are the key, or the key is not read.
      obtain ⟨k0, k1, k2, k3⟩ := key
      constructor
      · intro h
        obtain ⟨key, hkey, hsame⟩ := Option.map_eq_some_iff.1 h
        obtain rfl : key = ⟨k0, k1, k2, k3⟩ := by simpa using hsame
        unfold MaskKey.ofBytes? at hkey
        split at hkey
        · next a b c d hfour =>
          obtain ⟨rfl, rfl, rfl, rfl⟩ : a = k0 ∧ b = k1 ∧ c = k2 ∧ d = k3 := by simpa using hkey
          have hcut := List.take_append_drop 4 bytes
          rw [hfour] at hcut
          exact ⟨rfl, bytes.drop 4, hcut⟩
        · simp at hkey
      · rintro ⟨-, rest, rfl⟩
        rfl

end Frame

end WebSocket
