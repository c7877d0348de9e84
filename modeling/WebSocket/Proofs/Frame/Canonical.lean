import WebSocket.Proofs.Frame.RoundTrip

/-!
# The canonical form of a frame

A reader takes more spellings of a frame than a writer uses: three bits of the first byte are free,
and a short length may stand in a longer form.  Among the spellings of a frame exactly one is
canonical, and it is the one that is written.  So a frame that was read and is written anew comes
out byte for byte as it stood if it stood in canonical form, and in another spelling of the same
frame otherwise.

## Main definitions

* `LengthForm.IsShortest` — no narrower form can write a length.
* `Frame.spelling` — the bytes of a frame as they stand in a byte string.
* `Frame.Canonical` — a frame stands there in canonical form.
* `Written.canonical` — the canonical spelling of a written frame.

## Main results

* `LengthForm.isShortest_iff` — the shortest form is the one that is written.
* `Written.bytes_canonical_eq_iff` — **no other spelling has the bytes of the canonical one.**
* `Frame.encode_of_parse` — **a frame is written anew as it stood exactly if it was canonical, and
  is the same frame in any case.**
-/

namespace WebSocket

namespace LengthForm

/-- The form can write the length, and no narrower one can. -/
structure IsShortest (n : Nat) (form : LengthForm) : Prop where
  fits : form.Fits n
  narrowest : ∀ other : LengthForm, other.Fits n → form.width ≤ other.width

/-- Forms of the same width are the same. -/
theorem eq_of_width {form form' : LengthForm} (h : form.width = form'.width) : form = form' := by
  cases form <;> cases form' <;> first | rfl | simp [width] at h

/-- What any form can write, the longest can. -/
theorem lt_of_fits {form : LengthForm} {n : Nat} (h : form.Fits n) : n < Text.wordLimit := by
  cases form <;> simp only [Fits, Frame.inlineMax, Bytes.range, Text.wordLimit] at h ⊢ <;> omega

/-- The form that is written is the narrowest. -/
theorem isShortest_shortest {form : LengthForm} {n : Nat} (h : form.Fits n) :
    (shortest n).IsShortest n where
  fits := fits_shortest (lt_of_fits h)
  narrowest := by
    intro other hother
    unfold shortest
    cases other with
    | inline =>
      have hinline : n ≤ Frame.inlineMax := hother
      exact Nat.le_of_eq (congrArg width (if_pos hinline))
    | short =>
      split
      · exact Nat.zero_le _
      · have hshort : n < Frame.shortLimit := hother
        exact Nat.le_of_eq (congrArg width (if_pos hshort))
    | long =>
      split
      · exact Nat.zero_le _
      · split <;> decide

/-- **The shortest form is the one that is written.** -/
theorem isShortest_iff {form : LengthForm} {n : Nat} (h : form.Fits n) :
    form.IsShortest n ↔ form = shortest n := by
  have hshortest := isShortest_shortest h
  constructor
  · intro hform
    exact eq_of_width (Nat.le_antisymm (hform.narrowest _ hshortest.fits)
      (hshortest.narrowest _ h))
  · rintro rfl
    exact hshortest

end LengthForm

namespace Frame

/-- The bytes of a frame as they stand in `data`. -/
def spelling (f : Frame) (data : Bytes) : Bytes := (data.drop f.start).take f.length

/-- A frame stands in `data` in canonical form. -/
structure Canonical (f : Frame) (data : Bytes) : Prop where
  /-- The three bits between the final bit and the opcode are zero. -/
  reserved : ∃ first, data[f.start]? = some first ∧ first &&& 0x70 = 0
  /-- The low bits of the second byte tell the shortest form of the length. -/
  shortest : ∃ second, ∃ form : LengthForm, data[f.start + 1]? = some second ∧
    (second &&& 0x7F).toNat = form.code f.payloadLength ∧ form.IsShortest f.payloadLength

/-- The free bits of a first byte are those that were written. -/
theorem reserved_bits (fin : Bool) (opcode : Opcode) : ∀ reserved : Fin 8,
    (firstByte fin opcode ||| UInt8.ofNat (16 * reserved)) &&& 0x70 = 0 ↔ reserved = 0 := by
  cases fin <;> cases opcode <;> decide +kernel

end Frame

namespace Written

/-- The frame with the free bits empty and the length in its shortest form. -/
def canonical (w : Written) : Written := Sent.written ⟨w.opcode, w.fin, w.payload, w.mask⟩

variable {limit : Nat} {w : Written}

/-- It is written so. -/
theorem bytes_canonical (w : Written) :
    w.canonical.bytes = Frame.encode w.opcode w.fin w.payload w.mask :=
  Sent.bytes_written ⟨w.opcode, w.fin, w.payload, w.mask⟩

theorem proper_canonical (hw : w.Proper limit) : w.canonical.Proper limit where
  whole := hw.whole
  told := LengthForm.fits_shortest (LengthForm.lt_of_fits hw.told)
  fits := hw.fits

/-- The first byte tells the free bits, and the second one the form of the length. -/
theorem bytes_eq (w : Written) : ∃ rest, w.bytes =
    (Frame.firstByte w.fin w.opcode ||| UInt8.ofNat (16 * w.reserved)) ::
      (Frame.maskBit w.mask.isSome ||| UInt8.ofNat (w.form.code w.payload.length)) :: rest :=
  ⟨_, rfl⟩

/-- **No other spelling has the bytes of the canonical one.** -/
theorem bytes_canonical_eq_iff (hw : w.Proper limit) :
    w.canonical.bytes = w.bytes ↔ w.reserved = 0 ∧ w.form.IsShortest w.payload.length := by
  rw [LengthForm.isShortest_iff hw.told]
  constructor
  · intro h
    obtain ⟨rest, hrest⟩ := w.bytes_eq
    obtain ⟨rest', hrest'⟩ := w.canonical.bytes_eq
    rw [hrest, hrest'] at h
    obtain ⟨hfirst, htail⟩ := List.cons.inj h
    obtain ⟨hsecond, -⟩ := List.cons.inj htail
    have hcanonical := (proper_canonical hw).told
    -- The second byte tells the form in its low bits, and the first one tells the free bits.
    have hcode : w.form.code w.payload.length = w.canonical.form.code w.payload.length := calc
      _ = ((Frame.maskBit w.mask.isSome ||| UInt8.ofNat (w.form.code w.payload.length)) &&&
            0x7F).toNat := (Frame.second_byte _ _ (LengthForm.code_lt hw.told)).1.symm
      _ = _ := congrArg (fun b : UInt8 => (b &&& 0x7F).toNat) hsecond.symm
      _ = w.canonical.form.code w.payload.length :=
        (Frame.second_byte _ _ (LengthForm.code_lt hcanonical)).1
    refine ⟨?_, LengthForm.eq_of_code hw.told hcanonical hcode⟩
    rw [← Frame.reserved_bits w.fin w.opcode, ← hfirst]
    exact (Frame.reserved_bits w.fin w.opcode 0).2 rfl
  · rintro ⟨hreserved, hform⟩
    rw [canonical, Sent.written, ← hreserved, ← hform]

/-- The frame is found canonical where it is written so. -/
theorem canonical_frameAt_iff (hw : w.Proper limit) (before after : Bytes) :
    (w.frameAt before.length).Canonical (before ++ w.bytes ++ after) ↔
      w.reserved = 0 ∧ w.form.IsShortest w.payload.length := by
  obtain ⟨rest, hrest⟩ := w.bytes_eq
  have hlow := (Frame.second_byte w.mask.isSome _ (LengthForm.code_lt hw.told)).1
  have hfirst : (before ++ w.bytes ++ after)[before.length]? =
      some (Frame.firstByte w.fin w.opcode ||| UInt8.ofNat (16 * w.reserved)) := by
    simp [hrest]
  have hsecond : (before ++ w.bytes ++ after)[before.length + 1]? =
      some (Frame.maskBit w.mask.isSome ||| UInt8.ofNat (w.form.code w.payload.length)) := by
    simp [hrest]
  constructor
  · rintro ⟨⟨first, hf, hzero⟩, second, form, hs, hcode, hshortest⟩
    obtain rfl := Option.some.inj (hfirst.symm.trans hf)
    obtain rfl := Option.some.inj (hsecond.symm.trans hs)
    have hform : w.form = form :=
      LengthForm.eq_of_code hw.told hshortest.fits (hlow.symm.trans hcode)
    exact ⟨(Frame.reserved_bits w.fin w.opcode w.reserved).1 hzero, hform ▸ hshortest⟩
  · rintro ⟨hreserved, hshortest⟩
    exact ⟨⟨_, hfirst, (Frame.reserved_bits w.fin w.opcode w.reserved).2 hreserved⟩,
      _, w.form, hsecond, hlow, hshortest⟩

theorem spelling_frameAt (w : Written) (before after : Bytes) :
    (w.frameAt before.length).spelling (before ++ w.bytes ++ after) = w.bytes := by
  have hstart : (w.frameAt before.length).start = before.length := rfl
  rw [Frame.spelling, hstart, List.append_assoc, List.drop_left, length_frameAt, List.take_left]

end Written

namespace Frame

/-- A frame that was read is one of those that can be written, and its bytes stand where it
starts. -/
theorem exists_written_of_parse {limit start : Nat} {data : Bytes} {f : Frame}
    (h : parse limit data start = .ok (some f)) :
    ∃ w : Written, w.Proper limit ∧ ∃ before after : Bytes,
      data = before ++ w.bytes ++ after ∧ f = w.frameAt before.length := by
  obtain ⟨w, hw, ⟨after, hafter⟩, rfl⟩ := Written.parseHead_eq_some.1 h
  have hlong : start < data.length := by
    obtain ⟨rest, hrest⟩ := w.bytes_eq
    have hlength := congrArg List.length hafter
    rw [hrest, List.cons_append, List.length_cons, List.length_drop] at hlength
    omega
  have hbefore : (data.take start).length = start := by
    rw [List.length_take]
    omega
  refine ⟨w, hw, data.take start, after, ?_, by rw [hbefore]⟩
  rw [List.append_assoc, hafter, List.take_append_drop]

/-- **A frame is written anew as it stood exactly if it was canonical**: if the three bits of its
first byte that say nothing were zero, and its length stood in the shortest form.  In any case what
is written is read as a frame with the same opcode, final bit, mask and payload, under the same
limit. -/
theorem encode_of_parse {limit start : Nat} {data : Bytes} {f : Frame}
    (h : parse limit data start = .ok (some f)) :
    (encode f.opcode f.fin (f.payload data) f.mask = f.spelling data ↔ f.Canonical data) ∧
      ∃ g, parse limit (encode f.opcode f.fin (f.payload data) f.mask) 0 = .ok (some g) ∧
        g.opcode = f.opcode ∧ g.fin = f.fin ∧ g.mask = f.mask ∧
        g.payload (encode f.opcode f.fin (f.payload data) f.mask) = f.payload data ∧
        g.stop = (encode f.opcode f.fin (f.payload data) f.mask).length := by
  obtain ⟨w, hw, before, after, rfl, rfl⟩ := exists_written_of_parse h
  have hanew : encode (w.frameAt before.length).opcode (w.frameAt before.length).fin
      ((w.frameAt before.length).payload (before ++ w.bytes ++ after))
      (w.frameAt before.length).mask = w.canonical.bytes := by
    rw [Written.payload_frameAt]
    exact (Written.bytes_canonical w).symm
  rw [hanew, Written.spelling_frameAt, Written.payload_frameAt, Written.canonical_frameAt_iff hw]
  -- What is written is a frame of its own, which is read back with nothing around it.
  refine ⟨Written.bytes_canonical_eq_iff hw, w.canonical.frameAt 0, ?_, rfl, rfl, rfl, ?_, ?_⟩
  · have hread := Written.parseHead_bytes (Written.proper_canonical hw) 0 []
    rwa [List.append_nil] at hread
  · have hpayload := Written.payload_frameAt w.canonical [] []
    rwa [List.append_nil] at hpayload
  · rw [Written.stop_frameAt, Nat.zero_add]

/-- A masked text of two bytes behind another byte, with one of the free bits set and with its
length in two bytes: it is written anew in three bytes less, and is the same text. -/
theorem encode_of_parse_overlong :
    parse 16 [9, 0xC1, 0xFE, 0, 2, 1, 2, 3, 4, 0x69, 0x6B, 7] 1 =
        .ok (some ⟨1, true, .text, some ⟨1, 2, 3, 4⟩, 8, 2⟩) ∧
      ¬ (⟨1, true, .text, some ⟨1, 2, 3, 4⟩, 8, 2⟩ : Frame).Canonical
        [9, 0xC1, 0xFE, 0, 2, 1, 2, 3, 4, 0x69, 0x6B, 7] ∧
      ∃ g, parse 16 (encode .text true [0x68, 0x69] (some ⟨1, 2, 3, 4⟩)) 0 = .ok (some g) ∧
        g.opcode = .text ∧ g.fin = true ∧ g.mask = some ⟨1, 2, 3, 4⟩ ∧
        g.payload (encode .text true [0x68, 0x69] (some ⟨1, 2, 3, 4⟩)) = [0x68, 0x69] ∧
        g.stop = 8 := by
  have hparse : parse 16 [9, 0xC1, 0xFE, 0, 2, 1, 2, 3, 4, 0x69, 0x6B, 7] 1 =
      .ok (some ⟨1, true, .text, some ⟨1, 2, 3, 4⟩, 8, 2⟩) := by cbv
  obtain ⟨hsame, hread⟩ := encode_of_parse hparse
  exact ⟨hparse, fun h => absurd (hsame.2 h) (by decide +kernel), hread⟩

end Frame

end WebSocket
