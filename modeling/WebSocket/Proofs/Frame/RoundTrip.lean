import WebSocket.Proofs.Frame.Written

/-!
# Frames read back

A server and its clients send frames in one way only: with the free bits empty, and with the length
in its shortest form.  Such a frame is one of those that can be written, so it is read back from its
bytes, at any position and with anything around it, and so are frames sent one after the other.

## Main definitions

* `Sent` — a frame to be sent; `Sent.bytes` are its bytes.
* `Sent.written` — the choices made for it.
* `Sent.Proper` — what a reader asks of a frame.
* `Sent.frameAt`, `Sent.framesAt` — the frames a reader finds.
* `Sent.wire` — the bytes of frames one after the other.

## Main results

* `Sent.bytes_written` — a frame is sent as it is written with these choices.
* `Frame.encode_reads_back` — **a frame is read back where it was put.**
* `Sent.map_part_framesAt` — **opcodes and payloads are read back.**
* `Sent.scan_single`, `Sent.scan_wire` — **so are the frames of a message.**
-/

namespace WebSocket

/-! ### The shortest form of a length -/

namespace Frame

/-- What the low bits of the second byte say of a length. -/
def lengthCode (n : Nat) : Nat := if n ≤ inlineMax then n else if n < shortLimit then 126 else 127

/-- The bytes of a length behind the second byte. -/
def lengthBytes (n : Nat) : Bytes :=
  if n ≤ inlineMax then [] else Bytes.ofNatBE (if n < shortLimit then 2 else 8) n

theorem encodeLength_eq (bit : UInt8) (n : Nat) :
    encodeLength bit n = (bit ||| UInt8.ofNat (lengthCode n)) :: lengthBytes n := by
  unfold encodeLength lengthCode lengthBytes
  by_cases hinline : n ≤ inlineMax
  · simp only [if_pos hinline]
  · by_cases hshort : n < shortLimit
    · simp only [if_neg hinline, if_pos hshort]
      rfl
    · simp only [if_neg hinline, if_neg hshort]
      rfl

end Frame

namespace LengthForm

/-- The shortest form that can write a length. -/
def shortest (n : Nat) : LengthForm :=
  if n ≤ Frame.inlineMax then inline else if n < Frame.shortLimit then short else long

theorem code_shortest (n : Nat) : (shortest n).code n = Frame.lengthCode n := by
  unfold shortest Frame.lengthCode
  split
  · rfl
  · split <;> rfl

theorem ofNatBE_shortest (n : Nat) : Bytes.ofNatBE (shortest n).width n = Frame.lengthBytes n := by
  unfold shortest Frame.lengthBytes
  split
  · rfl
  · split <;> rfl

/-- A length that can be told in 64 bits is told in its shortest form. -/
theorem fits_shortest {n : Nat} (h : n < Text.wordLimit) : (shortest n).Fits n := by
  unfold shortest
  split
  · next hinline => exact hinline
  · split
    · next hshort => exact hshort
    · exact h

end LengthForm

/-! ### A frame to be sent -/

/-- A frame to be sent. -/
structure Sent where
  opcode : Opcode
  fin : Bool
  payload : Bytes
  mask : Option MaskKey
  deriving DecidableEq, Repr

namespace Sent

/-- The bytes of the frame. -/
def bytes (s : Sent) : Bytes := Frame.encode s.opcode s.fin s.payload s.mask

/-- The bytes before the payload. -/
def header (s : Sent) : Bytes :=
  Frame.firstByte s.fin s.opcode ::
    (Frame.encodeLength (Frame.maskBit s.mask.isSome) s.payload.length ++ Frame.maskBytes s.mask)

/-- The payload as it stands on the wire. -/
def body (s : Sent) : Bytes :=
  match s.mask with
  | some key => key.apply s.payload
  | none => s.payload

/-- What a message takes from the frame. -/
def part (s : Sent) : Part := ⟨s.opcode, s.payload⟩

/-- What a reader asks of a frame: a control frame is the last of its message, and the payload is
within the limit. -/
structure Proper (limit : Nat) (s : Sent) : Prop where
  whole : s.opcode.isControl = true → s.fin = true
  fits : s.payload.length ≤ limit

/-- The frame that a reader finds at position `start`. -/
def frameAt (s : Sent) (start : Nat) : Frame :=
  ⟨start, s.fin, s.opcode, s.mask, s.header.length, s.payload.length⟩

/-- The choices made for the frame. -/
def written (s : Sent) : Written :=
  ⟨s.opcode, s.fin, 0, .shortest s.payload.length, s.payload, s.mask⟩

theorem header_written (s : Sent) : s.written.header = s.header := by
  have hfirst : Frame.firstByte s.fin s.opcode ||| UInt8.ofNat (16 * (0 : Fin 8)) =
      Frame.firstByte s.fin s.opcode := UInt8.or_zero
  simp only [Written.header, written, header, hfirst, LengthForm.code_shortest,
    LengthForm.ofNatBE_shortest, Frame.encodeLength_eq, List.cons_append]

/-- **A frame is sent as it is written with these choices.** -/
theorem bytes_written (s : Sent) : s.written.bytes = s.bytes := by
  have hbody : s.written.body = s.body := rfl
  rw [Written.bytes, header_written, hbody]
  obtain ⟨opcode, fin, payload, mask⟩ := s
  cases mask <;> simp [bytes, header, body, Frame.encode, Frame.firstByte, Frame.maskBit,
    Frame.maskBytes]

theorem frameAt_written (s : Sent) (start : Nat) : s.written.frameAt start = s.frameAt start := by
  rw [Written.frameAt, header_written]
  rfl

variable {limit : Nat}

theorem proper_written (hword : limit < Text.wordLimit) {s : Sent} (hs : s.Proper limit) :
    s.written.Proper limit :=
  ⟨hs.whole, LengthForm.fits_shortest (Nat.lt_of_le_of_lt hs.fits hword), hs.fits⟩

/-! ### One frame among other bytes -/

/-- **A frame is found where it was put**, whatever stands before and behind it. -/
theorem parse_bytes (hword : limit < Text.wordLimit) {s : Sent} (hs : s.Proper limit)
    (before after : Bytes) :
    Frame.parse limit (before ++ s.bytes ++ after) before.length =
      .ok (some (s.frameAt before.length)) := by
  have hdrop : (before ++ s.bytes ++ after).drop before.length = s.written.bytes ++ after := by
    rw [List.append_assoc, List.drop_left, bytes_written]
  rw [Frame.parse, hdrop, Written.parseHead_bytes (proper_written hword hs), frameAt_written]

/-- It ends where its bytes end. -/
theorem stop_frameAt (s : Sent) (before : Bytes) :
    (s.frameAt before.length).stop = (before ++ s.bytes).length := by
  rw [← frameAt_written, Written.stop_frameAt, bytes_written, List.length_append]

/-- Its payload is the one that was sent, the mask taken off. -/
theorem payload_frameAt (s : Sent) (before after : Bytes) :
    (s.frameAt before.length).payload (before ++ s.bytes ++ after) = s.payload := by
  have hpayload := Written.payload_frameAt s.written before after
  rwa [frameAt_written, bytes_written] at hpayload

/-! ### Frames one after the other -/

/-- The bytes of frames one after the other. -/
def wire (frames : List Sent) : Bytes := frames.flatMap bytes

/-- The frames that a reader finds from position `start` on. -/
def framesAt : (start : Nat) → List Sent → List Frame
  | _, [] => []
  | start, s :: rest => s.frameAt start :: framesAt (start + s.bytes.length) rest

theorem wire_written (frames : List Sent) : Written.wire (frames.map written) = wire frames := by
  rw [Written.wire, wire, List.flatMap_map]
  simp only [bytes_written]

theorem framesAt_written (start : Nat) (frames : List Sent) :
    Written.framesAt start (frames.map written) = framesAt start frames := by
  induction frames generalizing start with
  | nil => rfl
  | cons s rest ih =>
    rw [List.map_cons, Written.framesAt, framesAt, frameAt_written, bytes_written, ih]

theorem totalLength_framesAt (start : Nat) (frames : List Sent) :
    Frame.totalLength (framesAt start frames) = (wire frames).length := by
  rw [← framesAt_written, Written.totalLength_framesAt, wire_written]

theorem framesAt_concat (start : Nat) (front : List Sent) (last : Sent) :
    framesAt start (front ++ [last]) =
      framesAt start front ++ [last.frameAt (start + (wire front).length)] := by
  rw [← framesAt_written, List.map_append, List.map_singleton, Written.framesAt_concat,
    framesAt_written, wire_written, frameAt_written]

/-- Every frame that a reader finds was sent. -/
theorem mem_framesAt {start : Nat} {frames : List Sent} {f : Frame}
    (h : f ∈ framesAt start frames) : ∃ s ∈ frames, ∃ position, f = s.frameAt position := by
  induction frames generalizing start with
  | nil => simp [framesAt] at h
  | cons s rest ih =>
    rcases List.mem_cons.1 h with rfl | hrest
    · exact ⟨s, List.mem_cons_self .., start, rfl⟩
    · obtain ⟨s', hs', position, rfl⟩ := ih hrest
      exact ⟨s', List.mem_cons_of_mem s hs', position, rfl⟩

/-- **The frames that a reader finds have the opcodes and payloads that were sent.** -/
theorem map_part_framesAt (frames : List Sent) (before after : Bytes) :
    (framesAt before.length frames).map (Frame.part (before ++ wire frames ++ after)) =
      frames.map part := by
  rw [← framesAt_written, ← wire_written, Written.map_part_framesAt, List.map_map]
  rfl

/-- Another frame of a message may follow: it is a control frame, or not the last data frame. -/
def Goes (s : Sent) : Prop := s.opcode.isControl = true ∨ s.fin = false

/-- A frame that is a message by itself is read back. -/
theorem scan_single (hword : limit < Text.wordLimit) {s : Sent} (hfin : s.fin = true)
    (hs : s.Proper limit) (more : Bytes) :
    Frame.scan limit (wire [s] ++ more) = .ok (some (framesAt 0 [s])) := by
  refine Written.scanFrom_eq_some.2
    ⟨[s.written], ⟨more, ?_⟩, (framesAt_written 0 [s]).symm, ?_⟩
  · rw [← wire_written, List.map_singleton]
  · have hproper := proper_written hword hs
    cases hcontrol : s.opcode.isControl with
    | true => exact .inl ⟨rfl, s.written, rfl, hproper, hcontrol⟩
    | false => exact .inr ⟨[], s.written, rfl, Written.runs_nil.2 ⟨hproper, hcontrol, hfin⟩⟩

/-- **A message that a data frame opens is read back.** -/
theorem scan_wire (hword : limit < Text.wordLimit) {first last : Sent} {middle : List Sent}
    (hfirst : first.opcode.isControl = false ∧ first.fin = false)
    (hgoes : ∀ s ∈ middle, s.Goes) (hlast : last.opcode.isControl = false ∧ last.fin = true)
    (hproper : ∀ s ∈ first :: (middle ++ [last]), s.Proper limit)
    (hends : ∀ f ∈ framesAt 0 (first :: middle), f.stop ≤ limit) (more : Bytes) :
    Frame.scan limit (wire (first :: (middle ++ [last])) ++ more) =
      .ok (some (framesAt 0 (first :: (middle ++ [last])))) := by
  have hsplit : (first :: (middle ++ [last])).map written =
      (first :: middle).map written ++ [last.written] := by
    rw [← List.cons_append, List.map_append, List.map_singleton]
  have hruns : Written.Runs limit 0 true ((first :: middle).map written) last.written := by
    constructor
    · rw [← hsplit]
      intro w hw
      obtain ⟨s, hs, rfl⟩ := List.mem_map.1 hw
      exact proper_written hword (hproper s hs)
    · intro w hw
      obtain ⟨s, hs, rfl⟩ := List.mem_map.1 hw
      rcases List.mem_cons.1 hs with rfl | hs
      · exact .inr hfirst.2
      · exact hgoes s hs
    · exact hlast
    · intro _ w hw
      obtain rfl : first.written = w := by simpa using hw
      exact hfirst.1
    · rwa [framesAt_written]
  have hscan := Written.scanFrom_of_runs hruns more
  rwa [← hsplit, wire_written, framesAt_written] at hscan

end Sent

/-- **A frame is read back where it was put.**  At the position behind `before`, and with anything
behind it, a reader finds a frame that starts there, with the opcode, the final bit and the mask
that were written.  It ends where its bytes end, and its payload, the mask taken off, is the one
that was written.  The limit is a number of 64 bits. -/
theorem Frame.encode_reads_back {limit : Nat} (hword : limit < Text.wordLimit) (opcode : Opcode)
    (fin : Bool) (hwhole : opcode.isControl = true → fin = true) (payload : Bytes)
    (hfits : payload.length ≤ limit) (mask : Option MaskKey) (before after : Bytes) :
    ∃ f, Frame.parse limit (before ++ Frame.encode opcode fin payload mask ++ after)
        before.length = .ok (some f) ∧
      f.start = before.length ∧ f.opcode = opcode ∧ f.fin = fin ∧ f.mask = mask ∧
      f.stop = (before ++ Frame.encode opcode fin payload mask).length ∧
      f.payload (before ++ Frame.encode opcode fin payload mask ++ after) = payload := by
  let s : Sent := ⟨opcode, fin, payload, mask⟩
  exact ⟨s.frameAt before.length, s.parse_bytes hword ⟨hwhole, hfits⟩ before after, rfl, rfl, rfl,
    rfl, s.stop_frameAt before, s.payload_frameAt before after⟩

/-- The shortest payload whose length takes two bytes, masked, in a ping behind three other bytes,
under a limit that it just meets. -/
theorem Frame.encode_reads_back_ping :
    126 < Text.wordLimit ∧ (List.replicate 126 (0x61 : UInt8)).length ≤ 126 ∧
      ∃ f, Frame.parse 126 ([1, 2, 3] ++
          Frame.encode .ping true (List.replicate 126 0x61) (some ⟨5, 6, 7, 8⟩) ++ [9]) 3 =
            .ok (some f) ∧
        f.start = 3 ∧ f.opcode = .ping ∧ f.fin = true ∧ f.mask = some ⟨5, 6, 7, 8⟩ ∧
        f.stop = 137 ∧
        f.payload ([1, 2, 3] ++
          Frame.encode .ping true (List.replicate 126 0x61) (some ⟨5, 6, 7, 8⟩) ++ [9]) =
            List.replicate 126 0x61 := by
  have hlength : ([1, 2, 3] ++
      Frame.encode .ping true (List.replicate 126 0x61) (some ⟨5, 6, 7, 8⟩)).length = 137 := by
    decide +kernel
  have hfits : (List.replicate 126 (0x61 : UInt8)).length ≤ 126 :=
    Nat.le_of_eq List.length_replicate
  obtain ⟨f, hf, hstart, hopcode, hfin, hmask, hstop, hpayload⟩ :=
    Frame.encode_reads_back (by decide) .ping true (fun _ => rfl) _ hfits (some ⟨5, 6, 7, 8⟩)
      [1, 2, 3] [9]
  exact ⟨by decide, hfits, f, hf, hstart, hopcode, hfin, hmask, hstop.trans hlength, hpayload⟩

end WebSocket
