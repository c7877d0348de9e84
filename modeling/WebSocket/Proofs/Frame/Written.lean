import WebSocket.Proofs.Frame.Header
import WebSocket.Proofs.Message.Assembly

/-!
# The grammar of frames

Whoever writes a frame has choices that do not change what it says: three free bits, the form of the
length, a mask.  A frame together with these choices has one spelling, and a reader finds a frame
exactly where such a spelling stands.  The same holds for the frames of a message.

## Main definitions

* `Written` — a frame with the choices of its writer; `Written.bytes` is its spelling.
* `Written.Proper` — what a reader asks of a frame.
* `Written.frameAt`, `Written.framesAt` — the frames a reader finds.
* `Written.wire` — the bytes of frames one after the other.
* `Written.Runs` — frames that a data frame closes.
* `Written.Whole` — the frames of one message.

## Main results

* `Written.parseHead_eq_some`, `Written.parseHead_bytes` — **exactly the frames that can be written
  are read.**
* `Written.payload_frameAt`, `Written.map_part_framesAt` — their payloads are read back.
* `Written.scanFrom_eq_some`, `Written.scan_eq_some` — **exactly the frames of one message are
  found.**
-/

namespace WebSocket

/-- A frame as it is written, with every choice that the writer has. -/
structure Written where
  opcode : Opcode
  fin : Bool
  /-- The three bits of the first byte that say nothing. -/
  reserved : Fin 8
  form : LengthForm
  /-- The payload as it is meant. -/
  payload : Bytes
  mask : Option MaskKey
  deriving DecidableEq, Repr

namespace Written

/-- The bytes before the payload. -/
def header (w : Written) : Bytes :=
  (Frame.firstByte w.fin w.opcode ||| UInt8.ofNat (16 * w.reserved)) ::
    (Frame.maskBit w.mask.isSome ||| UInt8.ofNat (w.form.code w.payload.length)) ::
    (Bytes.ofNatBE w.form.width w.payload.length ++ Frame.maskBytes w.mask)

/-- The payload as it stands on the wire. -/
def body (w : Written) : Bytes :=
  match w.mask with
  | some key => key.apply w.payload
  | none => w.payload

/-- The bytes of the frame. -/
def bytes (w : Written) : Bytes := w.header ++ w.body

/-- What a message takes from the frame. -/
def part (w : Written) : Part := ⟨w.opcode, w.payload⟩

/-- What a reader asks of a frame. -/
structure Proper (limit : Nat) (w : Written) : Prop where
  /-- A control frame is the last of its message. -/
  whole : w.opcode.isControl = true → w.fin = true
  /-- The length can be written as it is. -/
  told : w.form.Fits w.payload.length
  /-- The payload is within the limit. -/
  fits : w.payload.length ≤ limit

/-- The frame that a reader finds at position `start`. -/
def frameAt (w : Written) (start : Nat) : Frame :=
  ⟨start, w.fin, w.opcode, w.mask, w.header.length, w.payload.length⟩

@[simp] theorem length_body (w : Written) : w.body.length = w.payload.length := by
  unfold body
  split <;> simp

theorem length_header (w : Written) :
    w.header.length = 2 + w.form.width + Frame.maskWidth w.mask := by
  simp only [header, List.length_cons, List.length_append, Bytes.length_ofNatBE,
    Frame.length_maskBytes]
  omega

theorem length_bytes (w : Written) : w.bytes.length = w.header.length + w.payload.length := by
  rw [bytes, List.length_append, length_body]

theorem stop_frameAt (w : Written) (start : Nat) :
    (w.frameAt start).stop = start + w.bytes.length := by
  rw [length_bytes]
  rfl

variable {limit : Nat}

/-- **Exactly the headers that can be written are read.** -/
theorem parse_eq_some {data : Bytes} {h : Frame.Header} :
    Frame.Header.parse limit data = .ok (some h) ↔
      ∃ w : Written, w.Proper limit ∧ w.header <+: data ∧
        h = ⟨w.fin, w.opcode, w.mask, w.header.length, w.payload.length⟩ := by
  rw [Frame.Header.parse_eq_some]
  constructor
  · rintro ⟨first, second, rest, width, rest', rfl, hfirst, hlen, hle, hmask, hsize⟩
    obtain ⟨⟨reserved, rfl⟩, hwhole⟩ := Frame.readFirst_eq_ok.1 hfirst
    obtain ⟨form, hfits, hcode, rfl, rfl⟩ := Frame.readLength_eq_some_iff.1 hlen
    obtain ⟨hbit, rest, rfl⟩ := Frame.readMask_eq_some_iff.1 hmask
    -- A payload of the announced length, whatever its bytes are.
    let w : Written := ⟨h.opcode, h.fin, reserved, form, List.replicate h.payloadLength 0, h.mask⟩
    have hpayload : w.payload.length = h.payloadLength := List.length_replicate
    have hsecond : second =
        Frame.maskBit h.mask.isSome ||| UInt8.ofNat (form.code h.payloadLength) := by
      have hb := (Frame.second_byte_eq second).2
      rw [hbit, hcode, Bool.not_not] at hb
      exact hb
    refine ⟨w, ⟨hwhole, by rw [hpayload]; exact hfits, by rw [hpayload]; exact hle⟩, ⟨rest, ?_⟩, ?_⟩
    · rw [header, hpayload, hsecond]
      simp [w]
    · rw [length_header, hpayload]
      cases h
      simp only at hsize
      rw [hsize]
  · rintro ⟨w, hw, ⟨rest, rfl⟩, rfl⟩
    obtain ⟨hlow, hbit⟩ := Frame.second_byte w.mask.isSome _ (LengthForm.code_lt hw.told)
    refine ⟨_, _, _, w.form.width, Frame.maskBytes w.mask ++ rest, rfl,
      Frame.readFirst_eq_ok.2 ⟨⟨w.reserved, rfl⟩, hw.whole⟩,
      Frame.readLength_eq_some_iff.2 ⟨w.form, hw.told, hlow, rfl, ?_⟩, hw.fits,
      Frame.readMask_eq_some_iff.2 ⟨hbit, List.prefix_append ..⟩, length_header w⟩
    exact List.append_assoc ..

/-- A header tells the length of the payload only. -/
theorem header_of_length {w : Written} {payload : Bytes} (h : payload.length = w.payload.length) :
    { w with payload }.header = w.header := by
  simp only [header, h]

/-- **Exactly the frames that can be written are read.** -/
theorem parseHead_eq_some {start : Nat} {data : Bytes} {f : Frame} :
    Frame.parseHead limit start data = .ok (some f) ↔
      ∃ w : Written, w.Proper limit ∧ w.bytes <+: data ∧ f = w.frameAt start := by
  rw [Frame.parseHead_eq_some]
  constructor
  · rintro ⟨h, hh, hfits, rfl⟩
    obtain ⟨w, hw, ⟨rest, rfl⟩, rfl⟩ := parse_eq_some.1 hh
    have hlen : (rest.take w.payload.length).length = w.payload.length := by
      simp only [List.length_append] at hfits
      rw [List.length_take]
      omega
    -- The same header, with the payload that stands behind it.
    let payload := { w with payload := rest.take w.payload.length }.body
    have hpayload : payload.length = w.payload.length := by
      rw [length_body]
      exact hlen
    have hbody : { w with payload }.body = rest.take w.payload.length := by
      simp only [payload, body]
      cases w.mask with
      | none => rfl
      | some key => exact key.apply_apply _
    refine ⟨{ w with payload }, ⟨hw.whole, ?_, ?_⟩, ⟨rest.drop w.payload.length, ?_⟩, ?_⟩
    · exact hpayload ▸ hw.told
    · exact hpayload ▸ hw.fits
    · rw [bytes, header_of_length hpayload, hbody, List.append_assoc, List.take_append_drop]
    · simp only [frameAt, header_of_length hpayload, hpayload, Frame.Header.frameAt]
  · rintro ⟨w, hw, hprefix, rfl⟩
    refine ⟨_, parse_eq_some.2 ⟨w, hw, (List.prefix_append _ _).trans hprefix, rfl⟩, ?_, rfl⟩
    rw [← length_bytes]
    exact hprefix.length_le

/-- **A frame is read back from its bytes.** -/
theorem parseHead_bytes {w : Written} (hw : w.Proper limit) (start : Nat) (rest : Bytes) :
    Frame.parseHead limit start (w.bytes ++ rest) = .ok (some (w.frameAt start)) :=
  parseHead_eq_some.2 ⟨w, hw, List.prefix_append .., rfl⟩

/-- **The payload of a frame is read back**, wherever the frame stands. -/
theorem payload_frameAt (w : Written) (before after : Bytes) :
    (w.frameAt before.length).payload (before ++ w.bytes ++ after) = w.payload := by
  have hwire : (w.frameAt before.length).wirePayload (before ++ w.bytes ++ after) = w.body := by
    have hdata : before ++ w.bytes ++ after = before ++ w.header ++ (w.body ++ after) := by
      simp only [bytes, List.append_assoc]
    have hstart : (w.frameAt before.length).payloadStart = (before ++ w.header).length := by
      rw [List.length_append]
      rfl
    rw [Frame.wirePayload, hdata, hstart, List.drop_left]
    exact List.take_left' (length_body w)
  rw [Frame.payload, hwire]
  unfold Frame.unmask body frameAt
  cases w.mask with
  | none => rfl
  | some key => exact MaskKey.apply_apply key w.payload

/-! ### Frames one after the other -/

/-- The bytes of frames one after the other. -/
def wire (ws : List Written) : Bytes := ws.flatMap bytes

/-- The frames that a reader finds from position `start` on. -/
def framesAt : (start : Nat) → List Written → List Frame
  | _, [] => []
  | start, w :: rest => w.frameAt start :: framesAt (start + w.bytes.length) rest

@[simp] theorem wire_cons (w : Written) (rest : List Written) :
    wire (w :: rest) = w.bytes ++ wire rest :=
  List.flatMap_cons

theorem wire_single (w : Written) : wire [w] = w.bytes :=
  List.flatMap_singleton ..

theorem totalLength_framesAt (start : Nat) (ws : List Written) :
    Frame.totalLength (framesAt start ws) = (wire ws).length := by
  induction ws generalizing start with
  | nil => rfl
  | cons w rest ih =>
    rw [framesAt, Frame.totalLength, ih, wire_cons, List.length_append, length_bytes]
    rfl

theorem framesAt_concat (start : Nat) (front : List Written) (last : Written) :
    framesAt start (front ++ [last]) =
      framesAt start front ++ [last.frameAt (start + (wire front).length)] := by
  induction front generalizing start with
  | nil => rfl
  | cons w front ih =>
    rw [List.cons_append, framesAt, framesAt, ih, wire_cons, List.length_append, Nat.add_assoc]
    rfl

/-- The frames that a reader finds have the masks that were written. -/
theorem map_mask_framesAt (start : Nat) (ws : List Written) :
    (framesAt start ws).map (·.mask) = ws.map (·.mask) := by
  induction ws generalizing start with
  | nil => rfl
  | cons w rest ih =>
    rw [framesAt, List.map_cons, List.map_cons, ih]
    rfl

/-- **The frames that a reader finds have the opcodes and payloads that were written.** -/
theorem map_part_framesAt (ws : List Written) (before after : Bytes) :
    (framesAt before.length ws).map (Frame.part (before ++ wire ws ++ after)) = ws.map part := by
  induction ws generalizing before with
  | nil => rfl
  | cons w rest ih =>
    -- The first frame is read as it stands, the others from behind it.
    have hhead : before ++ wire (w :: rest) ++ after =
        before ++ w.bytes ++ (wire rest ++ after) := by
      simp only [wire_cons, List.append_assoc]
    have htail : before ++ wire (w :: rest) ++ after = before ++ w.bytes ++ wire rest ++ after := by
      simp only [wire_cons, List.append_assoc]
    have hrest := ih (before ++ w.bytes)
    rw [List.length_append] at hrest
    rw [framesAt, List.map_cons, List.map_cons, htail, hrest, ← htail, hhead, Frame.part,
      payload_frameAt]
    rfl

/-! ### The frames of a message -/

/-- Another frame of a message may follow: it is a control frame, or not the last data frame. -/
def Goes (w : Written) : Prop := w.opcode.isControl = true ∨ w.fin = false

/-- The last data frame of a message. -/
def Closes (w : Written) : Prop := w.opcode.isControl = false ∧ w.fin = true

/-- Frames from position `start` on that a data frame closes, the `last` one.  Those in `front`
leave the message open and end in time; where a message begins (`opens`), the first of all is a data
frame. -/
structure Runs (limit start : Nat) (opens : Bool) (front : List Written) (last : Written) :
    Prop where
  proper : ∀ w ∈ front ++ [last], w.Proper limit
  goes : ∀ w ∈ front, w.Goes
  closes : last.Closes
  opened : opens = true → ∀ w ∈ (front ++ [last]).head?, w.opcode.isControl = false
  ends : ∀ f ∈ framesAt start front, f.stop ≤ limit

theorem runs_nil {start : Nat} {opens : Bool} {last : Written} :
    Runs limit start opens [] last ↔ last.Proper limit ∧ last.Closes := by
  constructor
  · exact fun h => ⟨h.proper last (by simp), h.closes⟩
  · rintro ⟨hproper, hcloses⟩
    refine ⟨by simpa using hproper, by simp, hcloses, ?_, by simp [framesAt]⟩
    intro _ w hw
    obtain rfl : last = w := by simpa using hw
    exact hcloses.1

theorem runs_cons {start : Nat} {opens : Bool} {w last : Written} {front : List Written} :
    Runs limit start opens (w :: front) last ↔
      w.Proper limit ∧ w.Goes ∧ (opens = true → w.opcode.isControl = false) ∧
        start + w.bytes.length ≤ limit ∧ Runs limit (start + w.bytes.length) false front last := by
  constructor
  · intro h
    refine ⟨h.proper w (by simp), h.goes w (by simp), fun ho => h.opened ho w (by simp), ?_, ?_⟩
    · rw [← stop_frameAt]
      exact h.ends _ (List.mem_cons_self ..)
    · exact ⟨fun w' hw' => h.proper w' (List.mem_cons_of_mem w hw'),
        fun w' hw' => h.goes w' (List.mem_cons_of_mem w hw'), h.closes, by simp,
        fun f hf => h.ends f (List.mem_cons_of_mem _ hf)⟩
  · rintro ⟨hproper, hgoes, hopened, hstop, h⟩
    refine ⟨?_, ?_, h.closes, ?_, ?_⟩
    · exact List.forall_mem_cons.2 ⟨hproper, h.proper⟩
    · exact List.forall_mem_cons.2 ⟨hgoes, h.goes⟩
    · intro ho w' hw'
      obtain rfl : w = w' := by simpa using hw'
      exact hopened ho
    · rw [framesAt]
      refine List.forall_mem_cons.2 ⟨?_, h.ends⟩
      rw [stop_frameAt]
      exact hstop

@[simp] theorem length_frameAt (w : Written) (start : Nat) :
    (w.frameAt start).length = w.bytes.length :=
  (length_bytes w).symm

theorem endsSequence_frameAt (w : Written) (start : Nat) (opens : Bool) :
    (w.frameAt start).endsSequence opens = true ↔
      (opens = true ∧ w.opcode.isControl = true) ∨ w.Closes := by
  change (if w.opcode.isControl = true then opens else w.fin) = true ↔ _
  unfold Closes
  cases w.opcode.isControl <;> simp

theorem not_endsSequence_frameAt (w : Written) (start : Nat) (opens : Bool) :
    ¬ (w.frameAt start).endsSequence opens = true ↔
      w.Goes ∧ (opens = true → w.opcode.isControl = false) := by
  change ¬ (if w.opcode.isControl = true then opens else w.fin) = true ↔ _
  unfold Goes
  cases w.opcode.isControl <;> simp

/-- The frames that are found are those of a control message, or a data frame closes them.  The
induction follows the search, frame by frame. -/
theorem of_scanFrom_eq_some {start : Nat} {data : Bytes} {opens : Bool} {frames : List Frame}
    (h : Frame.scanFrom limit start data opens = .ok (some frames)) :
    ∃ ws, wire ws <+: data ∧ frames = framesAt start ws ∧
      ((opens = true ∧ ∃ w : Written, ws = [w] ∧ w.Proper limit ∧ w.opcode.isControl = true) ∨
        ∃ front last, ws = front ++ [last] ∧ Runs limit start opens front last) := by
  fun_induction Frame.scanFrom limit start data opens generalizing frames with
  | case1 => simp at h
  | case2 => simp at h
  | case3 start data opens f hf hend =>
    obtain rfl : [f] = frames := by simpa using h
    obtain ⟨w, hw, hprefix, rfl⟩ := parseHead_eq_some.1 hf
    refine ⟨[w], by rwa [wire_single], rfl, ?_⟩
    rcases (endsSequence_frameAt w start opens).1 hend with ⟨hopens, hcontrol⟩ | hcloses
    · exact .inl ⟨hopens, w, rfl, hw, hcontrol⟩
    · exact .inr ⟨[], w, rfl, runs_nil.2 ⟨hw, hcloses⟩⟩
  | case4 => simp at h
  | case5 start data opens f hf hend hlim ih =>
    obtain ⟨fs, hfs, rfl⟩ := Frame.map_cons_eq_some h
    obtain ⟨w, hw, ⟨rest, rfl⟩, rfl⟩ := parseHead_eq_some.1 hf
    obtain ⟨ws, hprefix, rfl, hws⟩ := ih hfs
    obtain ⟨hgoes, hopened⟩ := (not_endsSequence_frameAt w start opens).1 hend
    rw [stop_frameAt] at hlim hws ⊢
    rw [length_frameAt, List.drop_left] at hprefix
    -- A frame came before, so what follows is no control message by itself.
    obtain ⟨front, last, rfl, hruns⟩ := hws.resolve_left (by simp)
    refine ⟨w :: (front ++ [last]), ?_, rfl, .inr ⟨w :: front, last, rfl, ?_⟩⟩
    · rwa [wire_cons, List.prefix_append_right_inj]
    · exact runs_cons.2 ⟨hw, hgoes, hopened, Nat.not_lt.1 hlim, hruns⟩

/-- Frames that a data frame closes are found.  The induction is on the frames before the last. -/
theorem scanFrom_of_runs {start : Nat} {opens : Bool} {front : List Written} {last : Written}
    (h : Runs limit start opens front last) (rest : Bytes) :
    Frame.scanFrom limit start (wire (front ++ [last]) ++ rest) opens =
      .ok (some (framesAt start (front ++ [last]))) := by
  induction front generalizing start opens with
  | nil =>
    obtain ⟨hw, hcloses⟩ := runs_nil.1 h
    rw [List.nil_append, wire_single, Frame.scanFrom_some (parseHead_bytes hw start rest),
      if_pos ((endsSequence_frameAt last start opens).2 (.inr hcloses))]
    rfl
  | cons w front ih =>
    obtain ⟨hw, hgoes, hopened, hstop, hrest⟩ := runs_cons.1 h
    have hwire : wire (w :: front ++ [last]) ++ rest =
        w.bytes ++ (wire (front ++ [last]) ++ rest) := by
      rw [List.cons_append, wire_cons, List.append_assoc]
    have hlim : ¬ (w.frameAt start).stop > limit := by
      rw [stop_frameAt]
      exact Nat.not_lt.2 hstop
    rw [hwire, Frame.scanFrom_some (parseHead_bytes hw start _),
      if_neg ((not_endsSequence_frameAt w start opens).2 ⟨hgoes, hopened⟩), if_neg hlim,
      length_frameAt, List.drop_left, stop_frameAt, ih hrest]
    rfl

/-- From any position on, exactly these frames are found: a control frame where a message begins, or
frames that a data frame closes. -/
theorem scanFrom_eq_some {start : Nat} {data : Bytes} {opens : Bool} {frames : List Frame} :
    Frame.scanFrom limit start data opens = .ok (some frames) ↔
      ∃ ws, wire ws <+: data ∧ frames = framesAt start ws ∧
        ((opens = true ∧ ∃ w : Written, ws = [w] ∧ w.Proper limit ∧ w.opcode.isControl = true) ∨
          ∃ front last, ws = front ++ [last] ∧ Runs limit start opens front last) := by
  constructor
  · exact of_scanFrom_eq_some
  · rintro ⟨ws, ⟨rest, rfl⟩, rfl, ⟨hopens, w, rfl, hw, hcontrol⟩ | ⟨front, last, rfl, hruns⟩⟩
    · rw [wire_single, Frame.scanFrom_some (parseHead_bytes hw start rest),
        if_pos ((endsSequence_frameAt w start opens).2 (.inl ⟨hopens, hcontrol⟩))]
      rfl
    · exact scanFrom_of_runs hruns rest

/-- The frames of one message: a control frame by itself, or frames of which the first and the last
carry data, and only the last of those with data has the final bit. -/
def Whole (ws : List Written) : Prop :=
  (∃ w : Written, ws = [w] ∧ w.opcode.isControl = true) ∨
    ∃ front last, ws = front ++ [last] ∧ last.Closes ∧ (∀ w ∈ front, w.Goes) ∧
      ∀ w ∈ ws.head?, w.opcode.isControl = false

/-- **Exactly the frames of one message are found**, where all but the last end within the limit. -/
theorem scan_eq_some {data : Bytes} {frames : List Frame} :
    Frame.scan limit data = .ok (some frames) ↔
      ∃ ws, wire ws <+: data ∧ frames = framesAt 0 ws ∧ (∀ w ∈ ws, w.Proper limit) ∧
        (∀ f ∈ (framesAt 0 ws).dropLast, f.stop ≤ limit) ∧ Whole ws := by
  rw [Frame.scan, scanFrom_eq_some]
  constructor
  · rintro ⟨ws, hprefix, hframes, ⟨-, w, rfl, hw, hcontrol⟩ | ⟨front, last, rfl, hruns⟩⟩
    · exact ⟨[w], hprefix, hframes, by simpa using hw, by simp [framesAt], .inl ⟨w, rfl, hcontrol⟩⟩
    · refine ⟨front ++ [last], hprefix, hframes, hruns.proper, ?_,
        .inr ⟨front, last, rfl, hruns.closes, hruns.goes, hruns.opened rfl⟩⟩
      rw [framesAt_concat, List.dropLast_concat]
      exact hruns.ends
  · rintro ⟨ws, hprefix, hframes, hproper, hends, hwhole⟩
    refine ⟨ws, hprefix, hframes, ?_⟩
    rcases hwhole with ⟨w, rfl, hcontrol⟩ | ⟨front, last, rfl, hcloses, hgoes, hopened⟩
    · exact .inl ⟨rfl, w, rfl, hproper w (by simp), hcontrol⟩
    · rw [framesAt_concat, List.dropLast_concat] at hends
      exact .inr ⟨front, last, rfl, hproper, hgoes, hcloses, fun _ => hopened, hends⟩

end Written
end WebSocket
