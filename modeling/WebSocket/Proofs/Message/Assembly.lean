import WebSocket.Message

/-!
# What a message is made of

Of each frame a message takes the opcode and the payload.  The first data frame decides what kind of
data it is, every further one has to continue it, and control frames stand apart from them.

## Main definitions

* `Part`, `Frame.part` — what a message takes from a frame.
* `Message.assemble` — the message that parts make up.

## Main results

* `Message.ofFrames_eq_assemble` — **frames make up what their parts do.**
* `DataKind.ofOpcodes_eq_some` — data is opened by one frame, and the others continue it.
* `Message.assemble_of_opens` — data that is opened and continued is put together.
* `Message.assemble_eq_error` — what parts are refused for.
* `Frame.payload_take` — a payload does not depend on bytes behind its frame.
-/

namespace WebSocket

/-- What a message takes from a frame. -/
structure Part where
  opcode : Opcode
  payload : Bytes
  deriving DecidableEq, Repr

/-- What a message takes from a frame of the byte string `data`. -/
def Frame.part (data : Bytes) (f : Frame) : Part := ⟨f.opcode, f.payload data⟩

/-- The part carries data. -/
def Part.carries (x : Part) : Bool := !x.opcode.isControl

/-- The control message in a part. -/
def Part.control? (x : Part) : Option Control :=
  (ControlKind.ofOpcode? x.opcode).map fun kind => ⟨kind, x.payload⟩

/-! ### The kind of data -/

namespace DataKind

/-- The opcode that opens data of this kind. -/
def opcode : DataKind → Opcode
  | text => .text
  | binary => .binary

/-- The kind of data that opcodes of data frames make up, if there are any. -/
def ofOpcodes (ops : List Opcode) : Except ProtocolError (Option DataKind) :=
  ops.foldlM (fun kind op => (continued kind op).map some) none

theorem ofFrames_eq_ofOpcodes (frames : List Frame) :
    ofFrames frames = ofOpcodes (frames.map (·.opcode)) := by
  rw [ofFrames, ofOpcodes, List.foldlM_map]

@[simp] theorem isControl_opcode (kind : DataKind) : kind.opcode.isControl = false := by
  cases kind <;> rfl

@[simp] theorem continued_opcode (kind : DataKind) : continued none kind.opcode = .ok kind := by
  cases kind <;> rfl

theorem continued_none_eq_ok {op : Opcode} {kind : DataKind}
    (h : continued none op = .ok kind) : op = kind.opcode := by
  cases op <;> simp [continued] at h <;> subst h <;> rfl

theorem continued_none_eq_error {op : Opcode} {e : ProtocolError}
    (h : continued none op = .error e) : e = .unexpectedContinuation := by
  cases op <;> simp [continued] at h <;> exact h.symm

/-- Data that is open takes continuations and nothing else. -/
theorem foldlM_continued (kind : DataKind) (ops : List Opcode) :
    ops.foldlM (fun kind op => (continued kind op).map some) (some kind) =
      if ∀ op ∈ ops, op = .continuation then .ok (some kind) else .error .expectedContinuation := by
  induction ops with
  | nil => simp [pure, Except.pure]
  | cons op ops ih =>
    rw [List.foldlM_cons]
    by_cases hop : op = .continuation
    · have hstep : (continued (some kind) op).map some = .ok (some kind) := by
        rw [hop]
        rfl
      have hall : (∀ op' ∈ op :: ops, op' = .continuation) ↔ ∀ op' ∈ ops, op' = .continuation := by
        simp [hop]
      simp only [hstep, bind, Except.bind, ih, hall]
    · have hstep : (continued (some kind) op).map some = .error .expectedContinuation := by
        cases op <;> first | rfl | exact absurd rfl hop
      have hnot : ¬ ∀ op' ∈ op :: ops, op' = .continuation := fun h => hop (h op (by simp))
      rw [hstep, if_neg hnot]
      rfl

theorem ofOpcodes_cons (op : Opcode) (ops : List Opcode) :
    ofOpcodes (op :: ops) =
      match continued none op with
      | .error e => .error e
      | .ok kind =>
        if ∀ op ∈ ops, op = .continuation then .ok (some kind)
        else .error .expectedContinuation := by
  rw [ofOpcodes, List.foldlM_cons]
  cases continued none op with
  | error e => rfl
  | ok kind => exact foldlM_continued kind ops

/-- **Data is opened by one frame, and the others continue it.** -/
theorem ofOpcodes_eq_some {ops : List Opcode} {kind : DataKind} :
    ofOpcodes ops = .ok (some kind) ↔
      ∃ rest, ops = kind.opcode :: rest ∧ ∀ op ∈ rest, op = .continuation := by
  constructor
  · intro h
    match ops with
    | [] => simp [ofOpcodes, pure, Except.pure] at h
    | op :: rest =>
      rw [ofOpcodes_cons] at h
      cases hop : continued none op with
      | error e => simp [hop] at h
      | ok kind' =>
        by_cases hall : ∀ op ∈ rest, op = .continuation
        · simp only [hop, if_pos hall] at h
          obtain rfl : kind' = kind := by simpa using h
          exact ⟨rest, by rw [continued_none_eq_ok hop], hall⟩
        · simp only [hop, if_neg hall] at h
          simp at h
  · rintro ⟨rest, rfl, hall⟩
    rw [ofOpcodes_cons, continued_opcode]
    exact if_pos hall

theorem ofOpcodes_eq_none {ops : List Opcode} : ofOpcodes ops = .ok none ↔ ops = [] := by
  constructor
  · intro h
    match ops with
    | [] => rfl
    | op :: rest =>
      rw [ofOpcodes_cons] at h
      cases hop : continued none op with
      | error e => simp [hop] at h
      | ok kind =>
        simp only [hop] at h
        split at h <;> simp at h
  · rintro rfl
    rfl

/-- Data frames are refused for the first one, or for a later one that opens new data. -/
theorem ofOpcodes_eq_error {ops : List Opcode} {e : ProtocolError} (h : ofOpcodes ops = .error e) :
    e = .unexpectedContinuation ∨ e = .expectedContinuation := by
  match ops with
  | [] => simp [ofOpcodes, pure, Except.pure] at h
  | op :: rest =>
    rw [ofOpcodes_cons] at h
    cases hop : continued none op with
    | error e' =>
      obtain rfl : e' = e := by simpa [hop] using h
      exact .inl (continued_none_eq_error hop)
    | ok kind =>
      simp only [hop] at h
      split at h
      · simp at h
      · exact .inr (Except.error.inj h).symm

end DataKind

/-! ### Putting parts together -/

namespace Message

/-- The message that data of a kind makes up, with the control messages between its fragments. -/
def ofData (payload : Bytes) (controls : List Control) :
    DataKind → Except ProtocolError Message
  | .text =>
    match Text.ofUtf8? payload with
    | some s => .ok (.text s controls)
    | none => .error .invalidText
  | .binary => .ok (.binary payload controls)

/-- The message that parts make up: the data of those that carry data, and the control messages in
between. -/
def assemble (parts : List Part) : Except ProtocolError Message :=
  match DataKind.ofOpcodes ((parts.filter Part.carries).map Part.opcode) with
  | .error e => .error e
  | .ok (some kind) =>
    ofData ((parts.filter Part.carries).flatMap Part.payload) (parts.filterMap Part.control?) kind
  | .ok none =>
    match parts.filterMap Part.control? with
    | c :: _ => .ok (.control c)
    | [] => .error .incomplete

/-- **Frames make up what their parts do.** -/
theorem ofFrames_eq_assemble (data : Bytes) (frames : List Frame) :
    ofFrames data frames = assemble (frames.map (Frame.part data)) := by
  have hcarriers : (frames.map (Frame.part data)).filter Part.carries =
      (frames.filter fun f => !f.opcode.isControl).map (Frame.part data) := List.filter_map
  have hcontrols : (frames.map (Frame.part data)).filterMap Part.control? =
      frames.filterMap (Control.ofFrame? data.toArray) := by
    have hsame : Part.control? ∘ Frame.part data = Control.ofFrame? data.toArray := by
      funext f
      simp only [Function.comp, Part.control?, Frame.part, Control.ofFrame?,
        Frame.payloadIn_toArray]
    rw [List.filterMap_map, hsame]
  have hpayload : ((frames.map (Frame.part data)).filter Part.carries).flatMap Part.payload =
      (frames.filter fun f => !f.opcode.isControl).flatMap (·.payloadIn data.toArray) := by
    rw [hcarriers, List.flatMap_map]
    simp only [Frame.part, Frame.payloadIn_toArray]
  have hopcodes : ((frames.map (Frame.part data)).filter Part.carries).map Part.opcode =
      (frames.filter fun f => !f.opcode.isControl).map (·.opcode) := by
    rw [hcarriers, List.map_map]
    rfl
  simp only [ofFrames, assemble]
  rw [hcontrols, hpayload, hopcodes, ← DataKind.ofFrames_eq_ofOpcodes]
  generalize DataKind.ofFrames (frames.filter fun f => !f.opcode.isControl) = kind
  cases kind with
  | error e => rfl
  | ok found =>
    cases found with
    | none => rfl
    | some kind => cases kind <;> rfl

/-- **A part that opens data, with continuations behind it, makes up the data of all of them**, and
the control messages in between. -/
theorem assemble_of_opens {kind : DataKind} {x : Part} {rest : List Part}
    (hx : x.opcode = kind.opcode)
    (hrest : ∀ y ∈ rest, y.carries = true → y.opcode = .continuation) :
    assemble (x :: rest) =
      ofData (x.payload ++ (rest.filter Part.carries).flatMap Part.payload)
        (rest.filterMap Part.control?) kind := by
  have hcarries : x.carries = true := by simp [Part.carries, hx]
  have hcontrol : x.control? = none := by
    rw [Part.control?, hx]
    cases kind <;> rfl
  have hkind : DataKind.ofOpcodes (((x :: rest).filter Part.carries).map Part.opcode) =
      .ok (some kind) := by
    rw [List.filter_cons_of_pos hcarries, List.map_cons, hx]
    refine DataKind.ofOpcodes_eq_some.2 ⟨_, rfl, ?_⟩
    intro op hop
    obtain ⟨y, hy, rfl⟩ := List.mem_map.1 hop
    obtain ⟨hmem, hdata⟩ := List.mem_filter.1 hy
    exact hrest y hmem hdata
  rw [assemble, hkind, List.filter_cons_of_pos hcarries, List.flatMap_cons,
    List.filterMap_cons_none hcontrol]

/-- Parts without data are control messages, each of them. -/
theorem filterMap_control?_ne_nil {parts : List Part} (hne : parts ≠ [])
    (hnone : parts.filter Part.carries = []) : parts.filterMap Part.control? ≠ [] := by
  match parts with
  | x :: rest =>
    have hx : x.opcode.isControl = true := by
      simpa [Part.carries] using List.filter_eq_nil_iff.1 hnone x (by simp)
    rw [← ControlKind.isSome_ofOpcode?] at hx
    obtain ⟨kind, hkind⟩ := Option.isSome_iff_exists.1 hx
    rw [List.filterMap_cons_some (b := ⟨kind, x.payload⟩) (by rw [Part.control?, hkind]; rfl)]
    simp

/-- **What parts are refused for**: a data frame in the wrong place, or a text that is none. -/
theorem assemble_eq_error {parts : List Part} (hne : parts ≠ []) {e : ProtocolError}
    (h : assemble parts = .error e) :
    e = .unexpectedContinuation ∨ e = .expectedContinuation ∨ e = .invalidText := by
  unfold assemble at h
  cases hkind : DataKind.ofOpcodes ((parts.filter Part.carries).map Part.opcode) with
  | error e' =>
    obtain rfl : e' = e := by simpa [hkind] using h
    rcases DataKind.ofOpcodes_eq_error hkind with rfl | rfl
    · exact .inl rfl
    · exact .inr (.inl rfl)
  | ok found =>
    rw [hkind] at h
    cases found with
    | none =>
      -- Without data every part is a control message, and there is a part.
      have hcarriers := List.map_eq_nil_iff.1 (DataKind.ofOpcodes_eq_none.1 hkind)
      have hcontrols := filterMap_control?_ne_nil hne hcarriers
      obtain ⟨c, rest, hcons⟩ := List.exists_cons_of_ne_nil hcontrols
      simp [hcons] at h
    | some kind =>
      cases kind with
      | binary => simp [ofData] at h
      | text =>
        simp only [ofData] at h
        split at h
        · simp at h
        · exact .inr (.inr (Except.error.inj h).symm)

end Message

/-! ### Where the payloads are -/

namespace Frame

/-- A payload does not depend on bytes behind its frame. -/
theorem payload_take {f : Frame} {data : Bytes} {n : Nat} (h : f.stop ≤ n) :
    f.payload (data.take n) = f.payload data := by
  have hfits : f.payloadLength ≤ n - f.payloadStart := by
    simp only [stop, length, payloadStart] at h ⊢
    omega
  rw [payload, payload, wirePayload, wirePayload, List.drop_take, List.take_take,
    Nat.min_eq_left hfits]

/-- Frames one after the other end where their lengths say. -/
theorem Adjacent.stop_le {start : Nat} {fs : List Frame} (h : Adjacent start fs) :
    ∀ f ∈ fs, f.stop ≤ start + totalLength fs := by
  induction fs generalizing start with
  | nil => simp
  | cons f fs ih =>
    obtain ⟨hstart, hrest⟩ := h
    have hstop : f.stop = start + f.length := by rw [stop, hstart]
    rintro g (_ | ⟨_, hg⟩)
    · rw [hstop, totalLength]
      omega
    · have hle := ih hrest g hg
      rw [hstop] at hle
      rw [totalLength]
      omega

end Frame

/-- **A message does not depend on bytes behind its frames.** -/
theorem Message.ofFrames_take {data : Bytes} {frames : List Frame} {n : Nat}
    (h : ∀ f ∈ frames, f.stop ≤ n) : ofFrames (data.take n) frames = ofFrames data frames := by
  rw [ofFrames_eq_assemble, ofFrames_eq_assemble]
  have hparts : frames.map (Frame.part (data.take n)) = frames.map (Frame.part data) := by
    refine List.map_congr_left fun f hf => ?_
    rw [Frame.part, Frame.part, Frame.payload_take (h f hf)]
  rw [hparts]

end WebSocket
