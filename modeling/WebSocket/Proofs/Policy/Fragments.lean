import WebSocket.Proofs.Frame.RoundTrip
import WebSocket.Proofs.Policy.Decode

/-!
# Fragments cannot be seen

Whoever sends a text or binary message may cut its data anywhere, also inside a character, may put
control messages between the fragments, and chooses a mask for each frame.  A server that takes the
frames puts the same message together, whatever was chosen.

## Main definitions

* `Content` — the data of a text or binary message.
* `Piece`, `Fragmented` — data in fragments, with what stands between them.
* `Fragmented.sent` — the frames in which it is sent.
* `Policy.Takes` — frames that a server takes.

## Main results

* `Fragmented.scan_sent` — the frames of a message are found.
* `Fragmented.assemble_sent` — they make up the data, and the control messages.
* `Fragmented.decode_wire` — **fragments cannot be seen.**
-/

namespace WebSocket

/-- The data of a text or binary message. -/
inductive Content
  | text (text : String)
  | binary (data : Bytes)
  deriving DecidableEq, Repr

namespace Content

def kind : Content → DataKind
  | text _ => .text
  | binary _ => .binary

def bytes : Content → Bytes
  | text s => Text.utf8 s
  | binary data => data

/-- The message with this data, and with control messages between its fragments. -/
def message (controls : List Control) : Content → Message
  | text s => .text s controls
  | binary data => .binary data controls

theorem ofData_bytes (c : Content) (controls : List Control) :
    Message.ofData c.bytes controls c.kind = .ok (c.message controls) := by
  cases c with
  | text s => simp [Message.ofData, bytes, kind, message]
  | binary data => rfl

end Content

/-- What stands between the first and the last fragment of a message. -/
inductive Piece
  | fragment (data : Bytes) (mask : Option MaskKey)
  | control (control : Control) (mask : Option MaskKey)
  deriving DecidableEq, Repr

namespace Piece

def data : Piece → Bytes
  | fragment data _ => data
  | control .. => []

def control? : Piece → Option Control
  | fragment .. => none
  | control c _ => some c

/-- The frame in which it is sent. -/
def sent : Piece → Sent
  | fragment data mask => ⟨.continuation, false, data, mask⟩
  | control c mask => ⟨c.kind.opcode, true, c.payload, mask⟩

end Piece

/-- Data in one fragment or in several, with control messages anywhere between the first fragment
and the last. -/
inductive Fragmented
  | whole (data : Bytes) (mask : Option MaskKey)
  | split (first : Bytes) (firstMask : Option MaskKey) (middle : List Piece) (last : Bytes)
    (lastMask : Option MaskKey)
  deriving DecidableEq, Repr

namespace Fragmented

/-- The data, put together. -/
def payload : Fragmented → Bytes
  | whole data _ => data
  | split first _ middle last _ => first ++ middle.flatMap Piece.data ++ last

/-- The control messages, in order. -/
def controls : Fragmented → List Control
  | whole .. => []
  | split _ _ middle _ _ => middle.filterMap Piece.control?

/-- The frames in which data of a kind is sent: one that opens it, continuations, and the final bit
on the last of them. -/
def sent (kind : DataKind) : Fragmented → List Sent
  | whole data mask => [⟨kind.opcode, true, data, mask⟩]
  | split first firstMask middle last lastMask =>
    ⟨kind.opcode, false, first, firstMask⟩ ::
      (middle.map Piece.sent ++ [⟨.continuation, true, last, lastMask⟩])

end Fragmented

/-- Frames that a server takes. -/
structure Policy.Takes (p : Policy) (frames : List Sent) : Prop where
  /-- Where masks are required every frame has one. -/
  masked : p.requireMask = true → ∀ s ∈ frames, s.mask ≠ none
  /-- Every payload is within the limit. -/
  fits : ∀ s ∈ frames, s.payload.length ≤ p.limit
  /-- Every frame but the last ends within the limit. -/
  ends : ∀ f ∈ (Sent.framesAt 0 frames).dropLast, f.stop ≤ p.limit

theorem ControlKind.isControl_opcode (kind : ControlKind) : kind.opcode.isControl = true := by
  cases kind <;> rfl

/-! ### Pieces -/

namespace Piece

theorem goes_sent (x : Piece) : x.sent.Goes := by
  cases x with
  | fragment => exact .inr rfl
  | control c => exact .inl c.kind.isControl_opcode

/-- Fragments between the first and the last are continuations. -/
theorem opcode_sent (x : Piece) (h : x.sent.part.carries = true) :
    x.sent.part.opcode = .continuation := by
  cases x with
  | fragment => rfl
  | control c => simp [Part.carries, Sent.part, sent, c.kind.isControl_opcode] at h

theorem payload_sent (middle : List Piece) :
    (((middle.map Piece.sent).map Sent.part).filter Part.carries).flatMap Part.payload =
      middle.flatMap Piece.data := by
  induction middle with
  | nil => rfl
  | cons x middle ih =>
    cases x with
    | fragment data mask =>
      have hcarries : Part.carries (fragment data mask).sent.part = true := rfl
      rw [List.map_cons, List.map_cons, List.filter_cons_of_pos hcarries, List.flatMap_cons,
        List.flatMap_cons, ih]
      rfl
    | control c mask =>
      have hcarries : ¬ Part.carries (control c mask).sent.part = true := by
        simp [Part.carries, Sent.part, sent, c.kind.isControl_opcode]
      rw [List.map_cons, List.map_cons, List.filter_cons_of_neg hcarries, List.flatMap_cons, ih]
      rfl

theorem controls_sent (middle : List Piece) :
    ((middle.map Piece.sent).map Sent.part).filterMap Part.control? =
      middle.filterMap Piece.control? := by
  have hsame : Part.control? ∘ Sent.part ∘ Piece.sent = Piece.control? := by
    funext x
    cases x with
    | fragment => rfl
    | control c => simp [Part.control?, Sent.part, sent, control?]
  rw [List.map_map, List.filterMap_map, hsame]

end Piece

/-! ### Messages in fragments -/

namespace Fragmented

variable {p : Policy} {kind : DataKind} {m : Fragmented}

/-- Every frame of a message keeps to what a reader asks of it. -/
theorem proper_sent (h : p.Takes (m.sent kind)) : ∀ s ∈ m.sent kind, s.Proper p.limit := by
  intro s hs
  refine ⟨?_, h.fits s hs⟩
  cases m with
  | whole data mask =>
    obtain rfl := List.mem_singleton.1 hs
    exact fun _ => rfl
  | split first firstMask middle last lastMask =>
    rcases List.mem_cons.1 hs with rfl | hs
    · intro hcontrol
      simp at hcontrol
    · rcases List.mem_append.1 hs with hmiddle | hlast
      · obtain ⟨x, -, rfl⟩ := List.mem_map.1 hmiddle
        cases x with
        | fragment => intro hcontrol; simp [Piece.sent, Opcode.isControl] at hcontrol
        | control => exact fun _ => rfl
      · obtain rfl := List.mem_singleton.1 hlast
        exact fun _ => rfl

/-- The frames of a message are found. -/
theorem scan_sent (hword : p.limit < Text.wordLimit) (h : p.Takes (m.sent kind)) (rest : Bytes) :
    Frame.scan p.limit (Sent.wire (m.sent kind) ++ rest) =
      .ok (some (Sent.framesAt 0 (m.sent kind))) := by
  have hproper := proper_sent h
  have hends := h.ends
  cases m with
  | whole data mask =>
    -- One frame with the final bit: nothing precedes it, so nothing has to end in time.
    exact Sent.scan_single hword rfl (hproper _ (List.mem_cons_self ..)) rest
  | split first firstMask middle last lastMask =>
    have hgoes : ∀ s ∈ middle.map Piece.sent, s.Goes := by
      intro s hs
      obtain ⟨x, -, rfl⟩ := List.mem_map.1 hs
      exact x.goes_sent
    -- The frames that have to end in time are those before the last.
    rw [sent, ← List.cons_append, Sent.framesAt_concat, List.dropLast_concat] at hends
    exact Sent.scan_wire hword ⟨kind.isControl_opcode, rfl⟩ hgoes ⟨rfl, rfl⟩ hproper hends rest

/-- **The frames of a message make up its data**, and the control messages between its fragments. -/
theorem assemble_sent (kind : DataKind) (m : Fragmented) :
    Message.assemble ((m.sent kind).map Sent.part) =
      Message.ofData m.payload m.controls kind := by
  cases m with
  | whole data mask =>
    have hopens : Message.assemble [⟨kind.opcode, data⟩] =
        Message.ofData (data ++ []) [] kind := Message.assemble_of_opens rfl (by simp)
    rw [List.append_nil] at hopens
    exact hopens
  | split first firstMask middle last lastMask =>
    -- The first frame opens the data, and the pieces in the middle and the last one continue it.
    have hcontinued : ∀ y ∈ (middle.map Piece.sent).map Sent.part ++
        [(⟨.continuation, last⟩ : Part)], y.carries = true → y.opcode = .continuation := by
      intro y hy hcarries
      rcases List.mem_append.1 hy with hmiddle | hlast
      · rw [List.map_map, List.mem_map] at hmiddle
        obtain ⟨x, -, rfl⟩ := hmiddle
        exact x.opcode_sent hcarries
      · obtain rfl := List.mem_singleton.1 hlast
        rfl
    have hpayload : (((middle.map Piece.sent).map Sent.part ++
        [(⟨.continuation, last⟩ : Part)]).filter Part.carries).flatMap Part.payload =
          middle.flatMap Piece.data ++ last := by
      rw [List.filter_append, List.flatMap_append, Piece.payload_sent]
      exact congrArg _ (List.append_nil last)
    have hcontrols : ((middle.map Piece.sent).map Sent.part ++
        [(⟨.continuation, last⟩ : Part)]).filterMap Part.control? =
          middle.filterMap Piece.control? := by
      rw [List.filterMap_append, Piece.controls_sent]
      exact List.append_nil _
    have hopens : Message.assemble (⟨kind.opcode, first⟩ ::
        ((middle.map Piece.sent).map Sent.part ++ [⟨.continuation, last⟩])) = _ :=
      Message.assemble_of_opens rfl hcontinued
    rw [hpayload, hcontrols] at hopens
    rw [payload, List.append_assoc, sent, List.map_cons, List.map_append]
    exact hopens

/-- **Fragments cannot be seen.**  A text or binary message that was cut into fragments anywhere,
with control messages between them and a mask of its own for each frame, is found where its bytes
end, whatever follows, and it is decoded to the data that was cut and the control messages in
order.  The limit is a number of 64 bits. -/
theorem decode_wire (p : Policy) (hword : p.limit < Text.wordLimit) (content : Content)
    (m : Fragmented) (hdata : m.payload = content.bytes) (h : p.Takes (m.sent content.kind))
    (rest : Bytes) :
    p.boundary (Sent.wire (m.sent content.kind) ++ rest) =
        .ok (.complete (Sent.wire (m.sent content.kind)).length) ∧
      p.decode (Sent.wire (m.sent content.kind) ++ rest) = .ok (content.message m.controls) := by
  have hscan := scan_sent hword h rest
  have hmasks : p.checkMasks (Sent.framesAt 0 (m.sent content.kind)) = .ok () := by
    rw [Policy.checkMasks_eq_ok]
    intro hreq f hf
    obtain ⟨s, hs, position, rfl⟩ := Sent.mem_framesAt hf
    exact h.masked hreq s hs
  constructor
  · refine Policy.boundary_eq_complete.2 (.inr ⟨_, hscan, hmasks, ?_⟩)
    exact Sent.totalLength_framesAt 0 _
  · have hparts := Sent.map_part_framesAt (m.sent content.kind) [] rest
    rw [List.nil_append, List.length_nil] at hparts
    rw [Policy.decode_of_frames hscan hmasks, Message.ofFrames_eq_assemble, hparts, assemble_sent,
      hdata, Content.ofData_bytes]

/-- A text of one character that is cut in two, with a ping in between, is decoded as it was
meant. -/
theorem decode_wire_character :
    (⟨64, true, ""⟩ : Policy).decode
        (Sent.wire ((split [0xC3] (some ⟨1, 2, 3, 4⟩)
          [.control ⟨.ping, [7]⟩ (some ⟨5, 6, 7, 8⟩)] [0xA9] (some ⟨9, 10, 11, 12⟩)).sent .text) ++
            [0x81]) =
      .ok (.text "\u00E9" [⟨.ping, [7]⟩]) := by
  refine (decode_wire ⟨64, true, ""⟩ (by decide) (.text "\u00E9") _ (by decide +kernel) ?_ [0x81]).2
  exact ⟨fun _ => by decide, by decide, by decide +kernel⟩

end Fragmented
end WebSocket
