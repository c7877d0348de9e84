import WebSocket.Proofs.Policy.Fragments

/-!
# What is decoded

The reader of a server looks for the end of a message first and puts its frames in order afterwards.
Both together take exactly the messages of a grammar, in which every frame has one of its spellings:
a control frame by itself, or data that is opened once, continued, and closed by the only data frame
with the final bit.

## Main definitions

* `Policy.Admits` — frames that a server takes, however they are written.
* `Written.Carries` — frames that carry the data of one message.
* `Written.Spells` — frames that spell a message.

## Main results

* `Message.assemble_eq_ok` — what data is put together from.
* `Written.Whole.spells_iff` — the frames of a message spell what they are put together to.
* `Policy.decode_eq_ok` — **exactly the messages of the grammar are decoded.**
-/

namespace WebSocket

/-- Frames that a server takes. -/
structure Policy.Admits (p : Policy) (ws : List Written) : Prop where
  proper : ∀ w ∈ ws, w.Proper p.limit
  /-- Where masks are required every frame has one. -/
  masked : p.requireMask = true → ∀ w ∈ ws, w.mask ≠ none
  /-- Every frame but the last ends within the limit. -/
  ends : ∀ f ∈ (Written.framesAt 0 ws).dropLast, f.stop ≤ p.limit

namespace Written

/-- Frames that carry the data of one message. -/
structure Carries (ws : List Written) (content : Content) : Prop where
  /-- The first frame opens the data, and every other data frame continues it. -/
  opens : ∃ first rest, ws = first :: rest ∧ first.opcode = content.kind.opcode ∧
    ∀ w ∈ rest, w.part.carries = true → w.opcode = .continuation
  /-- The last frame is a data frame, and the only one with the final bit. -/
  closes : ∃ front last, ws = front ++ [last] ∧ last.Closes ∧ ∀ w ∈ front, w.Goes
  /-- The payloads of the data frames are the data. -/
  data : ((ws.map part).filter Part.carries).flatMap Part.payload = content.bytes

/-- Frames that spell a message: a control frame by itself, or frames that carry data, with control
frames between them. -/
inductive Spells : List Written → Message → Prop
  | control {w : Written} {kind : ControlKind} (hopcode : w.opcode = kind.opcode) :
    Spells [w] (.control ⟨kind, w.payload⟩)
  | data {ws : List Written} {content : Content} (hcarries : Carries ws content) :
    Spells ws (content.message ((ws.map part).filterMap Part.control?))

end Written

/-! ### Putting parts together -/

theorem ControlKind.ofOpcode?_eq_some {op : Opcode} {kind : ControlKind} :
    ofOpcode? op = some kind ↔ op = kind.opcode := by
  cases op <;> cases kind <;> simp [ofOpcode?, opcode]

namespace Message

theorem ofData_eq_ok {payload : Bytes} {controls : List Control} {kind : DataKind} {m : Message} :
    ofData payload controls kind = .ok m ↔
      ∃ content : Content, content.kind = kind ∧ content.bytes = payload ∧
        m = content.message controls := by
  constructor
  · intro h
    cases kind with
    | binary => exact ⟨.binary payload, rfl, rfl, (Except.ok.inj h).symm⟩
    | text =>
      simp only [ofData] at h
      split at h
      · next s hs => exact ⟨.text s, rfl, (Text.ofUtf8?_eq_some.1 hs).symm, (Except.ok.inj h).symm⟩
      · simp at h
  · rintro ⟨content, rfl, rfl, rfl⟩
    exact content.ofData_bytes controls

/-- A control frame by itself is a message. -/
theorem assemble_control {x : Part} (hx : x.carries = false) {m : Message} :
    assemble [x] = .ok m ↔ ∃ kind : ControlKind, x.opcode = kind.opcode ∧
      m = .control ⟨kind, x.payload⟩ := by
  have hcontrol : x.opcode.isControl = true := by simpa [Part.carries] using hx
  rw [← ControlKind.isSome_ofOpcode?] at hcontrol
  obtain ⟨kind, hkind⟩ := Option.isSome_iff_exists.1 hcontrol
  have hmessage : assemble [x] = .ok (.control ⟨kind, x.payload⟩) := by
    have hnone : [x].filter Part.carries = [] := by simp [hx]
    have hself : [x].filterMap Part.control? = [⟨kind, x.payload⟩] := by
      simp [Part.control?, hkind]
    rw [assemble, hnone, hself]
    rfl
  rw [hmessage]
  constructor
  · intro h
    exact ⟨kind, ControlKind.ofOpcode?_eq_some.1 hkind, (Except.ok.inj h).symm⟩
  · rintro ⟨kind', hopcode, rfl⟩
    rw [hopcode, ControlKind.ofOpcode?_opcode] at hkind
    rw [Option.some.inj hkind]

/-- **What data is put together from**: a part that opens it, and parts that continue it. -/
theorem assemble_eq_ok {x : Part} {rest : List Part} (hx : x.carries = true) {m : Message} :
    assemble (x :: rest) = .ok m ↔
      ∃ content : Content, x.opcode = content.kind.opcode ∧
        (∀ y ∈ rest, y.carries = true → y.opcode = .continuation) ∧
        ((x :: rest).filter Part.carries).flatMap Part.payload = content.bytes ∧
        m = content.message ((x :: rest).filterMap Part.control?) := by
  constructor
  · intro h
    unfold assemble at h
    have hcarriers : (x :: rest).filter Part.carries = x :: rest.filter Part.carries :=
      List.filter_cons_of_pos hx
    cases hkind : DataKind.ofOpcodes (((x :: rest).filter Part.carries).map Part.opcode) with
    | error e => simp [hkind] at h
    | ok found =>
      cases found with
      | none =>
        -- The first part carries data, so there is a kind.
        rw [hcarriers] at hkind
        simpa using DataKind.ofOpcodes_eq_none.1 hkind
      | some kind =>
        rw [hkind] at h
        obtain ⟨content, rfl, hbytes, hm⟩ := ofData_eq_ok.1 h
        rw [hcarriers, List.map_cons] at hkind
        obtain ⟨ops, hops, hcontinued⟩ := DataKind.ofOpcodes_eq_some.1 hkind
        obtain ⟨hopcode, rfl⟩ := List.cons.inj hops
        refine ⟨content, hopcode, fun y hy hdata => ?_, hbytes.symm, hm⟩
        exact hcontinued _ (List.mem_map_of_mem (List.mem_filter.2 ⟨hy, hdata⟩))
  · rintro ⟨content, hopcode, hcontinued, hbytes, rfl⟩
    have hcontrol : x.control? = none := by
      rw [Part.control?, hopcode]
      cases content.kind <;> rfl
    rw [assemble_of_opens hopcode hcontinued, List.filterMap_cons_none hcontrol,
      ← content.ofData_bytes, ← hbytes, List.filter_cons_of_pos hx, List.flatMap_cons]

end Message

namespace Written

variable {ws : List Written} {m : Message}

/-- Frames that spell a message are the frames of one. -/
theorem Spells.whole (h : Spells ws m) : Whole ws := by
  cases h with
  | @control w kind hopcode =>
    exact .inl ⟨w, rfl, by rw [hopcode, ControlKind.isControl_opcode]⟩
  | @data ws content hcarries =>
    obtain ⟨first, tail, hfirst, hopcode, -⟩ := hcarries.opens
    obtain ⟨front, last, hlast, hcloses, hgoes⟩ := hcarries.closes
    refine .inr ⟨front, last, hlast, hcloses, hgoes, fun w hw => ?_⟩
    rw [hfirst] at hw
    obtain rfl : first = w := by simpa using hw
    rw [hopcode, DataKind.isControl_opcode]

/-- **The frames of one message spell what they are put together to.** -/
theorem Whole.spells_iff (h : Whole ws) :
    Spells ws m ↔ Message.assemble (ws.map part) = .ok m := by
  constructor
  · intro hm
    cases hm with
    | @control w kind hopcode =>
      have hnone : w.part.carries = false := by
        simp [Part.carries, part, hopcode, ControlKind.isControl_opcode]
      exact (Message.assemble_control hnone).2 ⟨kind, hopcode, rfl⟩
    | data hcarries =>
      obtain ⟨first, tail, rfl, hopcode, hcontinued⟩ := hcarries.opens
      have hfirst : first.part.carries = true := by simp [Part.carries, part, hopcode]
      refine (Message.assemble_eq_ok hfirst).2 ⟨_, hopcode, fun y hy => ?_, hcarries.data, rfl⟩
      obtain ⟨w, hw, rfl⟩ := List.mem_map.1 hy
      exact hcontinued w hw
  · intro hm
    rcases h with ⟨w, rfl, hcontrol⟩ | ⟨front, last, hlast, hcloses, hgoes, hopened⟩
    · have hnone : w.part.carries = false := by simp [Part.carries, part, hcontrol]
      obtain ⟨kind, hopcode, rfl⟩ := (Message.assemble_control hnone).1 hm
      exact .control hopcode
    · obtain ⟨first, tail, rfl⟩ : ∃ first tail, ws = first :: tail :=
        List.exists_cons_of_ne_nil (hlast ▸ List.concat_ne_nil last front)
      have hfirst : first.part.carries = true := by
        simp [Part.carries, part, hopened first (by simp)]
      rw [List.map_cons] at hm
      obtain ⟨content, hopcode, hcontinued, hbytes, rfl⟩ := (Message.assemble_eq_ok hfirst).1 hm
      refine .data ⟨⟨first, tail, rfl, hopcode, fun w hw => ?_⟩,
        ⟨front, last, hlast, hcloses, hgoes⟩, hbytes⟩
      exact hcontinued w.part (List.mem_map_of_mem hw)

end Written

/-! ### Decoding -/

namespace Policy

variable {p : Policy} {data : Bytes} {m : Message}

/-- Frames that were found, with masks where they are required, are decoded to what they make
up. -/
theorem decode_eq_ok_of_frames (hr : ¬ requestMark <+: data) :
    p.decode data = .ok m ↔
      ∃ frames, Frame.scan p.limit data = .ok (some frames) ∧ p.checkMasks frames = .ok () ∧
        Message.ofFrames data frames = .ok m := by
  constructor
  · intro h
    rw [decode, if_neg (mt List.isPrefixOf_iff_prefix.1 hr)] at h
    cases hs : Frame.scan p.limit data with
    | error e => simp [hs, bind, Except.bind] at h
    | ok found =>
      cases found with
      | none => simp [hs, bind, Except.bind] at h
      | some frames =>
        cases hm : p.checkMasks frames with
        | error e => simp [hs, hm, bind, Except.bind] at h
        | ok => exact ⟨frames, rfl, hm, by simpa [hs, hm, bind, Except.bind] using h⟩
  · rintro ⟨frames, hs, hm, h⟩
    rw [decode_of_frames hs hm, h]

theorem checkMasks_framesAt {start : Nat} {ws : List Written} :
    p.checkMasks (Written.framesAt start ws) = .ok () ↔
      (p.requireMask = true → ∀ w ∈ ws, w.mask ≠ none) := by
  have hmasks : (∀ f ∈ Written.framesAt start ws, f.mask ≠ none) ↔ ∀ w ∈ ws, w.mask ≠ none := by
    rw [← List.forall_mem_map (f := Frame.mask) (P := fun mask => mask ≠ none),
      Written.map_mask_framesAt, List.forall_mem_map]
  rw [checkMasks_eq_ok, hmasks]

/-- Frames at the head of a byte string make up what was written. -/
theorem ofFrames_framesAt (ws : List Written) (rest : Bytes) :
    Message.ofFrames (Written.wire ws ++ rest) (Written.framesAt 0 ws) =
      Message.assemble (ws.map Written.part) := by
  have hparts := Written.map_part_framesAt ws [] rest
  rw [List.nil_append, List.length_nil] at hparts
  rw [Message.ofFrames_eq_assemble, hparts]

/-- **Exactly the messages of the grammar are decoded.**  Bytes that are no request are decoded to a
message if and only if frames that the server takes stand at their head and spell it. -/
theorem decode_eq_ok {p : Policy} {data : Bytes} (hr : ¬ requestMark <+: data) (m : Message) :
    p.decode data = .ok m ↔
      ∃ ws, Written.wire ws <+: data ∧ p.Admits ws ∧ Written.Spells ws m := by
  rw [decode_eq_ok_of_frames hr]
  constructor
  · rintro ⟨frames, hs, hmasks, hm⟩
    obtain ⟨ws, ⟨rest, rfl⟩, rfl, hproper, hends, hwhole⟩ := Written.scan_eq_some.1 hs
    rw [checkMasks_framesAt] at hmasks
    rw [ofFrames_framesAt] at hm
    exact ⟨ws, List.prefix_append .., ⟨hproper, hmasks, hends⟩, hwhole.spells_iff.2 hm⟩
  · rintro ⟨ws, ⟨rest, rfl⟩, hws, hm⟩
    refine ⟨Written.framesAt 0 ws, ?_, checkMasks_framesAt.2 hws.masked, ?_⟩
    · exact Written.scan_eq_some.2
        ⟨ws, List.prefix_append .., rfl, hws.proper, hws.ends, hm.whole⟩
    · rw [ofFrames_framesAt]
      exact hm.whole.spells_iff.1 hm

/-- A character that is cut in two, with a ping between the parts, is decoded although the first
frame has its free bits set and tells its length in eight bytes. -/
theorem decode_eq_ok_spelling :
    (⟨64, true, ""⟩ : Policy).decode
        (Written.wire [⟨.text, false, 7, .long, [0xC3], some ⟨1, 2, 3, 4⟩⟩,
          ⟨.ping, true, 0, .inline, [], some ⟨5, 6, 7, 8⟩⟩,
          ⟨.continuation, true, 0, .inline, [0xA9], some ⟨9, 10, 11, 12⟩⟩] ++ [0x47]) =
      .ok (.text "\u00E9" [⟨.ping, []⟩]) := by
  refine (decode_eq_ok (by decide +kernel) _).2 ⟨_, List.prefix_append .., ?_, ?_⟩
  · refine ⟨?_, fun _ => by decide, by decide +kernel⟩
    simp only [List.forall_mem_cons]
    exact ⟨⟨by decide, by decide, by decide⟩, ⟨by decide, by decide, by decide⟩,
      ⟨by decide, by decide, by decide⟩, by simp⟩
  · refine @Written.Spells.data _ (.text "\u00E9") ⟨?_, ?_, by decide +kernel⟩
    · exact ⟨_, _, rfl, rfl, by decide⟩
    · exact ⟨[_, _], _, rfl, ⟨rfl, rfl⟩, by simp [Written.Goes, Opcode.isControl]⟩

end Policy
end WebSocket
