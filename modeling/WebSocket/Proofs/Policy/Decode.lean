import WebSocket.Proofs.Http.Body
import WebSocket.Proofs.Message.Assembly
import WebSocket.Proofs.Policy.Boundary

/-!
# Decoding what was found

A unit is looked for first and read afterwards, by readers that go over its bytes again.  What the
first pass has checked, the second one must not find fault with, and it must not look at bytes
behind the unit.

## Main results

* `Policy.checkMasks_eq_ok` — what frames are asked for.
* `Policy.decode_take` — a unit is read from its own bytes.
* `Policy.decode_frames_eq_error`, `Policy.decode_request_eq_error` — what a unit that was found can
  still be refused for.
* `Policy.decode_of_boundary` — **looking and reading agree.**
-/

namespace WebSocket

/-- A handshake is refused for its request, or for having no key. -/
theorem Handshake.parse_eq_error {data : Bytes} {e : ProtocolError}
    (h : Handshake.parse data = .error e) :
    Http.Request.parse data = .error e ∨ e = .missingKey := by
  unfold Handshake.parse at h
  cases hr : Http.Request.parse data with
  | error e' =>
    rw [hr] at h
    obtain rfl : e' = e := Except.error.inj h
    exact .inl rfl
  | ok request =>
    right
    have hkey : ofRequest request = .error e := by
      rw [hr] at h
      exact h
    unfold ofRequest at hkey
    split at hkey
    · simp at hkey
    · exact (Except.error.inj hkey).symm

namespace Policy

variable {p : Policy} {data : Bytes} {n : Nat}

/-- Frames are only asked for masks, and only where masks are required. -/
theorem checkMasks_eq_ok {frames : List Frame} :
    p.checkMasks frames = .ok () ↔ (p.requireMask = true → ∀ f ∈ frames, f.mask ≠ none) := by
  unfold checkMasks
  by_cases hany : (p.requireMask && frames.any (·.mask.isNone)) = true
  · rw [if_pos hany]
    simp only [Bool.and_eq_true, List.any_eq_true, Option.isNone_iff_eq_none] at hany
    obtain ⟨hreq, f, hf, hnone⟩ := hany
    simp only [reduceCtorEq, false_iff]
    exact fun h => h hreq f hf hnone
  · rw [if_neg hany]
    simp only [true_iff]
    intro hreq f hf hnone
    refine hany ?_
    simp only [Bool.and_eq_true, List.any_eq_true, Option.isNone_iff_eq_none]
    exact ⟨hreq, f, hf, hnone⟩

theorem decode_of_request (h : requestMark <+: data) :
    p.decode data = (Handshake.parse data).map .handshake := by
  rw [decode, if_pos (List.isPrefixOf_iff_prefix.2 h)]

theorem decode_of_frames {frames : List Frame} (hs : Frame.scan p.limit data = .ok (some frames))
    (hm : p.checkMasks frames = .ok ()) : p.decode data = Message.ofFrames data frames := by
  rw [decode, if_neg (fun hp => (decided_of_scan hs).2 (List.isPrefixOf_iff_prefix.1 hp)), hs]
  simp only [bind, Except.bind, hm]

/-! ### Units that were found -/

/-- A unit alone is found as it is. -/
theorem boundary_take (h : p.boundary data = .ok (.complete n)) :
    p.boundary (data.take n) = .ok (.complete n) := by
  have hown := boundary_take_append h []
  rwa [List.append_nil] at hown

/-- A unit that is no request consists of frames, masked where they must be. -/
theorem frames_of_boundary (h : p.boundary data = .ok (.complete n)) (hr : ¬ requestMark <+: data) :
    ∃ frames, Frame.scan p.limit data = .ok (some frames) ∧ p.checkMasks frames = .ok () ∧
      Frame.totalLength frames = n :=
  (boundary_eq_complete.1 h).resolve_left fun hb => hr hb.1

theorem request_of_boundary (h : p.boundary data = .ok (.complete n)) (hr : requestMark <+: data) :
    Http.requestBoundary p.limit data = .ok (some n) := by
  rcases boundary_eq_complete.1 h with ⟨-, hb⟩ | ⟨frames, hs, -⟩
  · exact hb
  · exact absurd hr (decided_of_scan hs).2

/-- The bytes of a unit show whether it is a request. -/
theorem request_take (h : p.boundary data = .ok (.complete n)) :
    requestMark <+: data.take n ↔ requestMark <+: data := by
  constructor
  · exact fun hr => hr.trans (List.take_prefix n data)
  · intro hr
    -- Otherwise the bytes of the unit would be frames, and frames do not turn into a request.
    refine Classical.byContradiction fun hnot => ?_
    obtain ⟨frames, hs, -⟩ := frames_of_boundary (boundary_take h) hnot
    have hwhole := (Frame.incremental_scan p.limit).append hs (data.drop n)
    rw [List.take_append_drop] at hwhole
    exact (decided_of_scan hwhole).2 hr

/-- **A unit is read from its own bytes.** -/
theorem decode_take (h : p.boundary data = .ok (.complete n)) :
    p.decode (data.take n) = p.decode data := by
  by_cases hr : requestMark <+: data
  · rw [decode_of_request hr, decode_of_request ((request_take h).2 hr), Handshake.parse,
      Handshake.parse, Http.Request.parse_take (request_of_boundary h hr)]
  · obtain ⟨frames, hs, hm, rfl⟩ := frames_of_boundary h hr
    have hown := (Frame.incremental_scan p.limit).take_append hs []
    rw [List.append_nil] at hown
    rw [decode_of_frames hs hm, decode_of_frames hown hm]
    -- The same frames are found, and none of them reaches behind the unit.
    refine Message.ofFrames_take fun f hf => ?_
    have hstop := (Frame.scanFrom_bounds hs).1.stop_le f hf
    omega

/-- Frames that were found are refused for their order, or for a text that is none. -/
theorem decode_frames_eq_error (h : p.boundary data = .ok (.complete n))
    (hr : ¬ requestMark <+: data) {e : ProtocolError} (he : p.decode data = .error e) :
    e = .unexpectedContinuation ∨ e = .expectedContinuation ∨ e = .invalidText := by
  obtain ⟨frames, hs, hm, -⟩ := frames_of_boundary h hr
  rw [decode_of_frames hs hm, Message.ofFrames_eq_assemble] at he
  refine Message.assemble_eq_error ?_ he
  -- There is at least one frame, since the unit is not empty.
  intro hnil
  rw [List.map_eq_nil_iff] at hnil
  have hbounds := (Frame.scanFrom_bounds hs).2.1
  rw [hnil, Frame.totalLength] at hbounds
  omega

/-- A request that was found is refused for its first line, or for having no key. -/
theorem decode_request_eq_error (h : p.boundary data = .ok (.complete n))
    (hr : requestMark <+: data) {e : ProtocolError} (he : p.decode data = .error e) :
    e = .missingKey ∨ (Text.words (Http.requestLine data)).length < 3 ∧
      e = .malformedRequest
        s!"can't parse method and URI from '{String.ofList (Http.requestLine data)}'" := by
  have hparse : Handshake.parse data = .error e := by
    rw [decode_of_request hr] at he
    cases hp : Handshake.parse data with
    | error e' => simpa [hp, Except.map] using he
    | ok handshake => simp [hp, Except.map] at he
  rcases Handshake.parse_eq_error hparse with hrequest | hkey
  · exact .inr (Http.Request.parse_eq_error_of_boundary (request_of_boundary h hr) hrequest)
  · exact .inl hkey

/-- **Looking and reading agree.**  A unit that was found is read from its own bytes, and nothing
that was looked at when it was found is found fault with.  Frames are only refused for their order
or for a text that is none, and they are masked where masks are required; a request is only refused
for having no key or for its first line. -/
theorem decode_of_boundary {p : Policy} {data : Bytes} {n : Nat}
    (h : p.boundary data = .ok (.complete n)) :
    p.decode data = p.decode (data.take n) ∧
      (p.decode data ≠ .error .incomplete ∧
        (∀ size limit, p.decode data ≠ .error (.tooLarge size limit)) ∧
        (∀ code, p.decode data ≠ .error (.unknownOpcode code)) ∧
        p.decode data ≠ .error .fragmentedControl ∧ p.decode data ≠ .error .unmasked) ∧
      (¬ requestMark <+: data.take n →
        (∀ e, p.decode data = .error e →
          e = .unexpectedContinuation ∨ e = .expectedContinuation ∨ e = .invalidText) ∧
        ∃ frames, Frame.scan p.limit (data.take n) = .ok (some frames) ∧
          Frame.totalLength frames = n ∧
          (p.requireMask = true → ∀ f ∈ frames, f.mask ≠ none)) ∧
      (requestMark <+: data.take n →
        ∀ e, p.decode data = .error e →
          e = .missingKey ∨ (Text.words (Http.requestLine data)).length < 3 ∧
            e = .malformedRequest
              s!"can't parse method and URI from '{String.ofList (Http.requestLine data)}'") := by
  have hrefused : ∀ e, p.decode data = .error e →
      (e = .unexpectedContinuation ∨ e = .expectedContinuation ∨ e = .invalidText) ∨
        e = .missingKey ∨ ∃ detail, e = .malformedRequest detail := by
    intro e he
    by_cases hr : requestMark <+: data
    · rcases decode_request_eq_error h hr he with hkey | ⟨-, hline⟩
      · exact .inr (.inl hkey)
      · exact .inr (.inr ⟨_, hline⟩)
    · exact .inl (decode_frames_eq_error h hr he)
  refine ⟨(decode_take h).symm, ⟨?_, ?_, ?_, ?_, ?_⟩, ?_, ?_⟩
  · intro he
    simpa using hrefused _ he
  · intro size limit he
    simpa using hrefused _ he
  · intro code he
    simpa using hrefused _ he
  · intro he
    simpa using hrefused _ he
  · intro he
    simpa using hrefused _ he
  · intro hr
    obtain ⟨frames, hs, hm, hn⟩ := frames_of_boundary (boundary_take h) hr
    have hr' : ¬ requestMark <+: data := mt (request_take h).2 hr
    exact ⟨fun e he => decode_frames_eq_error h hr' he,
      frames, hs, hn, checkMasks_eq_ok.1 hm⟩
  · intro hr e he
    exact decode_request_eq_error h ((request_take h).1 hr) he

/-- A masked frame with the first byte of another one behind it is read as it is. -/
theorem decode_of_boundary_binary :
    (⟨64, true, ""⟩ : Policy).boundary [0x82, 0x81, 1, 2, 3, 4, 0x54, 0x89] = .ok (.complete 7) ∧
      (⟨64, true, ""⟩ : Policy).decode [0x82, 0x81, 1, 2, 3, 4, 0x54, 0x89] =
        (⟨64, true, ""⟩ : Policy).decode [0x82, 0x81, 1, 2, 3, 4, 0x54] ∧
      (⟨64, true, ""⟩ : Policy).decode [0x82, 0x81, 1, 2, 3, 4, 0x54, 0x89] ≠
        .error .incomplete := by
  have hfound : (⟨64, true, ""⟩ : Policy).boundary [0x82, 0x81, 1, 2, 3, 4, 0x54, 0x89] =
      .ok (.complete 7) :=
    boundary_eq_complete.2 (.inr ⟨[⟨0, true, .binary, some ⟨1, 2, 3, 4⟩, 6, 1⟩],
      (Frame.scanFrom_some rfl).trans (if_pos rfl), rfl, rfl⟩)
  exact ⟨hfound, (decode_of_boundary hfound).1, (decode_of_boundary hfound).2.1.1⟩

end Policy
end WebSocket
