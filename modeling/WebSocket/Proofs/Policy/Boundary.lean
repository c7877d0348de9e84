import WebSocket.Policy
import WebSocket.Proofs.Frame.Incremental
import WebSocket.Proofs.Http.Incremental

/-!
# The boundary law

A server asks for the end of the first unit again after every read, with more bytes each time.  The
answer must not depend on how many bytes happen to be there: a unit ends where its own bytes end, it
is not seen before it is complete, and bytes that cannot begin a unit are refused once and for all.

There is one exception.  A request whose head has not ended is refused by the number of bytes that
are there, and when the end of the head arrives later, by what the head declares; it stays refused,
but the wording may change.

## Main definitions

* `Undecided` — bytes too few to tell a request from frames.
* `OverlongHead` — a head that has not ended and is over the limit already.

## Main results

* `Policy.boundary_eq_complete`, `Policy.boundary_eq_error` — what a unit is, and what is refused.
* `Policy.boundary_take_append`, `Policy.boundary_append_error` — bytes behind do not matter.
* `Policy.boundary_law` — **the boundary law.**
-/

namespace WebSocket

/-- So few bytes that more of them could still make a request of them. -/
def Undecided (data : Bytes) : Prop :=
  data <+: requestMark ∧ data.length < requestMark.length

/-- A request whose head has not ended though it is longer than the limit. -/
def OverlongHead (limit : Nat) (data : Bytes) : Prop :=
  requestMark <+: data ∧ Http.cutHead data = none ∧ limit < data.length

theorem length_requestMark : requestMark.length = 3 := rfl

/-- Once it is clear what begins, more bytes do not change it. -/
theorem not_undecided_append {data : Bytes} (h : ¬ Undecided data) (more : Bytes) :
    ¬ Undecided (data ++ more) := by
  rintro ⟨hfront, hlen⟩
  rw [List.length_append] at hlen
  exact h ⟨(List.prefix_append data more).trans hfront, by omega⟩

/-- Frames do not turn into a request when more bytes arrive. -/
theorem not_request_append {data : Bytes} (h : ¬ Undecided data) (hr : ¬ requestMark <+: data)
    (more : Bytes) : ¬ requestMark <+: data ++ more := by
  intro hfront
  rcases Nat.lt_or_ge data.length requestMark.length with hlt | hge
  · refine h ⟨?_, hlt⟩
    exact List.prefix_of_prefix_length_le (List.prefix_append data more) hfront (by omega)
  · exact hr (List.prefix_of_prefix_length_le hfront (List.prefix_append data more) hge)

/-- The first byte of a request is no first byte of a frame. -/
theorem scan_of_mark (limit : Nat) (rest : Bytes) :
    Frame.scan limit (0x47 :: rest) = .error (.unknownOpcode 7) := by
  refine Frame.scanFrom_error (Frame.parseHead_eq_error.2 ?_)
  exact Frame.Header.parse_eq_error.2 (.inl ⟨0x47, rest, rfl, rfl⟩)

/-- Where frames were found, it was clear that no request begins. -/
theorem decided_of_scan {limit : Nat} {data : Bytes} {frames : List Frame}
    (h : Frame.scan limit data = .ok (some frames)) :
    ¬ Undecided data ∧ ¬ requestMark <+: data := by
  cases data with
  | nil =>
    rw [Frame.scan, Frame.scanFrom_none (by rfl)] at h
    simp at h
  | cons b rest =>
    have hb : b ≠ 0x47 := by
      rintro rfl
      rw [scan_of_mark] at h
      simp at h
    constructor
    · rintro ⟨hfront, -⟩
      exact hb (List.cons_prefix_cons.1 hfront).1
    · intro hfront
      exact hb (List.cons_prefix_cons.1 hfront).1.symm

namespace Policy

variable {p : Policy} {data : Bytes}

/-! ### The three branches -/

theorem boundary_of_undecided (h : Undecided data) : p.boundary data = .ok .incomplete := by
  have hshort : (data.isPrefixOf requestMark && data.length < requestMark.length) = true := by
    rw [Bool.and_eq_true, List.isPrefixOf_iff_prefix, decide_eq_true_eq]
    exact h
  rw [boundary, if_pos hshort]

private theorem not_short (h : ¬ Undecided data) :
    ¬ (data.isPrefixOf requestMark && data.length < requestMark.length) = true := by
  rw [Bool.and_eq_true, List.isPrefixOf_iff_prefix, decide_eq_true_eq]
  exact h

theorem not_undecided_of_request (h : requestMark <+: data) : ¬ Undecided data := by
  rintro ⟨-, hlen⟩
  have := h.length_le
  omega

theorem boundary_of_request (h : requestMark <+: data) :
    p.boundary data =
      match Http.requestBoundary p.limit data with
      | .error e => .error e
      | .ok (some length) => .ok (.complete length)
      | .ok none =>
        if data.length > p.limit then .error (.tooLarge data.length p.limit)
        else .ok .incomplete := by
  have hlong := not_short (not_undecided_of_request h)
  have hmark : requestMark.isPrefixOf data = true := List.isPrefixOf_iff_prefix.2 h
  exact (if_neg hlong).trans (if_pos hmark)

theorem boundary_of_frames (h : ¬ Undecided data) (hr : ¬ requestMark <+: data) :
    p.boundary data =
      match Frame.scan p.limit data with
      | .error e => .error e
      | .ok none => .ok .incomplete
      | .ok (some frames) =>
        match p.checkMasks frames with
        | .error e => .error e
        | .ok () => .ok (.complete (Frame.totalLength frames)) := by
  have hlong := not_short h
  have hmark : ¬ requestMark.isPrefixOf data = true := fun hp =>
    hr (List.isPrefixOf_iff_prefix.1 hp)
  exact (if_neg hlong).trans (if_neg hmark)

/-! ### What a unit is, and what is refused -/

/-- **What a unit is**: a request, or frames that are masked where they must be. -/
theorem boundary_eq_complete {n : Nat} :
    p.boundary data = .ok (.complete n) ↔
      (requestMark <+: data ∧ Http.requestBoundary p.limit data = .ok (some n)) ∨
        ∃ frames, Frame.scan p.limit data = .ok (some frames) ∧ p.checkMasks frames = .ok () ∧
          Frame.totalLength frames = n := by
  constructor
  · intro h
    by_cases hu : Undecided data
    · simp [boundary_of_undecided hu] at h
    by_cases hr : requestMark <+: data
    · left
      rw [boundary_of_request hr] at h
      cases hb : Http.requestBoundary p.limit data with
      | error e => simp [hb] at h
      | ok found =>
        cases found with
        | none => simp only [hb] at h; split at h <;> simp at h
        | some m =>
          obtain rfl : m = n := by simpa [hb] using h
          exact ⟨hr, rfl⟩
    · right
      rw [boundary_of_frames hu hr] at h
      cases hs : Frame.scan p.limit data with
      | error e => simp [hs] at h
      | ok found =>
        cases found with
        | none => simp [hs] at h
        | some frames =>
          cases hm : p.checkMasks frames with
          | error e => simp [hs, hm] at h
          | ok => exact ⟨frames, rfl, hm, by simpa [hs, hm] using h⟩
  · rintro (⟨hr, hb⟩ | ⟨frames, hs, hm, rfl⟩)
    · rw [boundary_of_request hr, hb]
    · obtain ⟨hu, hr⟩ := decided_of_scan hs
      rw [boundary_of_frames hu hr, hs]
      simp only [hm]

/-- **What is refused**: a request for its head, one whose head does not end in time, and frames for
one of them or for a missing mask. -/
theorem boundary_eq_error {e : ProtocolError} :
    p.boundary data = .error e ↔
      (requestMark <+: data ∧ Http.requestBoundary p.limit data = .error e) ∨
      (OverlongHead p.limit data ∧ e = .tooLarge data.length p.limit) ∨
      (¬ Undecided data ∧ ¬ requestMark <+: data ∧ Frame.scan p.limit data = .error e) ∨
      ∃ frames, Frame.scan p.limit data = .ok (some frames) ∧ p.checkMasks frames = .error e := by
  constructor
  · intro h
    by_cases hu : Undecided data
    · simp [boundary_of_undecided hu] at h
    by_cases hr : requestMark <+: data
    · rw [boundary_of_request hr] at h
      cases hb : Http.requestBoundary p.limit data with
      | error e' =>
        obtain rfl : e' = e := by simpa [hb] using h
        exact .inl ⟨hr, rfl⟩
      | ok found =>
        cases found with
        | some m => simp [hb] at h
        | none =>
          simp only [hb] at h
          by_cases hlong : data.length > p.limit
          · obtain rfl : ProtocolError.tooLarge data.length p.limit = e := by
              simpa [hlong] using h
            exact .inr (.inl ⟨⟨hr, Http.cutHead_eq_none_of_long hb hlong, hlong⟩, rfl⟩)
          · simp [hlong] at h
    · rw [boundary_of_frames hu hr] at h
      cases hs : Frame.scan p.limit data with
      | error e' =>
        obtain rfl : e' = e := by simpa [hs] using h
        exact .inr (.inr (.inl ⟨hu, hr, rfl⟩))
      | ok found =>
        cases found with
        | none => simp [hs] at h
        | some frames =>
          cases hm : p.checkMasks frames with
          | ok => simp [hs, hm] at h
          | error e' =>
            obtain rfl : e' = e := by simpa [hs, hm] using h
            exact .inr (.inr (.inr ⟨frames, rfl, hm⟩))
  · rintro (⟨hr, hb⟩ | ⟨⟨hr, hcut, hlong⟩, rfl⟩ | ⟨hu, hr, hs⟩ | ⟨frames, hs, hm⟩)
    · rw [boundary_of_request hr, hb]
    · rw [boundary_of_request hr, Http.requestBoundary_of_cutHead_none hcut]
      exact if_pos hlong
    · rw [boundary_of_frames hu hr, hs]
    · obtain ⟨hu, hr⟩ := decided_of_scan hs
      rw [boundary_of_frames hu hr, hs]
      simp only [hm]

/-! ### Bytes behind do not matter -/

/-- A unit is found by its own bytes, whatever stands behind them. -/
theorem boundary_take_append {n : Nat} (h : p.boundary data = .ok (.complete n)) (more : Bytes) :
    p.boundary (data.take n ++ more) = .ok (.complete n) := by
  rw [boundary_eq_complete] at h ⊢
  rcases h with ⟨hr, hb⟩ | ⟨frames, hs, hm, rfl⟩
  · refine .inl ⟨?_, (Http.incremental_requestBoundary p.limit).take_append hb more⟩
    -- A request has at least the four bytes that end its head.
    obtain ⟨head, rest, -, hsize, hle⟩ := Http.requestBoundary_eq_some.1 hb
    obtain ⟨body, -, hsum, -, -⟩ := Http.requestSize_eq_ok.1 hsize
    have hfour : Http.headEnd.length = 4 := rfl
    have hmark : requestMark <+: data.take n := by
      refine List.prefix_of_prefix_length_le hr (List.take_prefix n data) ?_
      rw [length_requestMark, List.length_take]
      omega
    exact hmark.trans (List.prefix_append _ more)
  · exact .inr ⟨frames, (Frame.incremental_scan p.limit).take_append hs more, hm, rfl⟩

/-- A refusal stands, and in the same words, unless it was for a head that had not ended. -/
theorem boundary_append_error {e : ProtocolError} (h : p.boundary data = .error e)
    (hhead : ¬ OverlongHead p.limit data) (more : Bytes) :
    p.boundary (data ++ more) = .error e := by
  rw [boundary_eq_error] at h ⊢
  rcases h with ⟨hr, hb⟩ | ⟨hlong, -⟩ | ⟨hu, hr, hs⟩ | ⟨frames, hs, hm⟩
  · exact .inl ⟨hr.trans (List.prefix_append data more),
      (Http.incremental_requestBoundary p.limit).refused hb more⟩
  · exact absurd hlong hhead
  · exact .inr (.inr (.inl ⟨not_undecided_append hu more, not_request_append hu hr more,
      (Frame.incremental_scan p.limit).refused hs more⟩))
  · exact .inr (.inr (.inr ⟨frames, (Frame.incremental_scan p.limit).append hs more, hm⟩))

/-- A head that has not ended in time stays refused: either it has not ended yet, or it ends behind
the limit. -/
theorem boundary_append_of_overlongHead (h : OverlongHead p.limit data) (more : Bytes) :
    ∃ e, p.boundary (data ++ more) = .error e := by
  obtain ⟨hr, hcut, hlong⟩ := h
  have hr' : requestMark <+: data ++ more := hr.trans (List.prefix_append data more)
  match hmore : Http.cutHead (data ++ more) with
  | none =>
    refine ⟨_, boundary_eq_error.2 (.inr (.inl ⟨⟨hr', hmore, ?_⟩, rfl⟩))⟩
    rw [List.length_append]
    omega
  | some (head, rest) =>
    have hend := Text.cut_eq_none_of_append hcut hmore
    have hover : p.limit < head.length + Http.headEnd.length := by omega
    obtain ⟨e, he⟩ := Http.requestSize_eq_error_of_long hover
    exact ⟨e, boundary_eq_error.2
      (.inl ⟨hr', Http.requestBoundary_eq_error.2 ⟨head, rest, hmore, he⟩⟩)⟩

/-- A part of a unit is not refused, and no unit is seen in it. -/
theorem boundary_take_lt {n m : Nat} (h : p.boundary data = .ok (.complete n)) (hm : m < n) :
    p.boundary (data.take m) = .ok .incomplete := by
  by_cases hu : Undecided (data.take m)
  · exact boundary_of_undecided hu
  rcases boundary_eq_complete.1 h with ⟨hr, hb⟩ | ⟨frames, hs, hmask, rfl⟩
  · have hmark : requestMark <+: data.take m := by
      -- Otherwise the part is a front part of the mark, and it would be undecided.
      rcases Nat.lt_or_ge (data.take m).length requestMark.length with hlt | hge
      · exact absurd ⟨List.prefix_of_prefix_length_le (List.take_prefix m data) hr (by omega), hlt⟩
          hu
      · exact List.prefix_of_prefix_length_le hr (List.take_prefix m data) hge
    have hnone := (Http.incremental_requestBoundary p.limit).take_lt hb hm
    have hbounds := Http.requestBoundary_bounds hb
    have hshort : ¬ (data.take m).length > p.limit := by
      rw [List.length_take]
      omega
    rw [boundary_of_request hmark, hnone]
    exact if_neg hshort
  · have hr : ¬ requestMark <+: data.take m := fun hmark =>
      (decided_of_scan hs).2 (hmark.trans (List.take_prefix m data))
    rw [boundary_of_frames hu hr, (Frame.incremental_scan p.limit).take_lt hs hm]

/-- **The boundary law.**  A unit that was found is not empty and lies inside the bytes; no part of
it is taken for a unit or refused; and it is found whatever stands behind it.  What was refused
stays refused when more bytes arrive, and for the same cause, unless it was a request whose head had
not ended though it was over the limit. -/
theorem boundary_law (p : Policy) (data : Bytes) :
    (∀ n, p.boundary data = .ok (.complete n) →
      (0 < n ∧ n ≤ data.length) ∧
      (∀ m, m < n → p.boundary ((data.take n).take m) = .ok .incomplete) ∧
      ∀ more, p.boundary (data.take n ++ more) = .ok (.complete n)) ∧
    ∀ e, p.boundary data = .error e →
      ∀ more, ∃ e', p.boundary (data ++ more) = .error e' ∧
        (¬ OverlongHead p.limit data → e' = e) := by
  constructor
  · intro n h
    refine ⟨boundary_bounds h, fun m hm => ?_, boundary_take_append h⟩
    rw [List.take_take, Nat.min_eq_left (Nat.le_of_lt hm)]
    exact boundary_take_lt h hm
  · intro e h more
    by_cases hhead : OverlongHead p.limit data
    · obtain ⟨e', he'⟩ := boundary_append_of_overlongHead hhead more
      exact ⟨e', he', fun hnot => absurd hhead hnot⟩
    · exact ⟨e, boundary_append_error h hhead more, fun _ => rfl⟩

/-- A masked ping, with the first byte of another frame behind it. -/
theorem boundary_law_ping :
    (⟨64, true, ""⟩ : Policy).boundary [0x89, 0x80, 1, 2, 3, 4, 0x81] = .ok (.complete 6) ∧
      (⟨64, true, ""⟩ : Policy).boundary [0x89, 0x80, 1] = .ok .incomplete ∧
      (⟨64, true, ""⟩ : Policy).boundary [0x89, 0x80, 1, 2, 3, 4, 0x47] = .ok (.complete 6) := by
  have hfound : (⟨64, true, ""⟩ : Policy).boundary [0x89, 0x80, 1, 2, 3, 4, 0x81] =
      .ok (.complete 6) :=
    boundary_eq_complete.2 (.inr ⟨[⟨0, true, .ping, some ⟨1, 2, 3, 4⟩, 6, 0⟩],
      (Frame.scanFrom_some rfl).trans (if_pos rfl), rfl, rfl⟩)
  obtain ⟨-, hpart, hbehind⟩ := (boundary_law ⟨64, true, ""⟩ _).1 6 hfound
  exact ⟨hfound, hpart 3 (by decide), hbehind [0x47]⟩

end Policy
end WebSocket
