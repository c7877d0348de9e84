import WebSocket.Proofs.Policy.Grammar
import WebSocket.Proofs.Session.Units

/-!
# How long a unit can be

The limit is asked for in three places: of the payload that a frame declares, of the end of every
frame after which a message goes on, and of a request as a whole.  Nothing asks for the end of the
last frame, so a message of frames may pass the limit: by a header where it is one frame, and by
nearly the limit once more where other frames came before.  Under every limit that a server accepts
there are such messages.  What keeps them out of a session is its buffer, which is no larger than
the limit.

## Main definitions

* `Frame.longestHeader` — the bytes of the longest header.
* `Policy.longest` — the frames of the longest unit.

## Main results

* `Policy.boundary_length` — **how long a unit can be**: a request is within the limit, a message of
  frames without its last frame is, and so is the payload of that one.
* `Policy.exists_boundary_length` — no smaller bound holds, under any limit.
* `Policy.length_of_carve` — a reader with a buffer of the size of the limit meets no unit over it.
-/

namespace WebSocket

/-- The bytes of the longest header: two, a length in eight, and a mask. -/
def Frame.longestHeader : Nat := 14

namespace Written

variable {limit : Nat}

theorem length_header_le (w : Written) : w.header.length ≤ Frame.longestHeader := by
  have hform : w.form.width ≤ 8 := by cases w.form <;> decide
  have hmask : Frame.maskWidth w.mask ≤ 4 := by
    unfold Frame.maskWidth
    split <;> omega
  rw [length_header, Frame.longestHeader]
  omega

/-- Frames that end within the limit are within the limit together. -/
theorem length_wire_le {start : Nat} {ws : List Written} (hstart : start ≤ limit)
    (h : ∀ f ∈ framesAt start ws, f.stop ≤ limit) : start + (wire ws).length ≤ limit := by
  induction ws generalizing start with
  | nil => exact hstart
  | cons w rest ih =>
    obtain ⟨hhead, htail⟩ := List.forall_mem_cons.1 h
    rw [stop_frameAt] at hhead
    have hrest := ih hhead htail
    rw [wire_cons, List.length_append]
    omega

theorem length_wire_concat (front : List Written) (last : Written) :
    (wire (front ++ [last])).length =
      (wire front).length + last.header.length + last.payload.length := by
  rw [wire, List.flatMap_append, List.length_append, ← wire, ← wire, wire_single, length_bytes]
  omega

/-- A frame of zeros under the longest header. -/
def ample (opcode : Opcode) (fin : Bool) (n : Nat) : Written :=
  ⟨opcode, fin, ⟨0, by decide⟩, .long, List.replicate n 0, some ⟨0, 0, 0, 0⟩⟩

theorem length_ample (opcode : Opcode) (fin : Bool) (n : Nat) :
    (ample opcode fin n).bytes.length = Frame.longestHeader + n := by
  rw [length_bytes, length_header]
  simp [ample, LengthForm.width, Frame.maskWidth, Frame.longestHeader]

theorem Proper.ample {opcode : Opcode} {fin : Bool} {n : Nat}
    (hwhole : opcode.isControl = true → fin = true) (hword : n < Text.wordLimit)
    (hfits : n ≤ limit) : (Written.ample opcode fin n).Proper limit where
  whole := hwhole
  told := by
    show (List.replicate n 0).length < Text.wordLimit
    rwa [List.length_replicate]
  fits := by simpa [Written.ample] using hfits

/-- The frames of a message have a last one. -/
theorem Whole.exists_concat {ws : List Written} (h : Whole ws) :
    ∃ front last, ws = front ++ [last] := by
  obtain ⟨w, rfl, -⟩ | ⟨front, last, rfl, -⟩ := h
  · exact ⟨[], w, rfl⟩
  · exact ⟨front, last, rfl⟩

end Written

namespace Policy

variable {p : Policy} {data : Bytes} {n : Nat}

/-- A request is within the limit as a whole. -/
theorem length_of_request (h : p.boundary data = .ok (.complete n)) (hr : requestMark <+: data) :
    n ≤ p.limit := by
  obtain ⟨_, _, -, hsize, -⟩ := Http.requestBoundary_eq_some.1 (request_of_boundary h hr)
  obtain ⟨_, -, -, -, hlimit⟩ := Http.requestSize_eq_ok.1 hsize
  exact hlimit

/-- Of frames, those before the last are within the limit, and the payload of the last is. -/
theorem length_of_frames (h : p.boundary data = .ok (.complete n)) (hr : ¬ requestMark <+: data) :
    ∃ front last, data.take n = Written.wire (front ++ [last]) ∧
      (Written.wire front).length ≤ p.limit ∧ last.payload.length ≤ p.limit := by
  obtain ⟨frames, hs, -, rfl⟩ := frames_of_boundary h hr
  obtain ⟨ws, ⟨rest, rfl⟩, rfl, hproper, hends, hwhole⟩ := Written.scan_eq_some.1 hs
  obtain ⟨front, last, rfl⟩ := hwhole.exists_concat
  rw [Written.framesAt_concat, List.dropLast_concat] at hends
  refine ⟨front, last, ?_, ?_, (hproper last (by simp)).fits⟩
  · rw [Written.totalLength_framesAt, List.take_left]
  · have := Written.length_wire_le (Nat.zero_le _) hends
    omega

/-- **How long a unit can be.**  A request is within the limit.  Of frames, those before the last
are within the limit and the payload of the last is, so a unit has at most twice the limit and the
bytes of one header. -/
theorem boundary_length (h : p.boundary data = .ok (.complete n)) :
    (requestMark <+: data → n ≤ p.limit) ∧
      (¬ requestMark <+: data → ∃ front last, data.take n = Written.wire (front ++ [last]) ∧
        (Written.wire front).length ≤ p.limit ∧ last.payload.length ≤ p.limit) ∧
      n ≤ 2 * p.limit + Frame.longestHeader := by
  refine ⟨length_of_request h, length_of_frames h, ?_⟩
  by_cases hr : requestMark <+: data
  · have := length_of_request h hr
    omega
  · obtain ⟨front, last, htake, hfront, hlast⟩ := length_of_frames h hr
    have hn := congrArg List.length htake
    have hheader := last.length_header_le
    rw [List.length_take_of_le (boundary_bounds h).2, Written.length_wire_concat] at hn
    omega

/-- One masked frame with a payload of fourteen bytes. -/
def overfull : Bytes := [0x82, 0x8E, 1, 2, 3, 4] ++ List.replicate 14 0x61

/-- Twenty bytes are a unit under a limit of fourteen: one frame, whose payload is within the
limit. -/
theorem boundary_length_overfull :
    (⟨14, true, ""⟩ : Policy).boundary overfull = .ok (.complete 20) ∧
      (∃ front last, overfull.take 20 = Written.wire (front ++ [last]) ∧
        (Written.wire front).length ≤ 14 ∧ last.payload.length ≤ 14) ∧
      20 ≤ 2 * 14 + Frame.longestHeader := by
  have hunit : (⟨14, true, ""⟩ : Policy).boundary overfull = .ok (.complete 20) := by
    decide +kernel
  obtain ⟨-, hframes, hlength⟩ := boundary_length hunit
  exact ⟨hunit, hframes (by decide), hlength⟩

/-- The limit is no bound on the length of a unit. -/
theorem not_length_le_limit :
    ¬ ∀ (p : Policy) (data : Bytes) (n : Nat),
      p.boundary data = .ok (.complete n) → n ≤ p.limit := by
  intro h
  exact absurd (h ⟨14, true, ""⟩ overfull 20 (by decide +kernel)) (by decide)

/-! ### The bound is met -/

/-- Frames that a server takes are a unit. -/
theorem boundary_wire {ws : List Written} (h : p.Admits ws) (hwhole : Written.Whole ws)
    (rest : Bytes) :
    p.boundary (Written.wire ws ++ rest) = .ok (.complete (Written.wire ws).length) := by
  refine boundary_eq_complete.2 (.inr ⟨Written.framesAt 0 ws, ?_, ?_, ?_⟩)
  · exact Written.scan_eq_some.2 ⟨ws, List.prefix_append .., rfl, h.proper, h.ends, hwhole⟩
  · exact checkMasks_framesAt.2 h.masked
  · exact Written.totalLength_framesAt 0 ws

/-- The frames of the longest unit: one that ends where the limit is, and one with a payload of the
size of the limit. -/
def longest (p : Policy) : List Written :=
  [.ample .binary false (p.limit - Frame.longestHeader), .ample .continuation true p.limit]

theorem length_wire_longest (h : Frame.longestHeader ≤ p.limit) :
    (Written.wire p.longest).length = 2 * p.limit + Frame.longestHeader := by
  rw [longest, Written.wire_cons, Written.wire_single, List.length_append, Written.length_ample,
    Written.length_ample]
  omega

theorem admits_longest (hlow : Frame.longestHeader ≤ p.limit) (hhigh : p.limit < Text.wordLimit) :
    p.Admits p.longest := by
  refine ⟨?_, fun _ => ?_, ?_⟩
  · refine List.forall_mem_cons.2 ⟨.ample (by simp [Opcode.isControl]) (by omega) (by omega), ?_⟩
    exact List.forall_mem_singleton.2 (.ample (by simp [Opcode.isControl]) hhigh (Nat.le_refl _))
  · simp [longest, Written.ample]
  · -- The first frame ends exactly where the limit is.
    refine List.forall_mem_singleton.2 ?_
    rw [Written.stop_frameAt, Written.length_ample]
    omega

/-- **No smaller bound holds**: under every limit that a header fits into and that 64 bits can tell,
there is a unit of this length. -/
theorem exists_boundary_length (hlow : Frame.longestHeader ≤ p.limit)
    (hhigh : p.limit < Text.wordLimit) :
    ∃ data, p.boundary data = .ok (.complete (2 * p.limit + Frame.longestHeader)) := by
  have hwhole : Written.Whole p.longest :=
    .inr ⟨[_], _, rfl, ⟨rfl, rfl⟩, by simp [Written.Goes, Written.ample],
      by simp [longest, Written.ample, Opcode.isControl]⟩
  have hunit := boundary_wire (admits_longest hlow hhigh) hwhole []
  rw [length_wire_longest hlow] at hunit
  exact ⟨_, hunit⟩

/-! ### In a session -/

/-- A reader with a buffer of the size of the limit meets no unit over the limit. -/
theorem length_of_carve (p : Policy) (stream : Bytes) {unit : Bytes}
    (h : unit ∈ (p.carve stream).units) : unit.length ≤ p.limit := by
  fun_induction carve p stream with
  | case1 => simp at h
  | case2 => simp at h
  | case3 => simp at h
  | case4 stream n hn ih =>
    rcases List.mem_cons.1 h with rfl | hrest
    · have := (boundary_bounds hn).2
      simp only [List.length_take] at *
      omega
    · exact ih hrest

end Policy
end WebSocket
