import WebSocket.Frame.Parse

/-!
# The frames of one message

A message is either one control frame, or the frames from the first data frame to the one with the
final bit, with control frames allowed in between.

## Main definitions

* `Frame.endsSequence` — the rule that says where a message stops.
* `Frame.scanFrom`, `Frame.scan` — the frames of the message at the head of a byte string.

## Main results

* `Frame.scanFrom_bounds` — the frames of a message lie one after the other inside the bytes.
-/

namespace WebSocket

namespace Frame

/-- Whether a message stops after `f`: after a control frame that opens it, or after a data frame
with the final bit. -/
def endsSequence (f : Frame) (opens : Bool) : Bool :=
  if f.opcode.isControl then opens else f.fin

/-- The frames of a message from position `start` on, where `rest` stands; `opens` says that none
came before.  Nothing while the message is incomplete. -/
def scanFrom (limit start : Nat) (rest : Bytes) (opens : Bool) :
    Except ProtocolError (Option (List Frame)) :=
  match _h : parseHead limit start rest with
  | .error e => .error e
  | .ok none => .ok none
  | .ok (some f) =>
    if f.endsSequence opens then .ok (some [f])
    else if f.stop > limit then .error (.tooLarge f.stop limit)
    else (scanFrom limit f.stop (rest.drop f.length) false).map (Option.map (f :: ·))
termination_by rest.length
decreasing_by
  have := parseHead_bounds _h
  simp only [List.length_drop, Frame.length] at *
  omega

/-- The frames of the message at the head of `data`, or nothing while it is incomplete. -/
def scan (limit : Nat) (data : Bytes) : Except ProtocolError (Option (List Frame)) :=
  scanFrom limit 0 data true

/-- Frames one after the other, the first at position `start`. -/
def Adjacent : (start : Nat) → List Frame → Prop
  | _, [] => True
  | start, f :: fs => f.start = start ∧ Adjacent f.stop fs

/-- The frames of a message lie one after the other inside the bytes, and there is at least one. -/
theorem scanFrom_bounds {limit start : Nat} {rest : Bytes} {opens : Bool} {fs : List Frame}
    (h : scanFrom limit start rest opens = .ok (some fs)) :
    Adjacent start fs ∧ 2 ≤ totalLength fs ∧ totalLength fs ≤ rest.length := by
  fun_induction scanFrom limit start rest opens generalizing fs with
  | case1 => simp at h
  | case2 => simp at h
  | case3 start rest opens f hf hend =>
    obtain rfl : [f] = fs := by simpa using h
    have ⟨hstart, hlen, hfit, _⟩ := parseHead_bounds hf
    refine ⟨⟨hstart, trivial⟩, ?_⟩
    simp only [totalLength]
    simp only [Frame.length] at *
    omega
  | case4 => simp at h
  | case5 start rest opens f hf hend hlim ih =>
    match hs : scanFrom limit f.stop (rest.drop f.length) false with
    | .error e => rw [hs] at h; simp [Except.map] at h
    | .ok none => rw [hs] at h; simp [Except.map] at h
    | .ok (some gs) =>
      rw [hs] at h
      obtain rfl : f :: gs = fs := by simpa [Except.map] using h
      have ⟨hstart, _, _, _⟩ := parseHead_bounds hf
      have ⟨hadj, hlow, hhigh⟩ := ih hs
      refine ⟨⟨hstart, hadj⟩, ?_⟩
      simp only [totalLength, List.length_drop] at *
      omega

end Frame

end WebSocket
