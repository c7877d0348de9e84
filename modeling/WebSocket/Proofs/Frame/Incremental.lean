import WebSocket.Frame.Sequence
import WebSocket.Proofs.Incremental

/-!
# Frames in a growing byte string

The readers of `Frame/Parse` and `Frame/Sequence` look at a header byte by byte and at a message
frame by frame.  Here each of them is opened once, into a statement of what it takes to find
something and what it takes to refuse something; that they are incremental follows.

## Main definitions

* `Frame.maskWidth` — how many bytes a mask takes.

## Main results

* `Frame.Header.parse_eq_some`, `Frame.Header.parse_eq_error` — what a header is read from.
* `Frame.incremental_parseHead` — reading one frame is incremental.
* `Frame.incremental_scanFrom` — **so is reading the frames of a whole message.**
-/

namespace WebSocket
namespace Frame

/-! ### The parts of a header -/

/-- A length is read from the bytes that follow the second one, as many as that byte says. -/
theorem readLength_eq_some {second : UInt8} {bytes rest : Bytes} {n width : Nat}
    (h : readLength second bytes = some (n, width, rest)) :
    ∃ front, bytes = front ++ rest ∧ front.length = width ∧
      ∀ more, readLength second (front ++ more) = some (n, width, more) := by
  unfold readLength at h
  simp only at h
  generalize hw : (if (second &&& 0x7F).toNat = 126 then 2
    else if (second &&& 0x7F).toNat = 127 then 8 else 0) = w at h
  by_cases hw0 : w = 0
  · rw [if_pos hw0] at h
    obtain ⟨rfl, rfl, rfl⟩ : (second &&& 0x7F).toNat = n ∧ 0 = width ∧ bytes = rest := by
      simpa using h
    refine ⟨[], rfl, rfl, fun more => ?_⟩
    unfold readLength
    simp only [hw, if_pos hw0, List.nil_append]
  · rw [if_neg hw0] at h
    obtain ⟨⟨front, tail⟩, htake, heq⟩ := Option.map_eq_some_iff.1 h
    obtain ⟨rfl, rfl, rfl⟩ : Bytes.toNatBE front = n ∧ w = width ∧ tail = rest := by
      simpa using heq
    obtain ⟨hbytes, hlen⟩ := Bytes.take?_eq_some.1 htake
    refine ⟨front, hbytes, hlen, fun more => ?_⟩
    have htake' : Bytes.take? w (front ++ more) = some (front, more) :=
      Bytes.take?_eq_some.2 ⟨rfl, hlen⟩
    unfold readLength
    simp only [hw, if_neg hw0, htake', Option.map_some]

/-- How many bytes a mask takes in a header. -/
def maskWidth (mask : Option MaskKey) : Nat := if mask.isSome then 4 else 0

theorem length_of_ofBytes? {bytes : Bytes} {key : MaskKey}
    (h : MaskKey.ofBytes? bytes = some key) : bytes.length = 4 := by
  unfold MaskKey.ofBytes? at h
  split at h
  · rfl
  · simp at h

/-- A mask is read from four bytes, and its absence from none. -/
theorem readMask_eq_some {second : UInt8} {bytes : Bytes} {mask : Option MaskKey}
    (h : readMask second bytes = some mask) :
    ∃ front rest, bytes = front ++ rest ∧ front.length = maskWidth mask ∧
      ∀ more, readMask second (front ++ more) = some mask := by
  unfold readMask at h
  by_cases hbit : (second &&& 0x80 == 0) = true
  · rw [if_pos hbit] at h
    obtain rfl : none = mask := by simpa using h
    refine ⟨[], bytes, rfl, rfl, fun more => ?_⟩
    rw [readMask, if_pos hbit]
  · rw [if_neg hbit] at h
    obtain ⟨key, hkey, rfl⟩ := Option.map_eq_some_iff.1 h
    have hfour := length_of_ofBytes? hkey
    refine ⟨bytes.take 4, bytes.drop 4, (List.take_append_drop 4 bytes).symm, hfour, fun more => ?_⟩
    rw [readMask, if_neg hbit, List.take_append_of_le_length (by omega), List.take_take,
      Nat.min_self, hkey]
    rfl

/-! ### Headers -/

/-- **What a header is read from**: a first byte that is allowed, a length within the limit, and a
mask if the second byte announces one. -/
theorem Header.parse_eq_some {limit : Nat} {bytes : Bytes} {h : Header} :
    Header.parse limit bytes = .ok (some h) ↔
      ∃ first second rest width rest', bytes = first :: second :: rest ∧
        readFirst first = .ok (h.fin, h.opcode) ∧
        readLength second rest = some (h.payloadLength, width, rest') ∧
        h.payloadLength ≤ limit ∧ readMask second rest' = some h.mask ∧
        h.length = 2 + width + maskWidth h.mask := by
  constructor
  · intro hp
    match bytes with
    | [] => simp [Header.parse] at hp
    | first :: bytes =>
      match hfirst : readFirst first with
      | .error e => simp [Header.parse, hfirst] at hp
      | .ok (fin, opcode) =>
        match bytes with
        | [] => simp [Header.parse, hfirst] at hp
        | second :: rest =>
          match hlen : readLength second rest with
          | none => simp [Header.parse, hfirst, hlen] at hp
          | some (n, width, rest') =>
            by_cases hle : n ≤ limit
            · match hmask : readMask second rest' with
              | none => simp [Header.parse, hfirst, hlen, hmask, Nat.not_lt.2 hle] at hp
              | some mask =>
                obtain rfl : ⟨fin, opcode, mask, 2 + width + maskWidth mask, n⟩ = h := by
                  simpa [Header.parse, hfirst, hlen, hmask, Nat.not_lt.2 hle, maskWidth] using hp
                exact ⟨first, second, rest, width, rest', rfl, hfirst, hlen, hle, hmask, rfl⟩
            · simp [Header.parse, hfirst, hlen, Nat.lt_of_not_le hle] at hp
  · rintro ⟨first, second, rest, width, rest', rfl, hfirst, hlen, hle, hmask, hsize⟩
    have hnot : ¬ h.payloadLength > limit := by omega
    simp only [Header.parse, hfirst, hlen, hmask, if_neg hnot]
    cases h
    simp only at hsize
    rw [hsize]
    rfl

/-- **What a header is refused for**: its first byte, or a length over the limit. -/
theorem Header.parse_eq_error {limit : Nat} {bytes : Bytes} {e : ProtocolError} :
    Header.parse limit bytes = .error e ↔
      (∃ first rest, bytes = first :: rest ∧ readFirst first = .error e) ∨
        ∃ first second rest said n width rest', bytes = first :: second :: rest ∧
          readFirst first = .ok said ∧ readLength second rest = some (n, width, rest') ∧
          limit < n ∧ e = .tooLarge n limit := by
  constructor
  · intro hp
    match bytes with
    | [] => simp [Header.parse] at hp
    | first :: bytes =>
      match hfirst : readFirst first with
      | .error e' =>
        obtain rfl : e' = e := by simpa [Header.parse, hfirst] using hp
        exact .inl ⟨first, bytes, rfl, hfirst⟩
      | .ok (fin, opcode) =>
        match bytes with
        | [] => simp [Header.parse, hfirst] at hp
        | second :: rest =>
          match hlen : readLength second rest with
          | none => simp [Header.parse, hfirst, hlen] at hp
          | some (n, width, rest') =>
            by_cases hle : n ≤ limit
            · cases hmask : readMask second rest' <;>
                simp [Header.parse, hfirst, hlen, hmask, Nat.not_lt.2 hle] at hp
            · have hlt : limit < n := Nat.lt_of_not_le hle
              obtain rfl : ProtocolError.tooLarge n limit = e := by
                simpa [Header.parse, hfirst, hlen, hlt] using hp
              exact .inr ⟨first, second, rest, (fin, opcode), n, width, rest', rfl, hfirst, hlen,
                hlt, rfl⟩
  · rintro (⟨first, rest, rfl, hfirst⟩ |
      ⟨first, second, rest, ⟨fin, opcode⟩, n, width, rest', rfl, hfirst, hlen, hlt, rfl⟩)
    · simp only [Header.parse, hfirst]
    · simp only [Header.parse, hfirst, hlen, if_pos (show n > limit from hlt)]

/-- Reading a header is incremental. -/
theorem incremental_header (limit : Nat) : Incremental Header.length (Header.parse limit) where
  found := by
    intro data h hp
    obtain ⟨first, second, rest, width, rest', rfl, hfirst, hlen, hle, hmask, hsize⟩ :=
      Header.parse_eq_some.1 hp
    obtain ⟨lengthBytes, rfl, hwidth, hlen'⟩ := readLength_eq_some hlen
    obtain ⟨maskBytes, tail, rfl, hmaskWidth, hmask'⟩ := readMask_eq_some hmask
    refine ⟨first :: second :: (lengthBytes ++ maskBytes), tail, by simp, ?_, fun more => ?_⟩
    · simp only [List.length_cons, List.length_append]
      omega
    · rw [Header.parse_eq_some]
      refine ⟨first, second, lengthBytes ++ maskBytes ++ more, width, maskBytes ++ more, by simp,
        hfirst, ?_, hle, hmask' more, hsize⟩
      rw [List.append_assoc]
      exact hlen' (maskBytes ++ more)
  refused := by
    intro data e hp more
    rw [Header.parse_eq_error] at hp ⊢
    rcases hp with ⟨first, rest, rfl, hfirst⟩ |
      ⟨first, second, rest, said, n, width, rest', rfl, hfirst, hlen, hlt, rfl⟩
    · exact .inl ⟨first, rest ++ more, rfl, hfirst⟩
    · obtain ⟨lengthBytes, rfl, -, hlen'⟩ := readLength_eq_some hlen
      refine .inr ⟨first, second, lengthBytes ++ rest' ++ more, said, n, width, rest' ++ more, rfl,
        hfirst, ?_, hlt, rfl⟩
      rw [List.append_assoc]
      exact hlen' (rest' ++ more)

/-! ### One frame -/

/-- A frame is found when its header is and all of its payload has arrived. -/
theorem parseHead_eq_some {limit start : Nat} {bytes : Bytes} {f : Frame} :
    parseHead limit start bytes = .ok (some f) ↔
      ∃ h : Header, Header.parse limit bytes = .ok (some h) ∧
        h.length + h.payloadLength ≤ bytes.length ∧ h.frameAt start = f := by
  constructor
  · intro hf
    unfold parseHead at hf
    repeat' split at hf
    all_goals simp only [reduceCtorEq, Except.ok.injEq, Option.some.injEq] at hf
    next h hh hfits => exact ⟨h, hh, Bytes.reaches_iff.1 hfits, hf⟩
  · rintro ⟨h, hh, hfits, rfl⟩
    simp only [parseHead, hh, if_pos (Bytes.reaches_iff.2 hfits)]

/-- A frame is refused for its header. -/
theorem parseHead_eq_error {limit start : Nat} {bytes : Bytes} {e : ProtocolError} :
    parseHead limit start bytes = .error e ↔ Header.parse limit bytes = .error e := by
  constructor
  · intro hf
    unfold parseHead at hf
    repeat' split at hf
    all_goals simp only [reduceCtorEq, Except.error.injEq] at hf
    next e' he => rw [he, hf]
  · intro he
    simp only [parseHead, he]

/-- Reading one frame is incremental. -/
theorem incremental_parseHead (limit start : Nat) :
    Incremental Frame.length (parseHead limit start) where
  found := by
    intro data f hf
    obtain ⟨h, hh, hfits, rfl⟩ := parseHead_eq_some.1 hf
    have hlen : (data.take (h.length + h.payloadLength)).length = h.length + h.payloadLength := by
      rw [List.length_take]
      omega
    refine ⟨data.take (h.length + h.payloadLength), data.drop (h.length + h.payloadLength),
      (List.take_append_drop _ _).symm, hlen, fun more => ?_⟩
    rw [parseHead_eq_some]
    refine ⟨h, ?_, ?_, rfl⟩
    · -- The header stands in the first part of these bytes.
      have hhead := (incremental_header limit).take_append hh
        ((data.drop h.length).take h.payloadLength ++ more)
      rwa [← List.append_assoc, ← List.take_add] at hhead
    · rw [List.length_append, hlen]
      exact Nat.le_add_right _ _
  refused := by
    intro data e hf more
    rw [parseHead_eq_error] at hf ⊢
    exact (incremental_header limit).refused hf more

/-! ### The frames of a message -/

theorem scanFrom_error {limit start : Nat} {rest : Bytes} {opens : Bool} {e : ProtocolError}
    (h : parseHead limit start rest = .error e) : scanFrom limit start rest opens = .error e := by
  rw [scanFrom]
  split
  · next he => rw [h] at he; simpa using he.symm
  · next hn => rw [h] at hn; simp at hn
  · next hf => rw [h] at hf; simp at hf

theorem scanFrom_none {limit start : Nat} {rest : Bytes} {opens : Bool}
    (h : parseHead limit start rest = .ok none) : scanFrom limit start rest opens = .ok none := by
  rw [scanFrom]
  split
  · next he => rw [h] at he; simp at he
  · rfl
  · next hf => rw [h] at hf; simp at hf

/-- One step of a scan: the frame at the head ends the message, or goes over the limit, or more
frames follow it. -/
theorem scanFrom_some {limit start : Nat} {rest : Bytes} {opens : Bool} {f : Frame}
    (h : parseHead limit start rest = .ok (some f)) :
    scanFrom limit start rest opens =
      if f.endsSequence opens then .ok (some [f])
      else if f.stop > limit then .error (.tooLarge f.stop limit)
      else (scanFrom limit f.stop (rest.drop f.length) false).map (Option.map (f :: ·)) := by
  rw [scanFrom]
  split
  · next he => rw [h] at he; simp at he
  · next hn => rw [h] at hn; simp at hn
  · next g hg =>
    obtain rfl : f = g := by simpa [h] using hg
    rfl

/-- What the rest of a scan has to find for the whole to find something. -/
theorem map_cons_eq_some {r : Except ProtocolError (Option (List Frame))} {f : Frame}
    {fs : List Frame} (h : r.map (Option.map (f :: ·)) = .ok (some fs)) :
    ∃ gs, r = .ok (some gs) ∧ fs = f :: gs := by
  match r with
  | .error e => simp [Except.map] at h
  | .ok none => simp [Except.map] at h
  | .ok (some gs) => exact ⟨gs, rfl, by simpa [Except.map, eq_comm] using h⟩

theorem map_cons_eq_error {r : Except ProtocolError (Option (List Frame))} {f : Frame}
    {e : ProtocolError} (h : r.map (Option.map (f :: ·)) = .error e) : r = .error e := by
  match r with
  | .error e' => simpa [Except.map] using h
  | .ok _ => simp [Except.map] at h

/-- **Reading the frames of a message is incremental.**  The induction is on the frames: each is
found by its own bytes, and the scan goes on behind it. -/
theorem incremental_scanFrom (limit start : Nat) (opens : Bool) :
    Incremental totalLength (scanFrom limit start · opens) where
  found := by
    intro data fs hfs
    fun_induction scanFrom limit start data opens generalizing fs with
    | case1 => simp at hfs
    | case2 => simp at hfs
    | case3 start rest opens f hf hend =>
      obtain rfl : [f] = fs := by simpa using hfs
      obtain ⟨front, tail, hrest, hlen, hfront⟩ := (incremental_parseHead limit start).found hf
      refine ⟨front, tail, hrest, by simpa [totalLength] using hlen, fun more => ?_⟩
      rw [scanFrom_some (hfront more), if_pos hend]
    | case4 => simp at hfs
    | case5 start rest opens f hf hend hlim ih =>
      obtain ⟨gs, hgs, rfl⟩ := map_cons_eq_some hfs
      obtain ⟨front, tail, rfl, hlen, hfront⟩ := (incremental_parseHead limit start).found hf
      have hdrop : (front ++ tail).drop f.length = tail := by rw [← hlen, List.drop_left]
      rw [hdrop] at hgs ih
      obtain ⟨front', tail', rfl, hlen', hfront'⟩ := ih hgs
      refine ⟨front ++ front', tail', by simp, ?_, fun more => ?_⟩
      · rw [List.length_append, hlen, hlen']
        rfl
      · have hdrop' : (front ++ (front' ++ more)).drop f.length = front' ++ more := by
          rw [← hlen, List.drop_left]
        rw [List.append_assoc, scanFrom_some (hfront (front' ++ more)), if_neg hend, if_neg hlim,
          hdrop', hfront' more]
        rfl
  refused := by
    intro data e he more
    fun_induction scanFrom limit start data opens with
    | case1 start rest opens e' hf =>
      obtain rfl : e' = e := by simpa using he
      exact scanFrom_error ((incremental_parseHead limit start).refused hf more)
    | case2 => simp at he
    | case3 => simp at he
    | case4 start rest opens f hf hend hlim =>
      rw [scanFrom_some ((incremental_parseHead limit start).append hf more), if_neg hend,
        if_pos hlim]
      exact he
    | case5 start rest opens f hf hend hlim ih =>
      have hle := (incremental_parseHead limit start).size_le hf
      rw [scanFrom_some ((incremental_parseHead limit start).append hf more), if_neg hend,
        if_neg hlim, List.drop_append_of_le_length hle, ih (map_cons_eq_error he)]
      rfl

theorem incremental_scan (limit : Nat) : Incremental totalLength (scan limit) :=
  incremental_scanFrom limit 0 true

end Frame
end WebSocket
