import Mathlib.Algebra.Group.Nat.Defs
import WebSocket.Frame.Cursor
import WebSocket.Proofs.Frame.Written
import WebSocket.Session.Error

/-!
# Reading frames stays within words

A header declares lengths up to the largest word, and a reader adds them to its positions before it
compares the sum with the bytes that there are.  What keeps these sums words is that the bytes of
the header itself are there, so that its end is a position in the bytes, and that the payload is
within the limit.  So nothing overflows as long as the number of bytes and the limit together are a
word, and beyond that something does.

## Main definitions

* `Frame.Header.spanAt` — the one sum behind a header.
* `Frame.Inside` — a frame inside the bytes that it was read from.
* `Frame.Scanned` — the frames of one message, as a scan found them.

## Main results

* `Span.parse_eq_bind` — up to the payload no sum overflows, whatever the limit is.
* `Span.parse_eq`, `Span.scanFrom_eq` — reading by position is at no fault, and finds what the
  readers find that have no words.
* `Span.exists_overflow` — where the number of bytes and the limit together are no word, a sum
  overflows.
* `Frame.reading_in_words` — **all sums are words, all frames lie inside the bytes, and a scan is
  over** after a round for every two bytes and one more.
-/

namespace WebSocket

open Cursor

namespace Cursor

/-! ### The parts of a header -/

variable {data : Bytes} {i : Nat}

/-- What stands behind a piece of the bytes. -/
theorem drop_add {front rest : Bytes} (hi : i ≤ data.length) (h : data.drop i = front ++ rest) :
    data.drop (i + front.length) = rest ∧ i + front.length ≤ data.length := by
  have hlen := congrArg List.length h
  rw [List.length_drop, List.length_append] at hlen
  refine ⟨?_, by omega⟩
  rw [← List.drop_drop, h, List.drop_left]

theorem drop_succ {b : UInt8} {rest : Bytes} (h : data.drop i = b :: rest) :
    data.drop (i + 1) = rest ∧ i + 1 ≤ data.length := by
  have hlen := congrArg List.length h
  rw [List.length_drop, List.length_cons] at hlen
  have hcut : data.drop i = [b] ++ rest := h
  exact drop_add (by omega) hcut

/-- There are enough bytes from a position on where the position behind them is one. -/
theorem reaches_drop {k : Nat} (hi : i ≤ data.length) :
    Bytes.reaches k (data.drop i) = true ↔ i + k ≤ data.length := by
  rw [Bytes.reaches_iff, List.length_drop]
  omega

theorem byteAt_of_drop_nil (h : data.drop i = []) : byteAt data i = .error .missing := by
  rw [byteAt, ← List.head?_drop, h]
  rfl

theorem byteAt_of_drop_cons {b : UInt8} {rest : Bytes} (h : data.drop i = b :: rest) :
    byteAt data i = .ok b := by
  rw [byteAt, ← List.head?_drop, h]
  rfl

/-- Four bytes are a key, and fewer are none. -/
theorem exists_ofBytes?_take {bytes : Bytes} :
    (∃ key, MaskKey.ofBytes? (bytes.take 4) = some key) ↔ 4 ≤ bytes.length := by
  constructor
  · rintro ⟨key, hkey⟩
    have hfour := Frame.length_of_ofBytes? hkey
    rw [List.length_take] at hfour
    omega
  · intro h
    match bytes, h with
    | k0 :: k1 :: k2 :: k3 :: _, _ => exact ⟨⟨k0, k1, k2, k3⟩, rfl⟩

section

variable (hdata : data.length + 8 < Text.wordLimit) (hi : i ≤ data.length)

include hdata hi

/-- A few bytes are there or missing: the position behind them is a word in either case. -/
theorem bytesAt_eq {k : Nat} (hk : k ≤ 8) :
    bytesAt data i k =
      (Halt.ofReading (.ok (Bytes.take? k (data.drop i)))).map fun p => (p.1, i + k) := by
  rw [bytesAt, add_eq_ok (by omega), ok_bind, Bytes.take?]
  by_cases hfits : i + k ≤ data.length
  · rw [ensure_eq_ok hfits, if_pos ((reaches_drop hi).2 hfits)]
    rfl
  · rw [ensure_eq_error hfits, if_neg (mt (reaches_drop hi).1 hfits)]
    rfl

/-- The length is found by position as it is in the bytes that are left. -/
theorem lengthAt_eq (second : UInt8) :
    lengthAt data second i = (Halt.ofReading (.ok (Frame.readLength second (data.drop i)))).map
      fun p => (p.1, i + p.2.1) := by
  unfold lengthAt Frame.readLength
  simp only
  by_cases hshort : (second &&& 0x7F).toNat = 126
  · simp only [if_pos hshort, bytesAt_eq hdata hi (show 2 ≤ 8 by decide)]
    cases Bytes.take? 2 (data.drop i) <;> rfl
  · by_cases hlong : (second &&& 0x7F).toNat = 127
    · simp only [if_neg hshort, if_pos hlong, bytesAt_eq hdata hi (Nat.le_refl 8)]
      cases Bytes.take? 8 (data.drop i) <;> rfl
    · simp only [if_neg hshort, if_neg hlong]
      rfl

/-- So is the mask. -/
theorem maskAt_eq (second : UInt8) :
    maskAt data second i = (Halt.ofReading (.ok (Frame.readMask second (data.drop i)))).map
      fun mask => (mask, i + Frame.maskWidth mask) := by
  unfold maskAt Frame.readMask
  by_cases hbit : (second &&& 0x80 == 0) = true
  · rw [if_pos hbit, if_pos hbit]
    rfl
  · rw [if_neg hbit, if_neg hbit, bytesAt_eq hdata hi (show 4 ≤ 8 by decide), Bytes.take?]
    cases hkey : MaskKey.ofBytes? ((data.drop i).take 4) with
    | some key =>
      have hreach := Bytes.reaches_iff.2 (exists_ofBytes?_take.1 ⟨key, hkey⟩)
      simp only [if_pos hreach, Halt.ofReading, Except.map, ok_bind, hkey]
      rfl
    | none =>
      have hshort : ¬ Bytes.reaches 4 (data.drop i) = true := by
        intro hreach
        obtain ⟨key, hkey'⟩ := exists_ofBytes?_take.2 (Bytes.reaches_iff.1 hreach)
        simp [hkey] at hkey'
      rw [if_neg hshort]
      rfl

end

end Cursor

/-! ### One frame -/

/-- Behind a header one sum is left: that of the position that was reached and the length that was
declared. -/
def Frame.Header.spanAt (h : Header) (data : Bytes) (start : Nat) : Except Halt Span := do
  let stop ← add (start + h.length) h.payloadLength
  ensure (stop ≤ data.length) .missing
  let length ← sub stop start
  return ⟨start, length, h.fin, h.opcode, h.mask, start + h.length, h.payloadLength⟩

/-- Where that sum is a word, the frame is found if all of its payload is there. -/
theorem Frame.Header.spanAt_eq {h : Header} {data : Bytes} {start : Nat}
    (hstart : start ≤ data.length)
    (hword : start + h.length + h.payloadLength < Text.wordLimit) :
    h.spanAt data start = if Bytes.reaches (h.length + h.payloadLength) (data.drop start) then
      .ok (h.frameAt start).span else .error .missing := by
  have hreach : Bytes.reaches (h.length + h.payloadLength) (data.drop start) = true ↔
      start + h.length + h.payloadLength ≤ data.length := by
    rw [reaches_drop hstart, Nat.add_assoc]
  rw [spanAt, add_eq_ok hword, ok_bind]
  by_cases hstop : start + h.length + h.payloadLength ≤ data.length
  · have hlength : start + h.length + h.payloadLength - start = h.length + h.payloadLength := by
      omega
    rw [ensure_eq_ok hstop, ok_bind, sub_eq_ok (by omega), ok_bind, hlength,
      if_pos (hreach.2 hstop)]
    rfl
  · rw [ensure_eq_error hstop, error_bind, if_neg (mt hreach.1 hstop)]

namespace Span

variable {limit start : Nat} {data : Bytes}

/-- **Up to the payload no sum overflows**, whatever the limit is.  The bytes are opened one after
the other, and where one of them was there the position behind it is no further than the end. -/
theorem parse_eq_bind (hdata : data.length + 8 < Text.wordLimit) :
    parse limit data start =
      Halt.ofReading (Frame.Header.parse limit (data.drop start)) >>= (·.spanAt data start) := by
  cases hrest : data.drop start with
  | nil =>
    rw [parse, byteAt_of_drop_nil hrest]
    rfl
  | cons first rest =>
    obtain ⟨hrest1, hone⟩ := drop_succ hrest
    rw [parse, byteAt_of_drop_cons hrest, ok_bind, Frame.Header.parse]
    cases Frame.readFirst first with
    | error e => rfl
    | ok said =>
      simp only [mapError_ok, ok_bind, add_eq_ok (show start + 1 < Text.wordLimit by omega)]
      cases rest with
      | nil =>
        rw [byteAt_of_drop_nil hrest1]
        rfl
      | cons second rest =>
        obtain ⟨hrest2, htwo⟩ := drop_succ hrest1
        simp only [byteAt_of_drop_cons hrest1, ok_bind,
          add_eq_ok (show start + 2 < Text.wordLimit by omega)]
        rw [lengthAt_eq hdata htwo, hrest2]
        cases hlen : Frame.readLength second rest with
        | none => rfl
        | some p =>
          obtain ⟨n, width, rest'⟩ := p
          -- The length was there, so the position behind it is one in the bytes.
          obtain ⟨front, rfl, rfl, -⟩ := Frame.readLength_eq_some hlen
          obtain ⟨hrest3, hthree⟩ := drop_add htwo hrest2
          simp only [Halt.ofReading, Except.map, ok_bind]
          by_cases hle : n ≤ limit
          · rw [ensure_eq_ok hle, ok_bind, if_neg (Nat.not_lt.2 hle), maskAt_eq hdata hthree,
              hrest3]
            cases Frame.readMask second rest' with
            | none => rfl
            | some mask =>
              have hreached : start + 2 + front.length + Frame.maskWidth mask =
                  start + (2 + front.length + Frame.maskWidth mask) := by omega
              simp only [Halt.ofReading, Except.map, ok_bind, hreached]
              rfl
          · rw [ensure_eq_error hle, if_pos (Nat.lt_of_not_le hle)]
            rfl

/-- **Where the number of bytes and the limit together are no word, a sum overflows**: that of the
end of a header that stands at the end of the bytes, and of the length that it declares. -/
theorem exists_overflow {n : Nat} (hlow : 10 ≤ n) (hword : n + 8 < Text.wordLimit)
    (h : Text.wordLimit ≤ n + limit) :
    ∃ data start, data.length = n ∧ parse limit data start = .error (.fault .overflow) := by
  let w : Written :=
    ⟨.binary, true, 0, .long, List.replicate (Text.wordLimit - n) 0, none⟩
  have hpayload : w.payload.length = Text.wordLimit - n := List.length_replicate
  have hheader : w.header.length = 10 := Written.length_header w
  have htold : LengthForm.long.Fits w.payload.length := by
    rw [hpayload]
    show Text.wordLimit - n < Text.wordLimit
    omega
  have hproper : w.Proper limit := ⟨by simp [w, Opcode.isControl], htold, by omega⟩
  have hfront : (List.replicate (n - 10) (0 : UInt8)).length = n - 10 := List.length_replicate
  have hlen : (List.replicate (n - 10) 0 ++ w.header).length = n := by
    rw [List.length_append, hheader, hfront]
    omega
  refine ⟨List.replicate (n - 10) 0 ++ w.header, n - 10, hlen, ?_⟩
  have hdrop : (List.replicate (n - 10) 0 ++ w.header).drop (n - 10) = w.header :=
    List.drop_left' hfront
  have hread := Written.parse_eq_some.2 ⟨w, hproper, List.prefix_rfl, rfl⟩
  have hsum : Text.wordLimit ≤ n - 10 + w.header.length + w.payload.length := by omega
  rw [parse_eq_bind (by rw [hlen]; exact hword), hdrop, hread]
  show (add (n - 10 + w.header.length) w.payload.length >>= _) = _
  rw [add_eq_error hsum, error_bind]

/-- A limit of the size of the largest word lets a header of ten bytes declare too much. -/
example : parse (2 ^ 64 - 1) ([0x82, 0x7F] ++ List.replicate 8 0xFF) 0 =
    .error (.fault .overflow) := by decide +kernel

variable (hdata : data.length + 8 < Text.wordLimit) (hsum : data.length + limit < Text.wordLimit)

include hdata hsum

/-- **One frame is read without a fault.**  The end of the header is a position in the bytes and the
payload is within the limit, so their sum is a word. -/
theorem parse_eq :
    parse limit data start = (Halt.ofReading (Frame.parse limit data start)).map Frame.span := by
  rw [parse_eq_bind hdata, Frame.parse, Frame.parseHead]
  cases hread : Frame.Header.parse limit (data.drop start) with
  | error e => rfl
  | ok found =>
    cases found with
    | none => rfl
    | some h =>
      have hheader := (Frame.incremental_header limit).size_le hread
      obtain ⟨hlow, hpayload⟩ := Frame.Header.parse_bounds hread
      rw [List.length_drop] at hheader
      have hspan := h.spanAt_eq (show start ≤ data.length by omega) (by omega)
      simp only [Halt.ofReading, ok_bind, hspan]
      split <;> rfl

omit hdata hsum

/-! ### The frames of a message -/

theorem stop_span {f : Frame} (h : f.stop < Text.wordLimit) : f.span.stop = .ok f.stop :=
  add_eq_ok h

/-- Both readers stop behind the same frame. -/
theorem ite_endsSequence {α : Type} (f : Frame) (before : List Frame) (done more : α) :
    (if f.span.opcode.isControl && (before.map Frame.span ++ [f.span]).length == 1 then done
      else if !f.span.opcode.isControl && f.span.fin then done else more) =
      if f.endsSequence before.isEmpty then done else more := by
  cases hcontrol : f.opcode.isControl with
  | false => simp [Frame.span, Frame.endsSequence, hcontrol]
  | true => cases before <;> simp [Frame.span, Frame.endsSequence, hcontrol]

/-- **One round of a scan**, where the frame at this position is read: it ends the message, or goes
over the limit, or more rounds follow. -/
theorem scanFrom_of_parse {rounds : Nat} {f : Frame} (before : List Frame)
    (h : parse limit data start = .ok f.span) (hword : f.stop < Text.wordLimit) :
    scanFrom limit data (rounds + 1) start (before.map Frame.span) =
      if f.endsSequence before.isEmpty then .ok ((before ++ [f]).map Frame.span)
      else if f.stop > limit then .error (.refused (.tooLarge f.stop limit))
      else scanFrom limit data rounds f.stop ((before ++ [f]).map Frame.span) := by
  have hfound : (before ++ [f]).map Frame.span = before.map Frame.span ++ [f.span] := by simp
  simp only [scanFrom, h, ok_bind, ite_endsSequence, stop_span hword, hfound]
  by_cases hlow : f.stop ≤ limit
  · rw [ensure_eq_ok hlow, ok_bind, if_neg (Nat.not_lt.2 hlow)]
    rfl
  · rw [ensure_eq_error hlow, error_bind, if_pos (Nat.lt_of_not_le hlow)]
    rfl

/-- A frame in front of those that follow, or behind those that were read before. -/
theorem ofReading_map_cons (r : Except ProtocolError (Option (List Frame))) (f : Frame)
    (before : List Frame) :
    (Halt.ofReading (r.map (Option.map (f :: ·)))).map (fun fs => (before ++ fs).map Frame.span) =
      (Halt.ofReading r).map fun fs => (before ++ [f] ++ fs).map Frame.span := by
  cases r with
  | error e => rfl
  | ok found => cases found <;> simp [Halt.ofReading, Except.map]

include hdata hsum

/-- **A scan is read without a fault**, in a round for every two bytes that are left and one more.
The induction is on the rounds: a frame that others follow has two bytes at least. -/
theorem scanFrom_eq {rounds : Nat} (before : List Frame) (hstart : start ≤ data.length)
    (hrounds : (data.length - start) / 2 + 1 ≤ rounds) :
    scanFrom limit data rounds start (before.map Frame.span) =
      (Halt.ofReading (Frame.scanFrom limit start (data.drop start) before.isEmpty)).map
        fun fs => (before ++ fs).map Frame.span := by
  induction rounds generalizing start before with
  | zero => omega
  | succ rounds ih =>
    have hread : parse limit data start =
        (Halt.ofReading (Frame.parseHead limit start (data.drop start))).map Frame.span :=
      parse_eq hdata hsum
    cases hf : Frame.parseHead limit start (data.drop start) with
    | error e =>
      rw [hf] at hread
      rw [Frame.scanFrom_error hf, scanFrom, hread]
      rfl
    | ok found =>
      rw [hf] at hread
      cases found with
      | none =>
        rw [Frame.scanFrom_none hf, scanFrom, hread]
        rfl
      | some f =>
        obtain ⟨rfl, hheader, hfits, -⟩ := Frame.parseHead_bounds hf
        have hstop : f.start + f.length = f.stop := rfl
        have htwo : 2 ≤ f.length := Nat.le_trans hheader (Nat.le_add_right _ _)
        rw [List.length_drop] at hfits
        rw [scanFrom_of_parse before hread (by omega), Frame.scanFrom_some hf]
        split
        · rfl
        · split
          · rfl
          · -- This frame took two bytes, so one round less is enough for the rest.
            have hopen : (before ++ [f]).isEmpty = false := by simp
            rw [ih (before ++ [f]) (by omega) (by omega), hopen, ofReading_map_cons,
              List.drop_drop, hstop]

/-- As many rounds are enough for a whole message. -/
theorem scan_eq : scan limit (data.length / 2 + 1) data =
    (Halt.ofReading (Frame.scan limit data)).map (List.map Frame.span) :=
  scanFrom_eq hdata hsum [] (Nat.zero_le _) (Nat.le_refl _)

omit hdata hsum

/-- The lengths of frames, summed one after the other. -/
theorem foldlM_add_length {n : Nat} {fs : List Frame}
    (h : n + Frame.totalLength fs < Text.wordLimit) :
    (fs.map Frame.span).foldlM (fun n s => add n s.length) n = .ok (n + Frame.totalLength fs) := by
  induction fs generalizing n with
  | nil => rfl
  | cons f fs ih =>
    have hlength : f.span.length = f.length := rfl
    rw [Frame.totalLength, ← Nat.add_assoc] at h ⊢
    rw [List.map_cons, List.foldlM_cons, hlength, add_eq_ok (by omega), ok_bind, ih h]

theorem total_eq {fs : List Frame} (h : Frame.totalLength fs < Text.wordLimit) :
    total (fs.map Frame.span) = .ok (Frame.totalLength fs) := by
  have hsum := foldlM_add_length (n := 0) (by rwa [Nat.zero_add])
  rwa [Nat.zero_add] at hsum

end Span

namespace Frame

variable {limit start : Nat} {data : Bytes} {f : Frame} {fs : List Frame}

/-- A frame that was read at position `start` lies inside the bytes. -/
structure Inside (limit : Nat) (data : Bytes) (start : Nat) (f : Frame) : Prop where
  start_eq : f.start = start
  header_le : start + 2 ≤ f.payloadStart
  stop_eq : f.payloadStart + f.payloadLength = f.stop
  stop_le : f.stop ≤ data.length
  payload_le : f.payloadLength ≤ limit
  /-- Its end is a word. -/
  stop_word : f.span.stop = .ok f.stop
  /-- Its payload is there, as long as its header says. -/
  payload_eq : f.span.wirePayload data = .ok (f.wirePayload data)
  payload_length : (f.wirePayload data).length = f.payloadLength

/-- A payload inside the bytes can be cut out. -/
theorem wirePayload_span (hdata : data.length < Text.wordLimit) (h : f.stop ≤ data.length) :
    f.span.wirePayload data = .ok (f.wirePayload data) := by
  have hstop : f.span.payloadStart + f.span.payloadLength = f.stop :=
    Nat.add_assoc f.start f.headerLength f.payloadLength
  have hlength : f.stop - f.span.payloadStart = f.payloadLength := by
    rw [← hstop]
    exact Nat.add_sub_cancel_left ..
  rw [Span.wirePayload, add_eq_ok (by omega), ok_bind, hstop, slice, ensure_eq_ok (by omega),
    hlength]
  rfl

/-- **A frame lies inside the bytes that it was read from.** -/
theorem inside_of_parse (hdata : data.length < Text.wordLimit)
    (hf : parse limit data start = .ok (some f)) : f.Inside limit data start := by
  obtain ⟨rfl, hheader, hfits, hlimit⟩ := parseHead_bounds hf
  have hstop : f.payloadStart + f.payloadLength = f.stop := Nat.add_assoc ..
  have hstart : f.payloadStart = f.start + f.headerLength := rfl
  have hlength : f.length = f.headerLength + f.payloadLength := rfl
  rw [List.length_drop] at hfits
  have hle : f.stop ≤ data.length := by omega
  refine ⟨rfl, by omega, hstop, hle, hlimit, Span.stop_span (by omega),
    wirePayload_span hdata hle, ?_⟩
  rw [wirePayload, List.length_take, List.length_drop]
  omega

/-- The frames of a message, as a scan found them. -/
structure Scanned (limit : Nat) (data : Bytes) (fs : List Frame) : Prop where
  /-- Each is what stands at its position. -/
  found : ∀ f ∈ fs, parse limit data f.start = .ok (some f)
  /-- They lie back to back. -/
  adjacent : Adjacent 0 fs
  /-- Their length is where the last one ends. -/
  ends : ∃ last, fs.getLast? = some last ∧ totalLength fs = last.stop
  /-- All others end within the limit. -/
  early : ∀ f ∈ fs.dropLast, f.stop ≤ limit
  /-- Their lengths, summed one after the other, stay words. -/
  total_word : Span.total (fs.map span) = .ok (totalLength fs)
  /-- Each has two bytes at least. -/
  few : 2 * fs.length ≤ data.length

/-- Each frame of a message is what stands at its position. -/
theorem parse_of_mem_scanFrom {opens : Bool}
    (h : scanFrom limit start (data.drop start) opens = .ok (some fs)) :
    ∀ f ∈ fs, parse limit data f.start = .ok (some f) := by
  generalize hrest : data.drop start = rest at h
  fun_induction scanFrom limit start rest opens generalizing fs with
  | case1 => simp at h
  | case2 => simp at h
  | case3 start rest opens f hf hend =>
    obtain rfl : [f] = fs := by simpa using h
    obtain ⟨rfl, -⟩ := parseHead_bounds hf
    rw [List.forall_mem_singleton, parse, hrest, hf]
  | case4 => simp at h
  | case5 start rest opens f hf hend hlim ih =>
    obtain ⟨gs, hgs, rfl⟩ := map_cons_eq_some h
    obtain ⟨rfl, -⟩ := parseHead_bounds hf
    have hbehind : data.drop f.stop = rest.drop f.length := by
      rw [← hrest, List.drop_drop]
      rfl
    refine List.forall_mem_cons.2 ⟨?_, ih hbehind hgs⟩
    rw [parse, hrest, hf]

/-- Frames one after the other end where the last one does. -/
theorem Adjacent.stop_getLast {last : Frame} (h : Adjacent start fs)
    (hlast : fs.getLast? = some last) : start + totalLength fs = last.stop := by
  induction fs generalizing start with
  | nil => simp at hlast
  | cons f fs ih =>
    obtain ⟨rfl, hrest⟩ := h
    have hstop : f.start + f.length = f.stop := rfl
    rw [totalLength, ← Nat.add_assoc, hstop]
    cases fs with
    | nil =>
      obtain rfl : f = last := by simpa using hlast
      rfl
    | cons g fs => exact ih hrest (by simpa using hlast)

theorem two_mul_length_le (h : ∀ f ∈ fs, 2 ≤ f.length) : 2 * fs.length ≤ totalLength fs := by
  induction fs with
  | nil => exact Nat.le_refl 0
  | cons f fs ih =>
    obtain ⟨hf, hfs⟩ := List.forall_mem_cons.1 h
    have hrest := ih hfs
    rw [List.length_cons, totalLength]
    omega

/-- **The frames of a message**, as a scan finds them. -/
theorem scanned_of_scan (hdata : data.length < Text.wordLimit)
    (h : scan limit data = .ok (some fs)) : Scanned limit data fs := by
  obtain ⟨hadjacent, hlow, htotal⟩ := scanFrom_bounds h
  obtain ⟨ws, -, rfl, -, hearly, -⟩ := Written.scan_eq_some.1 h
  have hwhole : scanFrom limit 0 (data.drop 0) true = .ok (some (Written.framesAt 0 ws)) := h
  have hfound := parse_of_mem_scanFrom hwhole
  have hne : Written.framesAt 0 ws ≠ [] := by
    intro hnil
    simp [hnil, totalLength] at hlow
  have hlast := List.getLast?_eq_some_getLast hne
  have hends := hadjacent.stop_getLast hlast
  rw [Nat.zero_add] at hends
  have htwo : ∀ f ∈ Written.framesAt 0 ws, 2 ≤ f.length := fun f hf =>
    Nat.le_trans (parseHead_bounds (hfound f hf)).2.1 (Nat.le_add_right ..)
  exact ⟨hfound, hadjacent, ⟨_, hlast, hends⟩, hearly, Span.total_eq (by omega),
    Nat.le_trans (two_mul_length_le htwo) htotal⟩

/-- **Reading frames stays within words and inside the bytes.**  Under a limit of at most 2 ^ 63, no
sum overflows where frames are read by position from less than 2 ^ 63 bytes; every frame that is
read lies inside the bytes and its payload can be cut out; and a scan is over after a round for
every two bytes and one more, with frames that lie back to back. -/
theorem reading_in_words (hdata : data.length < 2 ^ 63) (hlimit : limit ≤ 2 ^ 63) :
    (∀ start, Span.parse limit data start = (Halt.ofReading (parse limit data start)).map span ∧
        ∀ fault, Span.parse limit data start ≠ .error (.fault fault)) ∧
      (∀ start f, parse limit data start = .ok (some f) → f.Inside limit data start) ∧
      (Span.scan limit (data.length / 2 + 1) data =
          (Halt.ofReading (scan limit data)).map (List.map span) ∧
        ∀ fault, Span.scan limit (data.length / 2 + 1) data ≠ .error (.fault fault)) ∧
      ∀ fs, scan limit data = .ok (some fs) → Scanned limit data fs := by
  have hword : data.length + 8 < Text.wordLimit := by
    unfold Text.wordLimit
    omega
  have hsum : data.length + limit < Text.wordLimit := by
    unfold Text.wordLimit
    omega
  refine ⟨fun start => ⟨Span.parse_eq hword hsum, ?_⟩, fun start f => inside_of_parse (by omega),
    ⟨Span.scan_eq hword hsum, ?_⟩, fun fs => scanned_of_scan (by omega)⟩
  · rw [Span.parse_eq hword hsum]
    exact Halt.map_ofReading_ne_fault _ _
  · rw [Span.scan_eq hword hsum]
    exact Halt.map_ofReading_ne_fault _ _

/-- A masked fragment, a ping, the rest of the message with its length in two bytes, and a byte of
another message. -/
def interleaved : Bytes :=
  [0x01, 0x81, 1, 2, 3, 4, 0x60] ++ [0x89, 0x00] ++ [0x80, 0x7E, 0x00, 0x01, 0x62] ++ [0x81]

/-- The frames of the first message among these bytes. -/
def interleavedFrames : List Frame :=
  [⟨0, false, .text, some ⟨1, 2, 3, 4⟩, 6, 1⟩, ⟨7, true, .ping, none, 2, 0⟩,
    ⟨9, true, .continuation, none, 4, 1⟩]

/-- Three frames are found in eight rounds under the largest limit. -/
theorem reading_in_words_interleaved :
    interleaved.length < 2 ^ 63 ∧ (2 ^ 63 : Nat) ≤ 2 ^ 63 ∧
      scan (2 ^ 63) interleaved = .ok (some interleavedFrames) ∧
      Span.scan (2 ^ 63) 8 interleaved = .ok (interleavedFrames.map span) ∧
      Scanned (2 ^ 63) interleaved interleavedFrames ∧
      ∀ f ∈ interleavedFrames, f.Inside (2 ^ 63) interleaved f.start := by
  have hdata : interleaved.length < 2 ^ 63 := by decide
  have hscan : scan (2 ^ 63) interleaved = .ok (some interleavedFrames) := by decide +kernel
  obtain ⟨-, hinside, ⟨hrounds, -⟩, hscanned⟩ := reading_in_words hdata (Nat.le_refl (2 ^ 63))
  rw [hscan] at hrounds
  exact ⟨hdata, Nat.le_refl _, hscan, hrounds, hscanned _ hscan, fun f hf =>
    hinside f.start f ((hscanned _ hscan).found f hf)⟩

end Frame
end WebSocket
