import WebSocket.Proofs.Http.Incremental

/-!
# Two readers of one request

The end of a request is found by one reader and its body is taken by another, and each looks for the
declared length by itself: the first goes through the lines of the head and stops at the field, the
second reads all fields first, with their names in small letters, and looks the name up.  They have
to agree, or bytes of a body would be taken for the next unit.

## Main definitions

* `Http.requestLine` — the first line of the request at the head of a byte string.

## Main results

* `Http.declaredLength_eq_first?` — both look for the length in the same place.
* `Http.Request.parse_of_boundary` — **a request that was found is read up to where it ends.**
* `Http.Request.parse_take` — it is read from its own bytes.
* `Http.Request.boundary_of_parse` — a request that was read is found up to where its body ends.
* `Http.Request.readers_agree` — **both readers agree on where a body ends.**
-/

namespace WebSocket
namespace Http

/-- **Both readers find the same length**: the first field of that name among the lines declares
it. -/
theorem declaredLength_eq_first? (lines : List (List Char)) :
    declaredLength lines =
      match first? (lines.map Request.fieldOfLine) contentLength with
      | some value => parseLength value
      | none => .ok 0 := by
  induction lines with
  | nil => rfl
  | cons line lines ih =>
    have hname : Text.Caseless (Request.fieldOfLine line).name contentLength ↔
        Text.Caseless (Field.ofLine line).name contentLength := Text.caseless_lower
    rw [declaredLength, List.map_cons, first?_cons]
    by_cases hc : Text.Caseless (Field.ofLine line).name contentLength
    · rw [if_pos (hname.2 hc)]
      exact if_pos hc
    · rw [if_neg (mt hname.1 hc), ← ih]
      exact if_neg hc

/-- A head is found again in a part of the bytes that reaches behind its end. -/
theorem cutHead_take {data head rest : Bytes} (h : cutHead data = some (head, rest)) {n : Nat}
    (hn : head.length + headEnd.length ≤ n) :
    cutHead (data.take n) = some (head, rest.take (n - (head.length + headEnd.length))) := by
  have hfront : data.take n =
      head ++ headEnd ++ rest.take (n - (head.length + headEnd.length)) := by
    rw [← List.length_append] at hn ⊢
    rw [Text.cut_eq_some h, List.take_append, List.take_of_length_le hn]
  rw [hfront]
  exact Text.cut_append h _

/-- A head is not found in a part of the bytes that does not reach behind its end. -/
theorem cutHead_take_eq_none {data head rest : Bytes} (h : cutHead data = some (head, rest))
    {n : Nat} (hn : n < head.length + headEnd.length) : cutHead (data.take n) = none := by
  rw [Option.eq_none_iff_forall_not_mem]
  rintro ⟨front, more⟩ hcut
  -- What is found in the part is found in the whole, so it is the head itself.
  have hwhole := Text.cut_append hcut (more ++ data.drop n)
  rw [← List.append_assoc, ← Text.cut_eq_some hcut, List.take_append_drop] at hwhole
  obtain ⟨rfl, -⟩ : front = head ∧ _ = rest := by simpa [cutHead] using hwhole.symm.trans h
  have hlen := Text.length_cut hcut
  rw [List.length_take] at hlen
  omega

/-- The first line of the request at the head of a byte string. -/
def requestLine (data : Bytes) : List Char :=
  match cutHead data with
  | some (head, _) => (headLines head).headD []
  | none => []

namespace Request

/-- A first line is refused for having fewer than three words. -/
theorem firstLine_eq_error {line : List Char} {e : ProtocolError} :
    firstLine line = .error e ↔
      (Text.words line).length < 3 ∧
        e = .malformedRequest s!"can't parse method and URI from '{String.ofList line}'" := by
  unfold firstLine
  split
  · next hwords =>
    simp only [hwords, List.length_cons, reduceCtorEq, false_iff]
    omega
  · next hfew =>
    have hlt : (Text.words line).length < 3 := by
      match hwords : Text.words line with
      | [] | [_] | [_, _] => simp
      | method :: target :: version :: more => exact absurd hwords (hfew method target version more)
    simp only [Except.error.injEq, hlt, true_and, eq_comm]

/-- The body is what stands behind the head, as long as the lines of the head declare. -/
theorem bodyOf_eq (head rest : Bytes) (lines : List (List Char)) :
    bodyOf head rest (lines.map fieldOfLine) =
      (declaredLength lines).bind fun length =>
        if length = 0 then .ok []
        else (requestLength head.length length).bind fun _ =>
          match Bytes.take? length rest with
          | some (body, _) => .ok body
          | none => .error .incomplete := by
  rw [declaredLength_eq_first?, bodyOf]
  cases first? (lines.map fieldOfLine) contentLength <;> rfl

/-- A request is read from its first line, its fields and its body. -/
theorem parse_of_cutHead {data head rest : Bytes} (hcut : cutHead data = some (head, rest)) :
    parse data = (firstLine ((headLines head).headD [])).bind fun said =>
      (bodyOf head rest ((headLines head).tail.map fieldOfLine)).map fun body =>
        ⟨said.1, said.2, (headLines head).tail.map fieldOfLine, body⟩ := by
  unfold parse
  rw [hcut]
  rfl

/-- **The body of a request that was found is there**, and it ends where the request does. -/
theorem bodyOf_of_boundary {limit n : Nat} {data head rest : Bytes}
    (h : requestBoundary limit data = .ok (some n)) (hcut : cutHead data = some (head, rest)) :
    bodyOf head rest ((headLines head).tail.map fieldOfLine) =
      .ok (rest.take (n - (head.length + headEnd.length))) := by
  obtain ⟨head', rest', hcut', hsize, hn⟩ := requestBoundary_eq_some.1 h
  obtain ⟨rfl, rfl⟩ : head = head' ∧ rest = rest' := by simpa [hcut] using hcut'
  obtain ⟨body, hbody, hsum, hword, -⟩ := requestSize_eq_ok.1 hsize
  have hlen := Text.length_cut hcut
  have hrest : n - (head.length + headEnd.length) = body := by omega
  rw [hrest]
  rw [bodyOf_eq, hbody]
  simp only [Except.bind]
  by_cases hzero : body = 0
  · rw [if_pos hzero, hzero, List.take_zero]
  · rw [if_neg hzero]
    -- All of the body has arrived, and its end can be told, as the boundary was found.
    have hfits : requestLength head.length body = .ok n := by
      rw [requestLength, if_pos (by omega), hsum]
    have htake : Bytes.take? body rest = some (rest.take body, rest.drop body) :=
      if_pos (Bytes.reaches_iff.2 (by omega))
    simp only [hfits, htake]

/-- **A request that was found is read up to where it ends**: it is refused for its first line only,
and its body is what stands between the empty line and its end. -/
theorem parse_of_boundary {limit n : Nat} {data head rest : Bytes}
    (h : requestBoundary limit data = .ok (some n)) (hcut : cutHead data = some (head, rest)) :
    parse data = (firstLine ((headLines head).headD [])).map fun said =>
      ⟨said.1, said.2, (headLines head).tail.map fieldOfLine,
        rest.take (n - (head.length + headEnd.length))⟩ := by
  rw [parse_of_cutHead hcut, bodyOf_of_boundary h hcut]
  rfl

/-- A request that was found is read from its own bytes. -/
theorem parse_take {limit n : Nat} {data : Bytes}
    (h : requestBoundary limit data = .ok (some n)) : parse (data.take n) = parse data := by
  obtain ⟨head, rest, hcut, hsize, -⟩ := requestBoundary_eq_some.1 h
  obtain ⟨body, -, hsum, -, -⟩ := requestSize_eq_ok.1 hsize
  have hcut' := cutHead_take hcut (n := n) (by omega)
  have h' : requestBoundary limit (data.take n) = .ok (some n) := by
    have hown := (incremental_requestBoundary limit).take_append h []
    rwa [List.append_nil] at hown
  rw [parse_of_boundary h' hcut', parse_of_boundary h hcut, List.take_take, Nat.min_self]

/-- A request that was found is refused for its first line, which has fewer than three words. -/
theorem parse_eq_error_of_boundary {limit n : Nat} {data : Bytes} {e : ProtocolError}
    (h : requestBoundary limit data = .ok (some n)) (he : parse data = .error e) :
    (Text.words (requestLine data)).length < 3 ∧
      e = .malformedRequest
        s!"can't parse method and URI from '{String.ofList (requestLine data)}'" := by
  obtain ⟨head, rest, hcut, -⟩ := requestBoundary_eq_some.1 h
  have hline : requestLine data = (headLines head).headD [] := by simp only [requestLine, hcut]
  rw [parse_of_boundary h hcut] at he
  rw [hline]
  cases hfirst : firstLine ((headLines head).headD []) with
  | ok said =>
    rw [hfirst] at he
    simp [Except.map] at he
  | error e' =>
    rw [hfirst] at he
    obtain rfl : e' = e := by simpa [Except.map] using he
    exact firstLine_eq_error.1 hfirst

/-! ### The other direction -/

/-- What two steps gave came of both. -/
theorem exists_of_bind_eq_ok {ε α β : Type} {first : Except ε α} {second : α → Except ε β} {b : β}
    (h : first.bind second = .ok b) : ∃ a, first = .ok a ∧ second a = .ok b := by
  cases first with
  | error e => simp [Except.bind] at h
  | ok a => exact ⟨a, rfl, h⟩

/-- **A body that was taken is as long as the head declares**, and stands behind the head. -/
theorem bodyOf_eq_ok {head rest body : Bytes} {lines : List (List Char)}
    (h : bodyOf head rest (lines.map fieldOfLine) = .ok body) :
    declaredLength lines = .ok body.length ∧ body <+: rest := by
  rw [bodyOf_eq] at h
  obtain ⟨length, hlength, h⟩ := exists_of_bind_eq_ok h
  by_cases hzero : length = 0
  · rw [if_pos hzero] at h
    obtain rfl : [] = body := Except.ok.inj h
    exact ⟨by rw [hlength, hzero, List.length_nil], List.nil_prefix⟩
  · rw [if_neg hzero] at h
    obtain ⟨total, -, h⟩ := exists_of_bind_eq_ok h
    cases htake : Bytes.take? length rest with
    | none => simp [htake] at h
    | some parts =>
      obtain ⟨front, more⟩ := parts
      obtain rfl : front = body := by simpa [htake] using h
      obtain ⟨rfl, hlen⟩ := Bytes.take?_eq_some.1 htake
      exact ⟨by rw [hlength, hlen], List.prefix_append front more⟩

/-- Where a request was read there is a head. -/
theorem exists_cutHead_of_parse {data : Bytes} {r : Request} (h : parse data = .ok r) :
    ∃ head rest, cutHead data = some (head, rest) := by
  cases hcut : cutHead data with
  | none => simp [parse, hcut] at h
  | some parts => exact ⟨parts.1, parts.2, rfl⟩

/-- The fields of a request that was read are the lines of its head behind the first one, and its
body is the one behind its head. -/
theorem fields_and_body_of_parse {data head rest : Bytes} {r : Request} (h : parse data = .ok r)
    (hcut : cutHead data = some (head, rest)) :
    r.fields = (headLines head).tail.map fieldOfLine ∧
      bodyOf head rest ((headLines head).tail.map fieldOfLine) = .ok r.body := by
  rw [parse_of_cutHead hcut] at h
  obtain ⟨said, -, h⟩ := exists_of_bind_eq_ok h
  cases hbody : bodyOf head rest ((headLines head).tail.map fieldOfLine) with
  | error e =>
    rw [hbody] at h
    simp [Except.map] at h
  | ok body =>
    rw [hbody] at h
    obtain rfl := Except.ok.inj h
    exact ⟨rfl, rfl⟩

theorem bodyOf_of_parse {data head rest : Bytes} {r : Request} (h : parse data = .ok r)
    (hcut : cutHead data = some (head, rest)) :
    bodyOf head rest ((headLines head).tail.map fieldOfLine) = .ok r.body :=
  (fields_and_body_of_parse h hcut).2

/-- The body of a request that was found stands between its head and its end. -/
theorem body_of_boundary {limit n : Nat} {data head rest : Bytes} {r : Request}
    (h : requestBoundary limit data = .ok (some n)) (hcut : cutHead data = some (head, rest))
    (hread : parse data = .ok r) : r.body = (data.take n).drop (head.length + headEnd.length) := by
  have hrest : data.drop (head.length + headEnd.length) = rest := by
    rw [Text.cut_eq_some hcut, ← List.length_append, List.drop_left]
  have hbody := bodyOf_of_parse hread hcut
  rw [bodyOf_of_boundary h hcut] at hbody
  rw [List.drop_take, hrest]
  exact (Except.ok.inj hbody).symm

/-- **A request that was read ends behind its body**: there the other reader finds its end, within
every limit that it meets. -/
theorem boundary_of_parse {data head rest : Bytes} {r : Request} (h : parse data = .ok r)
    (hcut : cutHead data = some (head, rest)) {limit : Nat} (hword : limit < Text.wordLimit)
    (hlimit : head.length + headEnd.length + r.body.length ≤ limit) :
    requestBoundary limit data = .ok (some (head.length + headEnd.length + r.body.length)) := by
  obtain ⟨hdeclared, hprefix⟩ := bodyOf_eq_ok (bodyOf_of_parse h hcut)
  have hdata := Text.length_cut hcut
  have hbodyLength := hprefix.length_le
  refine requestBoundary_eq_some.2 ⟨head, rest, hcut, ?_, by omega⟩
  exact requestSize_eq_ok.2 ⟨r.body.length, hdeclared, rfl, by omega, hlimit⟩

/-- **Both readers agree on where a body ends.**  Where one finds the end of a request, the other
reads the same of all bytes as of those up to there: either it refuses the first line, which has
fewer than three words, or the body is what stands between the first empty line and the end.  And
where a request is read, its end is found behind its body, within every limit of 64 bits that this
meets. -/
theorem readers_agree (data : Bytes) {limit : Nat} (hword : limit < Text.wordLimit) :
    (∀ n, requestBoundary limit data = .ok (some n) →
      parse (data.take n) = parse data ∧
      ∃ h, Text.FirstAt headEnd data h ∧ h + headEnd.length ≤ n ∧
        ((Text.words (requestLine data)).length < 3 ∧
            parse data = .error (.malformedRequest
              s!"can't parse method and URI from '{String.ofList (requestLine data)}'") ∨
          ∃ r, parse data = .ok r ∧ r.body = (data.take n).drop (h + headEnd.length))) ∧
    ∀ r, parse data = .ok r →
      ∃ h, Text.FirstAt headEnd data h ∧
        (h + headEnd.length + r.body.length ≤ limit →
          requestBoundary limit data = .ok (some (h + headEnd.length + r.body.length))) := by
  constructor
  · intro n hn
    obtain ⟨head, rest, hcut, hsize, -⟩ := requestBoundary_eq_some.1 hn
    obtain ⟨body, -, hsum, -, -⟩ := requestSize_eq_ok.1 hsize
    refine ⟨parse_take hn, head.length, Text.firstAt_of_cut hcut, by omega, ?_⟩
    cases hread : parse data with
    | error e =>
      obtain ⟨hfew, rfl⟩ := parse_eq_error_of_boundary hn hread
      exact .inl ⟨hfew, rfl⟩
    | ok r => exact .inr ⟨r, rfl, body_of_boundary hn hcut hread⟩
  · intro r hr
    obtain ⟨head, rest, hcut⟩ := exists_cutHead_of_parse hr
    exact ⟨head.length, Text.firstAt_of_cut hcut, boundary_of_parse hr hcut hword⟩

/-- A request that declares the length of its body twice, with another empty line in what
follows. -/
def twiceDeclared : Bytes :=
  Text.utf8 "GET / HTTP/1.1\r\ncontent-length: +2\r\nContent-Length: 9\r\n\r\nab\r\n\r\n"

/-- Both readers go by the first declaration. -/
theorem readers_agree_twice_declared :
    requestBoundary 100 twiceDeclared = .ok (some 59) ∧
      ∃ h, Text.FirstAt headEnd twiceDeclared h ∧
        ∃ r, parse twiceDeclared = .ok r ∧ parse (twiceDeclared.take 59) = .ok r ∧
          r.body = (twiceDeclared.take 59).drop (h + headEnd.length) := by
  have hcut : cutHead twiceDeclared =
      some (Text.utf8 "GET / HTTP/1.1\r\ncontent-length: +2\r\nContent-Length: 9",
        Text.utf8 "ab\r\n\r\n") := by decide +kernel
  have hlines : (headLines (Text.utf8
      "GET / HTTP/1.1\r\ncontent-length: +2\r\nContent-Length: 9")).tail =
        ["content-length: +2".toList, "Content-Length: 9".toList] := by decide +kernel
  have hfound : requestBoundary 100 twiceDeclared = .ok (some 59) := by
    refine requestBoundary_eq_some.2 ⟨_, _, hcut, requestSize_eq_ok.2 ⟨2, ?_, ?_⟩, ?_⟩
    · rw [hlines]
      rfl
    · decide +kernel
    · decide +kernel
  obtain ⟨hsame, h, hfirst, -, ⟨hfew, -⟩ | ⟨r, hread, hbody⟩⟩ :=
    (readers_agree twiceDeclared (by decide)).1 59 hfound
  · exact absurd hfew (by decide +kernel)
  · exact ⟨hfound, h, hfirst, r, hread, hsame.trans hread, hbody⟩

end Request

end Http
end WebSocket
