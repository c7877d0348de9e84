import WebSocket.Http.Response
import WebSocket.Proofs.Http.Body
import WebSocket.Proofs.Text.Cutting
import WebSocket.Proofs.Text.Decoding

/-!
# Heads and requests are read as they were written

A head is written line by line.  It is found again whatever follows it, and its lines, words and
fields are what they were, as long as no line has a line end in it and no name a colon.  Blanks
around names and values are lost, and a request comes back with its names in small letters.

## Main definitions

* `Http.Inline`, `Http.Word`, `Http.Name` — a text that breaks no line, no first line, and no field.
* `Http.head` — the lines of a head with line ends between them.
* `Http.Field.Plain`, `Http.Request.Plain` — a field and a request that can be written.
* `Http.Field.trimmed`, `Http.Field.received` — a field as a reader of lines gives it back, and as
  the reader of requests does.

## Main results

* `Http.cutHead_encodeHead` — **a head is found again**, whatever follows it.
* `Http.headLines_head`, `Http.lines_encodeHead` — its lines are what they were, for either reader
  of lines.
* `Http.Field.ofLine_text`, `Http.first?_map_received` — fields are read as they were written, and
  found under the names they had.
* `Http.Request.requestBoundary_encode`, `Http.Request.parse_encode` — **a request is found and
  read as it was written.**
-/

namespace WebSocket
namespace Http

/-! ### Lines -/

/-- A text that does not break a line. -/
structure Inline (text : String) : Prop where
  noReturn : '\r' ∉ text.toList
  noFeed : '\n' ∉ text.toList

instance (text : String) : Decidable (Inline text) :=
  decidable_of_iff ('\r' ∉ text.toList ∧ '\n' ∉ text.toList)
    ⟨fun h => ⟨h.1, h.2⟩, fun h => ⟨h.noReturn, h.noFeed⟩⟩

theorem Inline.append {s t : String} (hs : Inline s) (ht : Inline t) : Inline (s ++ t) where
  noReturn := by
    rw [String.toList_append, List.mem_append, not_or]
    exact ⟨hs.noReturn, ht.noReturn⟩
  noFeed := by
    rw [String.toList_append, List.mem_append, not_or]
    exact ⟨hs.noFeed, ht.noFeed⟩

/-- A text without blanks does not break a line. -/
theorem Inline.of_solid {text : String} (h : Text.Solid text.toList) : Inline text where
  noReturn := fun hmem => absurd (h '\r' hmem) (by decide)
  noFeed := fun hmem => absurd (h '\n' hmem) (by decide)

/-- A word of a first line. -/
structure Word (text : String) : Prop where
  nonempty : text ≠ ""
  solid : Text.Solid text.toList

instance (text : String) : Decidable (Word text) :=
  decidable_of_iff (text ≠ "" ∧ Text.Solid text.toList)
    ⟨fun h => ⟨h.1, h.2⟩, fun h => ⟨h.nonempty, h.solid⟩⟩

theorem Word.inline {text : String} (h : Word text) : Inline text := .of_solid h.solid

theorem Word.toList_ne_nil {text : String} (h : Word text) : text.toList ≠ [] :=
  mt String.toList_eq_nil_iff.1 h.nonempty

variable {lines : List String}

/-- The lines of a head with line ends between them. -/
def head (lines : List String) : Bytes := Text.utf8 ((String.ofList lineEnd).intercalate lines)

/-- The end of a head is two line ends, of which the first belongs to the last line. -/
theorem encodeHead_eq (hne : lines ≠ []) : encodeHead lines = head lines ++ headEnd := by
  have hne' : lines.map String.toList ≠ [] := by simpa using hne
  have htext : String.join (lines.map (· ++ String.ofList lineEnd)) ++ String.ofList lineEnd =
      (String.ofList lineEnd).intercalate lines ++ String.ofList (lineEnd ++ lineEnd) := by
    rw [← String.toList_inj]
    have hjoin := Text.intercalate_append_sep lineEnd hne'
    simp only [String.toList_append, String.toList_join, String.toList_intercalate,
      String.toList_ofList, List.flatMap_map] at hjoin ⊢
    rw [← hjoin, List.append_assoc]
  have hend : Text.utf8 (String.ofList (lineEnd ++ lineEnd)) = headEnd := by
    rw [Text.utf8_ofList]
    decide
  rw [encodeHead, htext, Text.utf8_append, hend, head]

/-- The lines of a head as they are written, each with its end, with the empty line behind them. -/
theorem decode_encodeHead (lines : List String) :
    Text.Utf8.decode (encodeHead lines) =
      (lines.map String.toList ++ [[]]).flatMap (· ++ lineEnd) := by
  rw [encodeHead, Text.Utf8.decode_utf8]
  simp [String.toList_join, List.flatMap_map]

/-- The lines that a reader of lines finds are what they were; the last one is empty. -/
theorem lines_encodeHead (h : ∀ line ∈ lines, Inline line) :
    Text.lines (Text.Utf8.decode (encodeHead lines)) = lines.map String.toList ++ [[]] := by
  rw [decode_encodeHead]
  refine Text.lines_flatMap ?_
  simp only [List.mem_append, List.mem_map, List.mem_singleton]
  rintro part (⟨line, hline, rfl⟩ | rfl)
  · exact (h line hline).noFeed
  · exact List.not_mem_nil

/-- A head begins with its first line. -/
theorem utf8_prefix_encodeHead (line : String) (lines : List String) :
    Text.utf8 line <+: encodeHead (line :: lines) := by
  rw [encodeHead, List.map_cons, String.join_cons, String.append_assoc, String.append_assoc,
    Text.utf8_append]
  exact List.prefix_append _ _

theorem head_eq_intercalate (lines : List String) :
    head lines = [0x0D, 0x0A].intercalate (lines.map Text.utf8) := by
  have hend : lineEnd.flatMap String.utf8EncodeChar = [0x0D, 0x0A] := by decide
  rw [head, Text.utf8_eq_flatMap, String.toList_intercalate, String.toList_ofList,
    Text.flatMap_intercalate, hend, List.map_map]
  simp only [Function.comp_def, ← Text.utf8_eq_flatMap]

/-- **A head is found again**, whatever follows it. -/
theorem cutHead_encodeHead (hne : lines ≠ []) (hempty : "" ∉ lines)
    (h : ∀ line ∈ lines, Inline line) (rest : Bytes) :
    cutHead (encodeHead lines ++ rest) = some (head lines, rest) := by
  rw [encodeHead_eq hne, head_eq_intercalate]
  refine Text.cut_intercalate (by decide) (by simpa using hne) ?_ rest
  intro part hpart
  obtain ⟨line, hline, rfl⟩ := List.mem_map.1 hpart
  constructor
  · intro hnil
    have hdecode := Text.Utf8.decode_utf8 line
    rw [hnil, Text.Utf8.decode] at hdecode
    obtain rfl : line = "" := String.toList_eq_nil_iff.1 hdecode.symm
    exact hempty hline
  · -- The byte of a carriage return stands for nothing else.
    have hbyte : (0x0D : UInt8) = UInt8.ofNat '\r'.toNat := rfl
    rw [hbyte, Text.mem_utf8_iff (by decide)]
    exact (h line hline).noReturn

/-- Its lines are what they were. -/
theorem headLines_head (hne : lines ≠ []) (h : ∀ line ∈ lines, Inline line) :
    headLines (head lines) = lines.map String.toList := by
  rw [headLines, head, Text.Utf8.decode_utf8, String.toList_intercalate, String.toList_ofList]
  refine Text.splitOn_intercalate (by simpa using hne) ?_
  simp only [List.mem_map, forall_exists_index, and_imp, forall_apply_eq_imp_iff₂]
  exact fun line hline => (h line hline).noReturn

/-! ### Fields -/

/-- A name that can be written in front of a colon. -/
structure Name (name : String) : Prop where
  inline : Inline name
  noColon : ':' ∉ name.toList
  trimmed : Text.trim name.toList = name.toList

instance (name : String) : Decidable (Name name) :=
  decidable_of_iff
    (Inline name ∧ ':' ∉ name.toList ∧ Text.trim name.toList = name.toList)
    ⟨fun h => ⟨h.1, h.2.1, h.2.2⟩, fun h => ⟨h.inline, h.noColon, h.trimmed⟩⟩

/-- A field that can be written. -/
structure Field.Plain (f : Field) : Prop where
  name : Name f.name
  value : Inline f.value

instance (f : Field) : Decidable f.Plain :=
  decidable_of_iff (Name f.name ∧ Inline f.value) ⟨fun h => ⟨h.1, h.2⟩, fun h => ⟨h.name, h.value⟩⟩

theorem plain_mk {name value : String} (h : Name name) (hvalue : Inline value) :
    Field.Plain ⟨name, value⟩ := ⟨h, hvalue⟩

theorem Field.text_eq (f : Field) : f.text = f.name ++ ": " ++ f.value := rfl

theorem Field.Plain.inline_text {f : Field} (h : f.Plain) : Inline f.text := by
  rw [f.text_eq]
  exact (h.name.inline.append (by decide)).append h.value

theorem Field.text_ne_empty (f : Field) : f.text ≠ "" := by
  intro hempty
  have hlist := congrArg String.toList hempty
  simp [f.text_eq] at hlist

/-- A field without the blanks around its value. -/
def Field.trimmed (f : Field) : Field := ⟨f.name, String.ofList (Text.trim f.value.toList)⟩

/-- A field as the reader of requests gives it back: its name is in small letters as well. -/
def Field.received (f : Field) : Field := ⟨Text.lower f.name, f.trimmed.value⟩

/-- **A field is read as it was written**, up to the blanks around its value. -/
theorem Field.ofLine_text {f : Field} (h : f.Plain) : Field.ofLine f.text.toList = f.trimmed := by
  have hcut : Text.cut [':'] f.text.toList = some (f.name.toList, ' ' :: f.value.toList) := by
    have hfound : Text.cut [':'] (f.name.toList ++ ([':'] ++ ' ' :: f.value.toList)) = _ :=
      Text.cut_of_append h.name.noColon (' ' :: f.value.toList)
    simpa [f.text_eq] using hfound
  have hspace : Text.isBlank ' ' = true := by decide
  simp only [Field.ofLine, hcut, Text.trim_cons hspace, h.name.trimmed, String.ofList_toList,
    Field.trimmed]

theorem Request.fieldOfLine_text {f : Field} (h : f.Plain) :
    Request.fieldOfLine f.text.toList = f.received := by
  rw [Request.fieldOfLine, Field.ofLine_text h]
  rfl

/-- A name is found in what was received where it was found before. -/
theorem first?_map_received (fields : List Field) (name : String) :
    first? (fields.map Field.received) name =
      (first? fields name).map fun value => String.ofList (Text.trim value.toList) := by
  induction fields with
  | nil => rfl
  | cons f fields ih =>
    have hname : Text.Caseless f.received.name name ↔ Text.Caseless f.name name :=
      Text.caseless_lower
    rw [List.map_cons, first?_cons, first?_cons, ih]
    by_cases h : Text.Caseless f.name name
    · rw [if_pos h, if_pos (hname.2 h)]
      rfl
    · rw [if_neg h, if_neg (mt hname.1 h)]

/-- A field that was set is found among the lines, and a value without blanks as it was. -/
theorem exists_line_of_first? {fields : List Field} (h : ∀ f ∈ fields, f.Plain)
    {name value : String} (hfirst : first? fields name = some value)
    (hvalue : Text.Solid value.toList) :
    ∃ f ∈ fields, Text.Caseless (Field.ofLine f.text.toList).name name ∧
      (Field.ofLine f.text.toList).value = value := by
  obtain ⟨f, hfind, rfl⟩ := Option.map_eq_some_iff.1 hfirst
  have hf : f ∈ fields := List.mem_of_find?_eq_some hfind
  have hname : Text.Caseless f.name name := by simpa using List.find?_some hfind
  refine ⟨f, hf, ?_⟩
  rw [Field.ofLine_text (h f hf)]
  refine ⟨hname, ?_⟩
  rw [Field.trimmed, Text.trim_of_solid hvalue, String.ofList_toList]

theorem map_fieldOfLine {fields : List Field} (h : ∀ f ∈ fields, f.Plain) :
    (fields.map fun f => f.text.toList).map Request.fieldOfLine = fields.map Field.received := by
  rw [List.map_map]
  exact List.map_congr_left fun f hf => Request.fieldOfLine_text (h f hf)

/-- The length of a body is declared by the first field of that name. -/
theorem declaredLength_text {fields : List Field} (h : ∀ f ∈ fields, f.Plain) :
    declaredLength (fields.map fun f => f.text.toList) =
      match first? fields contentLength with
      | some value => parseLength (String.ofList (Text.trim value.toList))
      | none => .ok 0 := by
  rw [declaredLength_eq_first?, map_fieldOfLine h, first?_map_received]
  cases first? fields contentLength <;> rfl

/-- What holds of every name and of every value still holds where a field is set. -/
theorem forall_put {P Q : String → Prop} {fields : List Field} {name value : String}
    (h : ∀ f ∈ fields, P f.name ∧ Q f.value) (hname : P name) (hvalue : Q value) :
    ∀ f ∈ put fields name value, P f.name ∧ Q f.value := by
  induction fields with
  | nil =>
    rw [put, List.forall_mem_singleton]
    exact ⟨hname, hvalue⟩
  | cons f fields ih =>
    obtain ⟨hf, hfields⟩ := List.forall_mem_cons.1 h
    unfold put
    split
    · rw [List.forall_mem_cons]
      exact ⟨⟨hf.1, hvalue⟩, hfields⟩
    · rw [List.forall_mem_cons]
      exact ⟨hf, ih hfields⟩

/-- Fields stay plain where a plain one is set among them. -/
theorem plain_put {fields : List Field} {name value : String} (h : ∀ f ∈ fields, f.Plain)
    (hnew : Field.Plain ⟨name, value⟩) : ∀ f ∈ put fields name value, f.Plain := by
  have hparts : ∀ f ∈ fields, Name f.name ∧ Inline f.value := fun f hf => ⟨(h f hf).1, (h f hf).2⟩
  intro f hf
  obtain ⟨hname, hvalue⟩ := forall_put hparts hnew.name hnew.value f hf
  exact ⟨hname, hvalue⟩

/-! ### Requests -/

namespace Request

variable {r : Request} {version : String}

/-- The first line of a request. -/
def opening (version : String) (r : Request) : String := s!"{r.method} {r.target} {version}"

/-- A request that can be written with a version: its first line has three words, every field has a
line of its own, and the fields declare the length of the body. -/
structure Plain (version : String) (r : Request) : Prop where
  method : Word r.method
  target : Word r.target
  version : Word version
  fields : ∀ f ∈ r.fields, f.Plain
  body : declaredLength (r.fields.map fun f => f.text.toList) = .ok r.body.length

theorem opening_eq (version : String) (r : Request) :
    r.opening version = r.method ++ " " ++ r.target ++ " " ++ version := rfl

theorem encode_eq (version : String) (r : Request) :
    r.encode version = encodeHead (r.opening version :: r.fields.map Field.text) ++ r.body := rfl

theorem firstLine_opening (h : r.Plain version) :
    firstLine (r.opening version).toList = .ok (r.method, r.target) := by
  have hwords : Text.words (r.opening version).toList =
      [r.method.toList, r.target.toList, version.toList] := by
    have hlist : (r.opening version).toList =
        r.method.toList ++ ' ' :: (r.target.toList ++ ' ' :: version.toList) := by
      simp [opening_eq]
    rw [hlist, Text.words_append h.method.solid h.method.toList_ne_nil,
      Text.words_append h.target.solid h.target.toList_ne_nil,
      Text.words_of_solid h.version.solid h.version.toList_ne_nil]
  rw [firstLine, hwords]
  simp

theorem inline_opening (h : r.Plain version) : Inline (r.opening version) := by
  have hspace : Inline " " := by decide
  rw [opening_eq]
  exact (((h.method.inline.append hspace).append h.target.inline).append hspace).append
    h.version.inline

theorem inline_lines (h : r.Plain version) :
    ∀ line ∈ r.opening version :: r.fields.map Field.text, Inline line := by
  rw [List.forall_mem_cons, List.forall_mem_map]
  exact ⟨inline_opening h, fun f hf => (h.fields f hf).inline_text⟩

theorem cutHead_encode (h : r.Plain version) (rest : Bytes) :
    cutHead (r.encode version ++ rest) =
      some (head (r.opening version :: r.fields.map Field.text), r.body ++ rest) := by
  rw [encode_eq, List.append_assoc]
  refine cutHead_encodeHead (by simp) ?_ (inline_lines h) (r.body ++ rest)
  simp only [List.mem_cons, List.mem_map, not_or, not_exists, not_and]
  refine ⟨fun hempty => ?_, fun f _ => f.text_ne_empty⟩
  have hlist := congrArg String.toList hempty
  simp [opening_eq] at hlist

/-- The lines of a request that was written. -/
theorem headLines_opening (h : r.Plain version) :
    headLines (head (r.opening version :: r.fields.map Field.text)) =
      (r.opening version).toList :: r.fields.map fun f => f.text.toList := by
  rw [headLines_head (by simp) (inline_lines h), List.map_cons, List.map_map]
  rfl

theorem length_encode (version : String) (r : Request) :
    (r.encode version).length =
      (head (r.opening version :: r.fields.map Field.text)).length + headEnd.length +
        r.body.length := by
  rw [encode_eq, encodeHead_eq (by simp), List.length_append, List.length_append]

/-- **A request is found**, whatever follows it, where its length is within the limit. -/
theorem requestBoundary_encode {limit : Nat} (h : r.Plain version)
    (hword : (r.encode version).length < Text.wordLimit)
    (hlimit : (r.encode version).length ≤ limit) (rest : Bytes) :
    requestBoundary limit (r.encode version ++ rest) = .ok (some (r.encode version).length) := by
  have hbody : declaredLength (headLines (head
      (r.opening version :: r.fields.map Field.text))).tail = .ok r.body.length := by
    rw [headLines_opening h, List.tail_cons]
    exact h.body
  refine requestBoundary_eq_some.2 ⟨_, _, cutHead_encode h rest, ?_, ?_⟩
  · exact requestSize_eq_ok.2 ⟨_, hbody, (length_encode version r).symm, hword, hlimit⟩
  · rw [List.length_append]
    exact Nat.le_add_right _ _

/-- **A request is read as it was written**, whatever follows it: only the blanks around its fields
are lost, and their names are in small letters. -/
theorem parse_encode (h : r.Plain version) (hword : (r.encode version).length < Text.wordLimit)
    (rest : Bytes) :
    parse (r.encode version ++ rest) = .ok { r with fields := r.fields.map Field.received } := by
  have hfound := requestBoundary_encode h hword (Nat.le_refl _) rest
  have hbody : (r.body ++ rest).take ((r.encode version).length -
      ((head (r.opening version :: r.fields.map Field.text)).length + headEnd.length)) =
        r.body := by
    have hlen := length_encode version r
    exact List.take_left' (by omega)
  rw [parse_of_boundary hfound (cutHead_encode h rest), headLines_opening h, List.headD_cons,
    firstLine_opening h, List.tail_cons, map_fieldOfLine h.fields, hbody]
  rfl

end Request
end Http
end WebSocket
