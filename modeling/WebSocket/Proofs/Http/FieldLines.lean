import WebSocket.Proofs.Http.RoundTrip
import WebSocket.Proofs.Text.Digits

/-!
# The fields of a response, kept and written

A response keeps one field for each name, whatever the case of its letters: a name that is set again
gets the new value in its old place.  In the bytes of a response each field has a line of its own.
Behind them, for a final status, stands a line with the length of the body, which is written without
a look at the fields.  So the lines have different names as long as that length is not set by hand;
where it is, it is told twice.

## Main definitions

* `Http.Distinct` — fields with different names.
* `Http.firstNames` — the names of fields, each as it comes first.
* `Http.putAll` — fields set one after the other.
* `Http.Response.Setting`, `Http.Response.made` — what is set in a response, and what that makes.
* `Http.Response.lengthLine`, `Http.Response.written` — the fields that are written.
* `Http.Field.Legible`, `Http.Field.ofText?` — a field whose line can be read, and what it reads as.

## Main results

* `Http.map_name_putAll`, `Http.first?_putAll`, `Http.distinct_putAll` — the names and the values
  that are kept.
* `Http.Response.exists_head` — the lines of a response are read as they were written.
* `Http.Response.fields_on_wire` — **the lines of a response that was made by any settings.**
-/

namespace WebSocket

namespace Http

/-! ### Fields with different names -/

/-- No two of the fields have the same name. -/
def Distinct (fields : List Field) : Prop :=
  fields.Pairwise fun f g => ¬ Text.Caseless f.name g.name

instance (fields : List Field) : Decidable (Distinct fields) := by
  unfold Distinct; infer_instance

/-- The names of fields, each as it comes first, in the order in which they come first. -/
def firstNames : List Field → List String
  | [] => []
  | f :: later => f.name :: (firstNames later).filter fun name => ¬ Text.Caseless f.name name

/-- Fields with others set among them, one after the other. -/
def putAll (fields more : List Field) : List Field :=
  more.foldl (fun fields f => put fields f.name f.value) fields

variable {fields more : List Field} {f : Field} {name value : String}

theorem putAll_append (fields more later : List Field) :
    putAll fields (more ++ later) = putAll (putAll fields more) later :=
  List.foldl_append

theorem pairwise_firstNames (fields : List Field) :
    (firstNames fields).Pairwise fun m n => ¬ Text.Caseless m n := by
  induction fields with
  | nil => exact List.Pairwise.nil
  | cons f later ih =>
    rw [firstNames, List.pairwise_cons]
    refine ⟨?_, ih.filter _⟩
    intro n hn
    simpa using (List.mem_filter.1 hn).2

/-- A name that is there keeps its place, and a new one comes last. -/
theorem map_name_put (fields : List Field) (name value : String) :
    (put fields name value).map Field.name =
      fields.map Field.name ++
        if ∀ f ∈ fields, ¬ Text.Caseless f.name name then [name] else [] := by
  induction fields with
  | nil => rfl
  | cons f rest ih =>
    unfold put
    by_cases hf : Text.Caseless f.name name
    · have hthere : ¬ ∀ g ∈ f :: rest, ¬ Text.Caseless g.name name :=
        fun h => h f (List.mem_cons_self ..) hf
      rw [if_pos hf, if_neg hthere, List.append_nil]
      rfl
    · have hrest : (∀ g ∈ f :: rest, ¬ Text.Caseless g.name name) ↔
          ∀ g ∈ rest, ¬ Text.Caseless g.name name := by
        rw [List.forall_mem_cons]
        exact and_iff_right hf
      rw [if_neg hf, List.map_cons, ih, List.map_cons, List.cons_append]
      simp only [hrest]

/-- **The names that are kept**: those that were there, and behind them the new ones, in the order
in which they were set first. -/
theorem map_name_putAll (fields more : List Field) :
    (putAll fields more).map Field.name =
      fields.map Field.name ++
        (firstNames more).filter fun name => ∀ f ∈ fields, ¬ Text.Caseless f.name name := by
  induction more generalizing fields with
  | nil => simp [putAll, firstNames]
  | cons f more ih =>
    have hlater := ih (put fields f.name f.value)
    -- A name is new behind `f` if it was new before and is not the name of `f`.
    have hnew : ∀ n, (∀ g ∈ put fields f.name f.value, ¬ Text.Caseless g.name n) ↔
        (∀ g ∈ fields, ¬ Text.Caseless g.name n) ∧ ¬ Text.Caseless f.name n := by
      intro n
      have hnames : ∀ gs : List Field, (∀ g ∈ gs, ¬ Text.Caseless g.name n) ↔
          ∀ m ∈ gs.map Field.name, ¬ Text.Caseless m n := by
        intro gs
        rw [List.forall_mem_map]
      rw [hnames, map_name_put, hnames]
      by_cases hthere : ∀ g ∈ fields, ¬ Text.Caseless g.name f.name
      · rw [if_pos hthere, List.forall_mem_append, List.forall_mem_singleton]
      · rw [if_neg hthere, List.append_nil]
        refine ⟨fun hall => ⟨hall, ?_⟩, And.left⟩
        intro hsame
        refine hthere fun g hg hgf => ?_
        exact hall g.name (List.mem_map_of_mem hg) (hgf.trans hsame)
    rw [show putAll fields (f :: more) = putAll (put fields f.name f.value) more from rfl, hlater,
      map_name_put, firstNames, List.filter_cons, List.filter_filter, List.append_assoc]
    simp only [hnew, Bool.decide_and]
    by_cases hthere : ∀ g ∈ fields, ¬ Text.Caseless g.name f.name
    · rw [if_pos hthere, if_pos (decide_eq_true hthere), List.singleton_append]
    · rw [if_neg hthere, if_neg (by simpa using hthere), List.nil_append]

theorem map_name_putAll_nil (more : List Field) :
    (putAll [] more).map Field.name = firstNames more := by
  rw [map_name_putAll, List.map_nil, List.nil_append, List.filter_eq_self.2 (by simp)]

/-- **The values that are kept**: under each name the last one that was set. -/
theorem first?_putAll (fields more : List Field) (name : String) :
    first? (putAll fields more) name = (all more name).getLast?.or (first? fields name) := by
  induction more generalizing fields with
  | nil => rfl
  | cons f more ih =>
    rw [show putAll fields (f :: more) = putAll (put fields f.name f.value) more from rfl, ih,
      first?_put]
    by_cases hf : Text.Caseless f.name name
    · have hall : all (f :: more) name = f.value :: all more name := by simp [all, hf]
      rw [if_pos hf, hall, List.getLast?_cons]
      cases (all more name).getLast? <;> rfl
    · have hall : all (f :: more) name = all more name := by simp [all, hf]
      rw [if_neg hf, hall]

/-- Fields that were set among none have different names. -/
theorem distinct_putAll (more : List Field) : Distinct (putAll [] more) := by
  have hpairs := pairwise_firstNames more
  rw [← map_name_putAll_nil, List.pairwise_map] at hpairs
  exact hpairs

/-- Among fields with different names each is the first of its name. -/
theorem first?_of_mem (h : Distinct fields) (hf : f ∈ fields) :
    first? fields f.name = some f.value := by
  induction fields with
  | nil => exact absurd hf List.not_mem_nil
  | cons g rest ih =>
    obtain ⟨hg, hrest⟩ := List.pairwise_cons.1 h
    rw [first?_cons]
    rcases List.mem_cons.1 hf with rfl | hlater
    · rw [if_pos (Text.Caseless.refl _)]
    · rw [if_neg (hg f hlater), ih hrest hlater]

theorem first?_eq_none_iff :
    first? fields name = none ↔ ∀ f ∈ fields, ¬ Text.Caseless f.name name := by
  simp [first?]

theorem all_eq_nil_iff : all fields name = [] ↔ ∀ f ∈ fields, ¬ Text.Caseless f.name name := by
  simp [all]

/-! ### Lines that can be read -/

/-- A field whose line can be read: nothing in it ends the line, and its name has no colon. -/
structure Field.Legible (f : Field) : Prop where
  name : Inline f.name
  noColon : ':' ∉ f.name.toList
  value : Inline f.value

instance (f : Field) : Decidable f.Legible :=
  decidable_of_iff (Inline f.name ∧ ':' ∉ f.name.toList ∧ Inline f.value)
    ⟨fun h => ⟨h.1, h.2.1, h.2.2⟩, fun h => ⟨h.name, h.noColon, h.value⟩⟩

theorem Field.Legible.inline_text (h : f.Legible) : Inline f.text := by
  rw [f.text_eq]
  exact (h.name.append (by decide)).append h.value

/-- The field that a line spells: its name stands before the first colon with a space behind it, and
its value is all that follows. -/
def Field.ofText? (line : List Char) : Option Field :=
  (Text.cut [':', ' '] line).map fun parts => ⟨String.ofList parts.1, String.ofList parts.2⟩

/-- **A field is read as it was written**, blanks and all. -/
theorem Field.ofText?_text (h : f.Legible) : Field.ofText? f.text.toList = some f := by
  have hcut : Text.cut [':', ' '] (f.name.toList ++ ([':', ' '] ++ f.value.toList)) = _ :=
    Text.cut_of_append h.noColon f.value.toList
  have htext : f.text.toList = f.name.toList ++ ([':', ' '] ++ f.value.toList) := by
    simp [f.text_eq]
  rw [Field.ofText?, htext, hcut, Option.map_some, String.ofList_toList, String.ofList_toList]

theorem legible_put (h : ∀ f ∈ fields, f.Legible) (hnew : Field.Legible ⟨name, value⟩) :
    ∀ f ∈ put fields name value, f.Legible := by
  have hparts : ∀ f ∈ fields, (Inline f.name ∧ ':' ∉ f.name.toList) ∧ Inline f.value :=
    fun f hf => ⟨⟨(h f hf).name, (h f hf).noColon⟩, (h f hf).value⟩
  intro f hf
  obtain ⟨⟨hname, hcolon⟩, hvalue⟩ := forall_put (P := fun n => Inline n ∧ ':' ∉ n.toList) hparts
    ⟨hnew.name, hnew.noColon⟩ hnew.value f hf
  exact ⟨hname, hcolon, hvalue⟩

theorem legible_putAll (h : ∀ f ∈ fields, f.Legible) (hmore : ∀ f ∈ more, f.Legible) :
    ∀ f ∈ putAll fields more, f.Legible := by
  induction more generalizing fields with
  | nil => exact h
  | cons f more ih =>
    obtain ⟨hf, hlater⟩ := List.forall_mem_cons.1 hmore
    exact ih (legible_put h hf) hlater

namespace Response

/-! ### What is set in a response -/

/-- What is set in a response. -/
inductive Setting
  | header (name value : String)
  /-- The body, with its type. -/
  | body (bytes : Bytes) (type : String)
  deriving DecidableEq, Repr

/-- The field that is set. -/
def Setting.field : Setting → Field
  | .header name value => ⟨name, value⟩
  | .body _ type => ⟨"Content-Type", type⟩

/-- The body that is set. -/
def Setting.body? : Setting → Option Bytes
  | .header _ _ => none
  | .body bytes _ => some bytes

/-- A response with a setting. -/
def set (r : Response) : Setting → Response
  | .header name value => r.setHeader name value
  | .body bytes type => r.setBody bytes type

/-- The response that some settings make of a new one. -/
def made (status : Nat) (settings : List Setting) : Response := settings.foldl set (new status)

/-- The fields of every response: it is not to be kept. -/
def preset : List Field :=
  [⟨"Cache-Control", "no-cache, no-store, must-revalidate"⟩, ⟨"Pragma", "no-cache"⟩,
    ⟨"Expires", "0"⟩]

/-- All fields that were set, in order. -/
def allSet (settings : List Setting) : List Field := preset ++ settings.map Setting.field

/-- The body that was set last; before any was set it is empty. -/
def lastBody (settings : List Setting) : Bytes :=
  (settings.filterMap Setting.body?).getLast?.getD []

variable {status : Nat} {settings : List Setting} {r : Response}

theorem fields_set (r : Response) (s : Setting) :
    (r.set s).fields = put r.fields s.field.name s.field.value := by
  cases s <;> rfl

theorem status_set (r : Response) (s : Setting) : (r.set s).status = r.status := by
  cases s <;> rfl

theorem body_set (r : Response) (s : Setting) : (r.set s).body = s.body?.getD r.body := by
  cases s <;> rfl

/-- Settings set their fields, one after the other. -/
theorem fields_made (status : Nat) (settings : List Setting) :
    (made status settings).fields = putAll [] (allSet settings) := by
  have hset : ∀ r : Response, (settings.foldl set r).fields =
      putAll r.fields (settings.map Setting.field) := by
    induction settings with
    | nil => exact fun r => rfl
    | cons s settings ih =>
      intro r
      rw [List.foldl_cons, ih, fields_set]
      rfl
  rw [made, hset, allSet, putAll_append]
  rfl

theorem status_made (status : Nat) (settings : List Setting) :
    (made status settings).status = status := by
  have hset : ∀ r : Response, (settings.foldl set r).status = r.status := by
    induction settings with
    | nil => exact fun r => rfl
    | cons s settings ih => exact fun r => (ih (r.set s)).trans (status_set r s)
  exact hset (new status)

theorem body_made (status : Nat) (settings : List Setting) :
    (made status settings).body = lastBody settings := by
  have hlast : ∀ r : Response, (settings.foldl set r).body =
      (settings.filterMap Setting.body?).getLast?.getD r.body := by
    induction settings with
    | nil => exact fun r => rfl
    | cons s settings ih =>
      intro r
      rw [List.foldl_cons, ih, body_set, List.filterMap_cons]
      cases s with
      | header name value => rfl
      | body bytes type =>
        show _ = Option.getD (List.getLast? (bytes :: _)) r.body
        rw [List.getLast?_cons]
        rfl
  exact hlast (new status)

/-! ### What is written -/

/-- The field that tells the length of a body, for a final status. -/
def lengthLine (status : Nat) (body : Bytes) : List Field :=
  if status ≥ firstFinalStatus then [⟨contentLength, toString body.length⟩] else []

/-- The fields that are written. -/
def written (r : Response) : List Field := r.fields ++ lengthLine r.status r.body

/-- The first line. -/
def statusLine (status : Nat) : String := s!"HTTP/1.1 {status} {reasonPhrase status}"

theorem headLines_eq (r : Response) :
    r.headLines = statusLine r.status :: r.written.map Field.text := by
  have hline : s!"Content-Length: {r.body.length}" =
      (Field.mk contentLength (toString r.body.length)).text := rfl
  rw [headLines, hline, written, List.map_append, lengthLine]
  split <;> rfl

/-- Digits do not break a line, and neither do the words that go with a status. -/
theorem inline_toString (n : Nat) : Inline (toString n) := by
  have hdigits := (Text.decimal_toString n).digits
  constructor
  · intro hmem
    exact absurd (hdigits _ hmem) (by decide)
  · intro hmem
    exact absurd (hdigits _ hmem) (by decide)

theorem inline_statusLine (status : Nat) : Inline (statusLine status) := by
  have hwords : Inline (reasonPhrase status) := by
    unfold reasonPhrase
    split <;> decide
  have hline : statusLine status =
      "HTTP/1.1 " ++ toString status ++ " " ++ reasonPhrase status := rfl
  rw [hline]
  exact ((Inline.append (by decide) (inline_toString status)).append (by decide)).append hwords

theorem legible_lengthLine (status : Nat) (body : Bytes) :
    ∀ f ∈ lengthLine status body, f.Legible := by
  intro f hf
  unfold lengthLine at hf
  split at hf
  · obtain rfl := List.mem_singleton.1 hf
    have hname : Inline contentLength ∧ ':' ∉ contentLength.toList := by decide
    exact ⟨hname.1, hname.2, inline_toString body.length⟩
  · exact absurd hf List.not_mem_nil

/-- **The lines of a response are read as they were written**: the head is found, the body follows
it, and behind the first line there is one line for each field that is written. -/
theorem exists_head (h : ∀ f ∈ r.fields, f.Legible) :
    ∃ head, cutHead r.encode = some (head, r.body) ∧
      Http.headLines head = (statusLine r.status).toList :: r.written.map (fun f => f.text.toList) ∧
      (Http.headLines head).tail.map Field.ofText? = r.written.map some := by
  have hwritten : ∀ f ∈ r.written, f.Legible := by
    rw [written, List.forall_mem_append]
    exact ⟨h, legible_lengthLine r.status r.body⟩
  have hinline : ∀ line ∈ r.headLines, Inline line := by
    rw [headLines_eq, List.forall_mem_cons, List.forall_mem_map]
    exact ⟨inline_statusLine r.status, fun f hf => (hwritten f hf).inline_text⟩
  have hempty : "" ∉ r.headLines := by
    rw [headLines_eq, List.mem_cons, List.mem_map, not_or]
    refine ⟨?_, fun ⟨f, _, htext⟩ => f.text_ne_empty htext⟩
    intro hline
    have hlist := congrArg String.toList hline
    simp [statusLine] at hlist
  have hne : r.headLines ≠ [] := List.cons_ne_nil _ _
  have hlines : Http.headLines (head r.headLines) =
      (statusLine r.status).toList :: r.written.map (fun f => f.text.toList) := by
    rw [headLines_head hne hinline, headLines_eq, List.map_cons, List.map_map]
    rfl
  refine ⟨head r.headLines, cutHead_encodeHead hne hempty hinline r.body, hlines, ?_⟩
  rw [hlines, List.tail_cons, List.map_map]
  exact List.map_congr_left fun f hf => Field.ofText?_text (hwritten f hf)

/-- A line for the length has a name of its own exactly where no field has its name. -/
theorem distinct_append_lengthLine {body : Bytes} (h : Distinct fields) :
    Distinct (fields ++ lengthLine status body) ↔
      (firstFinalStatus ≤ status → ∀ f ∈ fields, ¬ Text.Caseless f.name contentLength) := by
  unfold Distinct at h ⊢
  unfold lengthLine
  by_cases hfinal : status ≥ firstFinalStatus
  · rw [if_pos hfinal, List.pairwise_append]
    simp only [List.pairwise_singleton, List.mem_singleton, forall_eq, h, true_and]
    exact ⟨fun hall _ => hall, fun hall => hall hfinal⟩
  · rw [if_neg hfinal, List.append_nil]
    exact ⟨fun _ hfinal' => absurd hfinal' hfinal, fun _ => h⟩

/-- **The lines of a response that was made by any settings.**  The head is found again, the body
that was set last follows it, and its lines behind the first one are read as fields.  Of these the
first ones have different names, those that were set, as they were spelled first and in the order in
which they were set first; each has the value that was set last for its name.  For a final status
the length of the body follows.  All of them have different names unless the status is final and
somebody has set a field with the name of that length. -/
theorem fields_on_wire (status : Nat) {settings : List Setting}
    (h : ∀ s ∈ settings, s.field.Legible) :
    ∃ head fields,
      cutHead (made status settings).encode = some (head, lastBody settings) ∧
      (Http.headLines head).head? = some (statusLine status).toList ∧
      (Http.headLines head).tail.map Field.ofText? =
        (fields ++ lengthLine status (lastBody settings)).map some ∧
      fields.map Field.name = firstNames (allSet settings) ∧
      Distinct fields ∧
      (∀ f ∈ fields, (all (allSet settings) f.name).getLast? = some f.value) ∧
      (Distinct (fields ++ lengthLine status (lastBody settings)) ↔
        (firstFinalStatus ≤ status →
          ∀ s ∈ settings, ¬ Text.Caseless s.field.name contentLength)) := by
  have hset : ∀ f ∈ allSet settings, f.Legible := by
    rw [allSet, List.forall_mem_append, List.forall_mem_map]
    exact ⟨by decide +kernel, h⟩
  have hfields := fields_made status settings
  have hlegible : ∀ f ∈ (made status settings).fields, f.Legible := by
    rw [hfields]
    exact legible_putAll (fun f hf => absurd hf List.not_mem_nil) hset
  have hdistinct : Distinct (made status settings).fields := hfields ▸ distinct_putAll _
  have hvalues : ∀ name, first? (made status settings).fields name =
      (all (allSet settings) name).getLast? := by
    intro name
    rw [hfields, first?_putAll]
    exact Option.or_none
  obtain ⟨head, hcut, hlines, hread⟩ := exists_head hlegible
  rw [written, status_made, body_made] at hread
  rw [body_made] at hcut
  rw [status_made] at hlines
  refine ⟨head, (made status settings).fields, hcut, ?_, hread, ?_, hdistinct, ?_, ?_⟩
  · rw [hlines, List.head?_cons]
  · rw [hfields, map_name_putAll_nil]
  · intro f hf
    rw [← hvalues, first?_of_mem hdistinct hf]
  · -- A field of that name is kept if and only if one was set.
    have hkept : (∀ f ∈ (made status settings).fields, ¬ Text.Caseless f.name contentLength) ↔
        ∀ s ∈ settings, ¬ Text.Caseless s.field.name contentLength := by
      have hpreset : ∀ f ∈ preset, ¬ Text.Caseless f.name contentLength := by decide +kernel
      rw [← first?_eq_none_iff, hvalues, List.getLast?_eq_none_iff, all_eq_nil_iff, allSet,
        List.forall_mem_append, List.forall_mem_map]
      exact and_iff_right hpreset
    rw [distinct_append_lengthLine hdistinct, hkept]

/-- Two names are set again, each in other letters than before. -/
def resettings : List Setting :=
  [.header "X-Id" "1", .body [0x7B, 0x7D] "text/plain", .header "x-id" "2", .header "PRAGMA" "none"]

theorem fields_on_wire_resettings :
    (∀ s ∈ resettings, s.field.Legible) ∧
      ∃ head fields, cutHead (made 200 resettings).encode = some (head, [0x7B, 0x7D]) ∧
        (Http.headLines head).tail.map Field.ofText? =
          (fields ++ [⟨"Content-Length", "2"⟩]).map some ∧
        fields.map Field.name = ["Cache-Control", "Pragma", "Expires", "X-Id", "Content-Type"] ∧
        (∀ f ∈ fields, f.name = "X-Id" → f.value = "2") ∧
        Distinct (fields ++ [⟨"Content-Length", "2"⟩]) := by
  have hlegible : ∀ s ∈ resettings, s.field.Legible := by decide +kernel
  have hlength : lengthLine 200 (lastBody resettings) = [⟨"Content-Length", "2"⟩] := by
    decide +kernel
  obtain ⟨head, fields, hcut, -, hread, hnames, -, hvalues, hdistinct⟩ :=
    fields_on_wire 200 hlegible
  rw [hlength] at hread hdistinct
  refine ⟨hlegible, head, fields, hcut, hread, hnames.trans (by decide +kernel), ?_,
    hdistinct.2 fun _ => by decide +kernel⟩
  intro f hf hname
  have hlast : (all (allSet resettings) "X-Id").getLast? = some "2" := by decide +kernel
  have hvalue := hvalues f hf
  rw [hname, hlast] at hvalue
  exact (Option.some.inj hvalue).symm

/-- **The length is told twice** where it was set by hand, even to what it is. -/
theorem not_distinct_of_length_set :
    ¬ ∀ (status : Nat) (settings : List Setting), (∀ s ∈ settings, s.field.Legible) →
      ∀ head body, cutHead (made status settings).encode = some (head, body) →
        Distinct ((Http.headLines head).tail.filterMap Field.ofText?) := by
  intro h
  have hfields : ∀ f ∈ (made 200 [.header "Content-Length" "0"]).fields, f.Legible := by
    decide +kernel
  obtain ⟨head, hcut, -, hread⟩ := exists_head hfields
  have hdistinct := h 200 [.header "Content-Length" "0"] (by decide +kernel) head _ hcut
  have hlines : (Http.headLines head).tail.filterMap Field.ofText? =
      (made 200 [.header "Content-Length" "0"]).written := by
    have hsome := congrArg (List.filterMap id) hread
    rwa [List.filterMap_map, List.filterMap_map, Function.id_comp, Function.id_comp,
      List.filterMap_some] at hsome
  rw [hlines] at hdistinct
  exact absurd hdistinct (by decide +kernel)

end Response

end Http

end WebSocket
