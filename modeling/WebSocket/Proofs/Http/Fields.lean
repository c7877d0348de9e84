import WebSocket.Proofs.Http.RoundTrip
import WebSocket.Proofs.Text.Digits

/-!
# Requests come back with their fields

Whoever writes a request without blanks around names and values, and with the length of the body in
decimal, gets all of it back from the reader.  Names may repeat and differ in the case of their
letters, values may have colons in them, and the body may look like another head.

## Main definitions

* `Text.Trimmed` — a text whose ends are not blank.
* `Http.Field.Tidy` — a field that is given back as it was written.
* `Http.Request.DeclaresBody` — the fields tell the length of the body.
* `Http.Request.Tidy` — a request that is given back as it was written.

## Main results

* `Http.Request.encode_pieces` — the bytes of a request, piece by piece.
* `Http.all_map_received` — every name has the values it had.
* `Http.Request.found_and_read` — **a request is found, and read with all its fields.**
-/

namespace WebSocket

namespace Text

/-- A text whose ends are not blank. -/
structure Trimmed (s : List Char) : Prop where
  front : ∀ c ∈ s.head?, isBlank c = false
  back : ∀ c ∈ s.getLast?, isBlank c = false

-- Only the ends are looked at; to go through all characters would decide it as well.
instance (s : List Char) : Decidable (Trimmed s) :=
  letI : ∀ o : Option Char, Decidable (∀ c ∈ o, isBlank c = false) := Option.decidableForallMem
  decidable_of_iff ((∀ c ∈ s.head?, isBlank c = false) ∧ ∀ c ∈ s.getLast?, isBlank c = false)
    ⟨fun h => ⟨h.1, h.2⟩, fun h => ⟨h.front, h.back⟩⟩

theorem Trimmed.trim_eq {s : List Char} (h : Trimmed s) : trim s = s := trim_eq_self h.front h.back

theorem utf8_join (texts : List String) : utf8 (String.join texts) = texts.flatMap utf8 := by
  induction texts with
  | nil => rfl
  | cons text texts ih => rw [String.join_cons, utf8_append, ih, List.flatMap_cons]

end Text

namespace Http

/-! ### Fields -/

/-- A field that is given back as it was written: its line is not broken, its name ends at the first
colon, and there are no blanks to be cut off. -/
structure Field.Tidy (f : Field) : Prop where
  name : Inline f.name
  noColon : ':' ∉ f.name.toList
  nameTrimmed : Text.Trimmed f.name.toList
  value : Inline f.value
  valueTrimmed : Text.Trimmed f.value.toList

instance (f : Field) : Decidable f.Tidy :=
  decidable_of_iff (Inline f.name ∧ ':' ∉ f.name.toList ∧ Text.Trimmed f.name.toList ∧
      Inline f.value ∧ Text.Trimmed f.value.toList)
    ⟨fun h => ⟨h.1, h.2.1, h.2.2.1, h.2.2.2.1, h.2.2.2.2⟩,
      fun h => ⟨h.name, h.noColon, h.nameTrimmed, h.value, h.valueTrimmed⟩⟩

theorem Field.Tidy.plain {f : Field} (h : f.Tidy) : f.Plain :=
  ⟨⟨h.name, h.noColon, h.nameTrimmed.trim_eq⟩, h.value⟩

/-- What is received of the value is the value. -/
theorem Field.Tidy.value_received {f : Field} (h : f.Tidy) : f.received.value = f.value := by
  rw [Field.received, Field.trimmed, h.valueTrimmed.trim_eq, String.ofList_toList]

/-- **Every name has the values it had**, in the order that they had. -/
theorem all_map_received {fields : List Field} (h : ∀ f ∈ fields, f.Tidy) (name : String) :
    all (fields.map Field.received) name =
      (fields.filter fun f => Text.Caseless f.name name).map Field.value := by
  have hnames : (fun f => decide (Text.Caseless f.name name)) ∘ Field.received =
      fun f => decide (Text.Caseless f.name name) := by
    funext f
    have hname : Text.Caseless f.received.name name ↔ Text.Caseless f.name name :=
      Text.caseless_lower
    exact decide_eq_decide.2 hname
  rw [all, List.filter_map, hnames, List.map_map]
  refine List.map_congr_left fun f hf => ?_
  exact (h f (List.mem_filter.1 hf).1).value_received

/-! ### Requests -/

namespace Request

variable {version : String} {r : Request}

/-- The fields tell the length of the body: the first one of that name writes it in decimal, and
without one there is no body. -/
def DeclaresBody (r : Request) : Prop :=
  match first? r.fields contentLength with
  | some value => Text.Decimal value r.body.length
  | none => r.body = []

/-- A request that is given back as it was written: its first line has three words, its fields are
tidy, and they tell the length of the body. -/
structure Tidy (version : String) (r : Request) : Prop where
  method : Word r.method
  target : Word r.target
  version : Word version
  fields : ∀ f ∈ r.fields, f.Tidy
  body : r.DeclaresBody

/-- The bytes of a request, piece by piece. -/
theorem encode_pieces (version : String) (r : Request) :
    r.encode version =
      Text.utf8 (r.method ++ " " ++ r.target ++ " " ++ version ++ "\r\n") ++
        r.fields.flatMap (fun f => Text.utf8 (f.name ++ ": " ++ f.value ++ "\r\n")) ++
        [0x0D, 0x0A] ++ r.body := by
  have hend : Text.utf8 (String.ofList lineEnd) = [0x0D, 0x0A] := by decide
  rw [encode_eq, encodeHead, Text.utf8_append, Text.utf8_join, hend, List.map_cons,
    List.flatMap_cons, List.map_map, List.flatMap_map]
  rfl

/-- The length that the fields tell is the one that is found. -/
theorem Tidy.plain (h : r.Tidy version) (hword : r.body.length < Text.wordLimit) :
    r.Plain version := by
  have hfields : ∀ f ∈ r.fields, f.Plain := by
    intro f hf
    exact (h.fields f hf).plain
  refine ⟨h.method, h.target, h.version, hfields, ?_⟩
  have hdeclares := h.body
  rw [declaredLength_text hfields]
  unfold DeclaresBody at hdeclares
  cases hfirst : first? r.fields contentLength with
  | none =>
    rw [hfirst] at hdeclares
    rw [hdeclares]
    rfl
  | some value =>
    rw [hfirst] at hdeclares
    -- The field is one of the tidy ones, so nothing is cut off its value.
    obtain ⟨f, hfind, rfl⟩ := Option.map_eq_some_iff.1 hfirst
    have htidy := h.fields f (List.mem_of_find?_eq_some hfind)
    simp only [htidy.valueTrimmed.trim_eq, String.ofList_toList, parseLength,
      Text.word?_of_decimal hdeclares hword]

/-- **A request is found, and read with all its fields.**  It is written as its first line, a line
for each field, an empty line and the body.  Its bytes are found at their own length whatever
follows them, within every limit of 64 bits that they meet, and no part of them is taken for a
request or refused.  What is read has the method, the target and the body, and under every name, in
whatever case its letters are, the values of the fields of that name in order, of which the first is
found first. -/
theorem found_and_read (h : r.Tidy version) {limit : Nat} (hword : limit < Text.wordLimit)
    (hlimit : (r.encode version).length ≤ limit) (more : Bytes) :
    r.encode version =
      Text.utf8 (r.method ++ " " ++ r.target ++ " " ++ version ++ "\r\n") ++
        r.fields.flatMap (fun f => Text.utf8 (f.name ++ ": " ++ f.value ++ "\r\n")) ++
        [0x0D, 0x0A] ++ r.body ∧
    requestBoundary limit (r.encode version ++ more) = .ok (some (r.encode version).length) ∧
    (∀ m < (r.encode version).length,
      requestBoundary limit ((r.encode version).take m) = .ok none) ∧
    ∃ r', parse (r.encode version ++ more) = .ok r' ∧
      r'.method = r.method ∧ r'.target = r.target ∧ r'.body = r.body ∧
      ∀ name,
        r'.headers name = (r.fields.filter fun f => Text.Caseless f.name name).map Field.value ∧
        r'.header? name = (r'.headers name).head? := by
  have hshort : (r.encode version).length < Text.wordLimit := Nat.lt_of_le_of_lt hlimit hword
  have hplain : r.Plain version := by
    refine h.plain ?_
    have hlength := length_encode version r
    omega
  have hfound := requestBoundary_encode hplain hshort hlimit
  refine ⟨encode_pieces version r, hfound more, ?_, ?_⟩
  · intro m hm
    have hwhole := hfound []
    rw [List.append_nil] at hwhole
    exact (incremental_requestBoundary limit).take_lt hwhole hm
  · refine ⟨_, parse_encode hplain hshort more, rfl, rfl, rfl, ?_⟩
    intro name
    constructor
    · exact all_map_received h.fields name
    · exact first?_eq_head? _ name

/-- A request with two fields of one name, a colon in the value of the first, and a body that looks
like the end of a head. -/
def tagged : Request :=
  ⟨"GET", "/chat", [⟨"X-Tag", "a:b"⟩, ⟨"Content-length", "4"⟩, ⟨"x-tag", ""⟩],
    [0x0D, 0x0A, 0x0D, 0x0A]⟩

theorem found_and_read_tagged :
    requestBoundary 100 (tagged.encode "HTTP/1.1" ++ [0x81]) = .ok (some 66) ∧
      requestBoundary 100 ((tagged.encode "HTTP/1.1").take 65) = .ok none ∧
      ∃ r', parse (tagged.encode "HTTP/1.1" ++ [0x81]) = .ok r' ∧
        r'.body = [0x0D, 0x0A, 0x0D, 0x0A] ∧ r'.headers "x-TAG" = ["a:b", ""] ∧
        r'.header? "x-TAG" = some "a:b" := by
  have hlength : (tagged.encode "HTTP/1.1").length = 66 := by decide +kernel
  have htidy : tagged.Tidy "HTTP/1.1" :=
    ⟨by decide, by decide, by decide, by decide +kernel, Text.decimal_toString 4⟩
  obtain ⟨-, hfound, hpart, r', hread, -, -, hbody, hnames⟩ :=
    found_and_read htidy (show 100 < Text.wordLimit by decide) (by omega) [0x81]
  rw [hlength] at hfound hpart
  obtain ⟨hall, hfirst⟩ := hnames "x-TAG"
  have hvalues : r'.headers "x-TAG" = ["a:b", ""] := hall.trans (by decide +kernel)
  exact ⟨hfound, hpart 65 (by decide), r', hread, hbody, hvalues, by rw [hfirst, hvalues]; rfl⟩

end Request
end Http
end WebSocket
