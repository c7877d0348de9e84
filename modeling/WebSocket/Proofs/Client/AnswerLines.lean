import WebSocket.Proofs.Client.Agreement
import WebSocket.Proofs.Session.Upgrade

/-!
# The lines of an answer

One text of an answer is chosen by the client: a subprotocol is agreed to as it was asked for.  The
reader of requests ends a line at a carriage return with a line feed behind it, so that neither the
name nor the value of a field has such a line end inside, and where the answer is cut at line ends
its lines are the ones that were set.  A client ends a line at every line feed.  One that stands
alone in the subprotocol is read, agreed to and written like any other character, and what stands
behind it is a line of its own to the client.

## Main definitions

* `Http.Unbroken` — a text without a line end.
* `Handshake.setLines`, `Handshake.foundLines` — the lines of an answer as they were set, and as a
  client finds them.

## Main results

* `Http.Request.unbroken_of_parse` — no line end is inside a field that was read.
* `Handshake.fields_accept` — the fields of an answer, of which one value is the client's.
* `Handshake.foundLines_of_parse` — **the lines that a client finds**: those that were set, cut at
  the line feeds of the subprotocol.
-/

namespace WebSocket
namespace Http

/-! ### Texts without a line end -/

/-- A text without a line end.  A carriage return or a line feed may stand in it alone. -/
def Unbroken (s : List Char) : Prop := ¬ lineEnd <:+: s

theorem Unbroken.of_isInfix {s t : List Char} (h : Unbroken t) (hinside : s <:+: t) : Unbroken s :=
  fun hend => h (hend.trans hinside)

theorem Unbroken.append {front rest : List Char} (hfront : '\r' ∉ front) (h : Unbroken rest) :
    Unbroken (front ++ rest) :=
  fun hend => h (Text.isInfix_of_isInfix_append hfront hend)

theorem unbroken_of_not_mem {s : List Char} (h : '\r' ∉ s) : Unbroken s :=
  fun hend => h (hend.subset (List.mem_cons_self ..))

theorem trim_isInfix (s : List Char) : Text.trim s <:+: s := by
  have hright : Text.trim s <+: Text.trimLeft s := by
    rw [← List.reverse_suffix, Text.trim, List.reverse_reverse]
    exact List.dropWhile_suffix _
  exact hright.isInfix.trans (List.dropWhile_suffix _).isInfix

/-- The value of a field is a part of its line. -/
theorem Field.value_isInfix (line : List Char) : (Field.ofLine line).value.toList <:+: line := by
  unfold Field.ofLine
  split
  · next name value hcut =>
    rw [Text.cut_eq_some hcut, String.toList_ofList]
    exact (trim_isInfix value).trans (List.suffix_append _ value).isInfix
  · exact List.nil_infix

namespace Request

theorem unbroken_of_mem_headLines {head : Bytes} {line : List Char} (h : line ∈ headLines head) :
    Unbroken line :=
  Text.not_isInfix_of_mem_splitOn (by decide) h

/-- **No line end is inside the value of a field that was read.** -/
theorem unbroken_of_parse {data : Bytes} {r : Request} (h : parse data = .ok r)
    {name value : String} (hvalue : r.header? name = some value) : Unbroken value.toList := by
  obtain ⟨head, rest, hcut⟩ := exists_cutHead_of_parse h
  obtain ⟨hfields, -⟩ := fields_and_body_of_parse h hcut
  obtain ⟨f, hfind, rfl⟩ := Option.map_eq_some_iff.1 hvalue
  have hmem : f ∈ (headLines head).tail.map fieldOfLine := hfields ▸ List.mem_of_find?_eq_some hfind
  obtain ⟨line, hline, rfl⟩ := List.mem_map.1 hmem
  have hwhole : Unbroken line := unbroken_of_mem_headLines (List.mem_of_mem_tail hline)
  exact hwhole.of_isInfix (Field.value_isInfix line)

end Request

/-- A field that was not there is set behind the others. -/
theorem put_of_first?_eq_none {fields : List Field} {name : String} (value : String)
    (h : first? fields name = none) : put fields name value = fields ++ [⟨name, value⟩] := by
  induction fields with
  | nil => rfl
  | cons f fields ih =>
    rw [first?_cons] at h
    split at h
    · cases h
    · next hname => rw [put, if_neg hname, ih h, List.cons_append]

end Http

namespace Handshake

open Http

variable {request : Request} {key : String}

/-! ### The fields of an answer -/

/-- The name under which a subprotocol is asked for and agreed to. -/
def protocolName : String := "Sec-WebSocket-Protocol"

/-- The field that agrees to a subprotocol. -/
def agreed (protocol : String) : Http.Field := ⟨protocolName, protocol⟩

/-- The welcome for pages of any origin. -/
def welcome : Http.Field := ⟨"Access-Control-Allow-Origin", "*"⟩

/-- Before either is set, an answer has no subprotocol and no welcome. -/
theorem header?_agreeing {name : String} (h : name = protocolName ∨ name = welcome.name)
    (key : String) : (agreeing key).header? name = none := by
  have hbefore : first? (Response.new 101
      |>.setHeader "Upgrade" "websocket"
      |>.setHeader "Connection" "Upgrade").fields name = none := by
    rcases h with rfl | rfl <;> decide +kernel
  have hother : ¬ Text.Caseless "Sec-WebSocket-Accept" name := by
    rcases h with rfl | rfl <;> decide
  exact (first?_put ..).trans ((if_neg hother).trans hbefore)

/-- **The fields of an answer**: those of every answer, then the subprotocol as it was asked for,
then the welcome where the request comes from a page. -/
theorem fields_accept (request : Request) (key : String) :
    (accept request key).fields =
      (agreeing key).fields ++ ((request.header? protocolName).map agreed).toList ++
        if (request.header? "Origin").isSome then [welcome] else [] := by
  have hwelcome := header?_agreeing (.inr rfl) key
  cases hprotocol : request.header? protocolName with
  | none =>
    have haccept : accept request key = if (request.header? "Origin").isSome then
        (agreeing key).setHeader welcome.name welcome.value else agreeing key := by
      unfold accept
      rw [show request.header? "Sec-WebSocket-Protocol" = none from hprotocol]
      rfl
    rw [haccept, Option.map_none, Option.toList_none, List.append_nil]
    by_cases horigin : (request.header? "Origin").isSome
    · rw [if_pos horigin, if_pos horigin]
      exact put_of_first?_eq_none welcome.value hwelcome
    · rw [if_neg horigin, if_neg horigin, List.append_nil]
  | some protocol =>
    have haccept : accept request key = if (request.header? "Origin").isSome then
        ((agreeing key).setHeader protocolName protocol).setHeader welcome.name welcome.value
          else (agreeing key).setHeader protocolName protocol := by
      unfold accept
      rw [show request.header? "Sec-WebSocket-Protocol" = some protocol from hprotocol]
      rfl
    have hagreed : ((agreeing key).setHeader protocolName protocol).fields =
        (agreeing key).fields ++ [agreed protocol] :=
      put_of_first?_eq_none protocol (header?_agreeing (.inl rfl) key)
    rw [haccept, Option.map_some, Option.toList_some, ← hagreed]
    by_cases horigin : (request.header? "Origin").isSome
    · rw [if_pos horigin, if_pos horigin]
      refine put_of_first?_eq_none welcome.value ?_
      exact (first?_put ..).trans ((if_neg (by decide)).trans hwelcome)
    · rw [if_neg horigin, if_neg horigin, List.append_nil]

/-- A field of an answer can be written, or it is the subprotocol that was asked for. -/
theorem mem_fields_accept {f : Http.Field} (h : f ∈ (accept request key).fields) :
    f.Plain ∨ f.name = protocolName ∧ request.header? protocolName = some f.value := by
  rw [fields_accept, List.mem_append, List.mem_append] at h
  rcases h with (hall | hprotocol) | hwelcome
  · exact .inl (plain_agreeing key f hall)
  · obtain ⟨protocol, hasked, rfl⟩ := Option.map_eq_some_iff.1 (Option.mem_toList.1 hprotocol)
    exact .inr ⟨rfl, hasked⟩
  · split at hwelcome
    · obtain rfl := List.mem_singleton.1 hwelcome
      exact .inl (by decide +kernel)
    · exact absurd hwelcome List.not_mem_nil

theorem body_accept (request : Request) (key : String) : (accept request key).body = [] := by
  unfold accept
  split <;> split <;> rfl

/-- A handshake that was read is a request with the answer to its key. -/
theorem exists_of_parse {data : Bytes} {h : Handshake} (hparse : parse data = .ok h) :
    ∃ key, Request.parse data = .ok h.request ∧ h.response = accept h.request key := by
  obtain ⟨request, hrequest, hof⟩ := Request.exists_of_bind_eq_ok hparse
  unfold ofRequest at hof
  split at hof
  · next key hkey =>
    obtain rfl := Except.ok.inj hof
    exact ⟨key, hrequest, rfl⟩
  · cases hof

/-- A request with a key is answered. -/
theorem parse_of_request {data : Bytes} (hrequest : Request.parse data = .ok request)
    (hkey : request.header? "Sec-WebSocket-Key" = some key) :
    parse data = .ok ⟨request, accept request key⟩ := by
  simp only [parse, hrequest, bind, Except.bind, ofRequest, hkey]

/-! ### The lines -/

/-- The lines of an answer as they were set: its status, a line for each of its fields, and the
empty line. -/
def setLines (h : Handshake) : List (List Char) :=
  "HTTP/1.1 101 Switching Protocols".toList ::
    h.response.fields.map (fun f => f.text.toList) ++ [[]]

/-- The lines of an answer as a client finds them, which ends a line at every line feed. -/
def foundLines (h : Handshake) : List (List Char) :=
  Text.lines (Text.Utf8.decode h.response.encode)

variable {data : Bytes} {h : Handshake}

/-- What is written of an answer is its lines, with a line end behind each. -/
theorem decode_encode_of_parse (hparse : parse data = .ok h) :
    Text.Utf8.decode h.response.encode = h.setLines.flatMap (· ++ lineEnd) := by
  obtain ⟨key, -, hresponse⟩ := exists_of_parse hparse
  have hbody : h.response.body = [] := hresponse ▸ body_accept h.request key
  rw [Response.encode, hbody, List.append_nil, decode_encodeHead,
    Client.headLines_of_interim (status_of_parse hparse), List.map_cons, List.map_map]
  rfl

/-- A line that was set has neither a carriage return nor a line feed, or it is the one of the
subprotocol. -/
theorem inline_or_protocol (hparse : parse data = .ok h) {line : List Char}
    (hline : line ∈ h.setLines) :
    '\r' ∉ line ∧ '\n' ∉ line ∨ ∃ protocol, h.request.header? protocolName = some protocol ∧
      line = (protocolName ++ ": ").toList ++ protocol.toList := by
  obtain ⟨key, -, hresponse⟩ := exists_of_parse hparse
  rw [setLines, List.mem_append, List.mem_cons, List.mem_map, List.mem_singleton] at hline
  rcases hline with (rfl | ⟨f, hf, rfl⟩) | rfl
  · exact .inl (by decide)
  · rw [hresponse] at hf
    rcases mem_fields_accept hf with hplain | ⟨hname, hvalue⟩
    · exact .inl ⟨hplain.inline_text.noReturn, hplain.inline_text.noFeed⟩
    · exact .inr ⟨f.value, hvalue, by rw [f.text_eq, hname, String.toList_append]⟩
  · exact .inl ⟨List.not_mem_nil, List.not_mem_nil⟩

/-- **No line that was set has a line end inside**, whatever was asked for. -/
theorem unbroken_setLines (hparse : parse data = .ok h) : ∀ line ∈ h.setLines, Unbroken line := by
  intro line hline
  obtain ⟨key, hrequest, -⟩ := exists_of_parse hparse
  rcases inline_or_protocol hparse hline with ⟨hreturn, -⟩ | ⟨protocol, hasked, rfl⟩
  · exact unbroken_of_not_mem hreturn
  · exact (Request.unbroken_of_parse hrequest hasked).append (by decide)

/-- The subprotocol is a line of the answer. -/
theorem protocol_mem_setLines (hparse : parse data = .ok h) {protocol : String}
    (hasked : h.request.header? protocolName = some protocol) :
    (protocolName ++ ": ").toList ++ protocol.toList ∈ h.setLines := by
  obtain ⟨key, -, hresponse⟩ := exists_of_parse hparse
  have hfield : agreed protocol ∈ h.response.fields := by
    rw [hresponse, fields_accept, hasked]
    simp
  have htext : (agreed protocol).text.toList = (protocolName ++ ": ").toList ++ protocol.toList :=
    String.toList_append
  rw [setLines, List.mem_append, List.mem_cons, List.mem_map]
  exact .inl (.inr ⟨agreed protocol, hfield, htext⟩)

/-- **The lines that a client finds** are those that were set, each cut at its line feeds. -/
theorem foundLines_eq_flatMap (hparse : parse data = .ok h) :
    h.foundLines = h.setLines.flatMap (Text.splitOn ['\n']) := by
  rw [foundLines, decode_encode_of_parse hparse]
  exact Text.lines_flatMap_of_not_isInfix (unbroken_setLines hparse)

/-- No line that a client finds has a line feed in it. -/
theorem noFeed_of_mem_foundLines (hparse : parse data = .ok h) {line : List Char}
    (hline : line ∈ h.foundLines) : '\n' ∉ line := by
  rw [foundLines_eq_flatMap hparse, List.mem_flatMap] at hline
  obtain ⟨set, -, hpart⟩ := hline
  exact mt Text.singleton_isInfix_iff.2 (Text.not_isInfix_of_mem_splitOn (by simp) hpart)

/-- **The lines of an answer.**  Cut at its line ends, an answer is the lines that were set: its
status, one line for each field, and the empty line, behind which nothing follows.  A client that
ends a line at every line feed finds these lines cut at their line feeds.  It finds just the lines
that were set if and only if no line feed stands in the subprotocol that was asked for. -/
theorem foundLines_of_parse (hparse : parse data = .ok h) :
    Text.splitOn lineEnd (Text.Utf8.decode h.response.encode) = h.setLines ++ [[]] ∧
      h.foundLines = h.setLines.flatMap (Text.splitOn ['\n']) ∧
      (h.foundLines = h.setLines ↔ ∀ protocol,
        h.request.header? "Sec-WebSocket-Protocol" = some protocol → '\n' ∉ protocol.toList) := by
  have hfound := foundLines_eq_flatMap hparse
  refine ⟨?_, hfound, fun heq protocol hasked hfeed => ?_, fun hnone => ?_⟩
  · rw [decode_encode_of_parse hparse]
    exact Text.splitOn_pair_flatMap (by decide) (unbroken_setLines hparse)
  · -- The line of the subprotocol has a line feed, and no line that is found has one.
    have hline : (protocolName ++ ": ").toList ++ protocol.toList ∈ h.foundLines := by
      rw [heq]
      exact protocol_mem_setLines hparse hasked
    exact noFeed_of_mem_foundLines hparse hline (List.mem_append_right _ hfeed)
  · have hsingle : ∀ line ∈ h.setLines, Text.splitOn ['\n'] line = [line] := by
      intro line hline
      refine Text.splitOn_of_not_mem ?_
      rcases inline_or_protocol hparse hline with ⟨-, hfeed⟩ | ⟨protocol, hasked, rfl⟩
      · exact hfeed
      · rw [List.mem_append, not_or]
        exact ⟨by decide, hnone protocol hasked⟩
    rw [hfound, List.flatMap_def, List.map_congr_left hsingle]
    exact List.flatMap_singleton' h.setLines

/-- A carriage return alone ends no line for either reader. -/
theorem foundLines_of_parse_return :
    ∃ h, parse (Text.utf8 ("GET / HTTP/1.1\r\nSec-WebSocket-Key: x\r\n" ++
        "Sec-WebSocket-Protocol: chat\rSet-Cookie: a=1\r\n\r\n")) = .ok h ∧
      h.foundLines = h.setLines := by
  let request : Request := ⟨"GET", "/", [⟨"sec-websocket-key", "x"⟩,
    ⟨"sec-websocket-protocol", "chat\rSet-Cookie: a=1"⟩], []⟩
  have hparse : parse (Text.utf8 ("GET / HTTP/1.1\r\nSec-WebSocket-Key: x\r\n" ++
      "Sec-WebSocket-Protocol: chat\rSet-Cookie: a=1\r\n\r\n")) =
        .ok ⟨request, accept request "x"⟩ :=
    parse_of_request (by decide +kernel) rfl
  refine ⟨_, hparse, (foundLines_of_parse hparse).2.2.2 fun protocol hasked => ?_⟩
  obtain rfl : "chat\rSet-Cookie: a=1" = protocol := Option.some.inj hasked
  decide

/-- A request whose subprotocol has a line feed in it, with the line of another field behind it. -/
def smuggling : Bytes :=
  Text.utf8 ("GET / HTTP/1.1\r\nSec-WebSocket-Key: x\r\n" ++
    "Sec-WebSocket-Protocol: chat\nSet-Cookie: a=1\r\n\r\n")

/-- What the server makes of it. -/
def smuggled : Handshake :=
  let request : Request := ⟨"GET", "/", [⟨"sec-websocket-key", "x"⟩,
    ⟨"sec-websocket-protocol", "chat\nSet-Cookie: a=1"⟩], []⟩
  ⟨request, accept request "x"⟩

/-- **A line that was not set**: the client finds a field that the server never wrote. -/
theorem foundLines_ne_setLines :
    parse smuggling = .ok smuggled ∧ smuggled.foundLines ≠ smuggled.setLines ∧
      "Set-Cookie: a=1".toList ∈ smuggled.foundLines ∧
      "Set-Cookie: a=1".toList ∉ smuggled.setLines := by
  have hparse : parse smuggling = .ok smuggled := parse_of_request (by decide +kernel) rfl
  have hset : "Set-Cookie: a=1".toList ∉ smuggled.setLines := by decide +kernel
  have hfound : "Set-Cookie: a=1".toList ∈ smuggled.foundLines := by
    rw [foundLines_eq_flatMap hparse, List.mem_flatMap]
    refine ⟨_, protocol_mem_setLines hparse rfl, ?_⟩
    have hline : (protocolName ++ ": ").toList ++ "chat\nSet-Cookie: a=1".toList =
        "Sec-WebSocket-Protocol: chat".toList ++ '\n' :: "Set-Cookie: a=1".toList := by decide
    rw [hline, Text.splitOn_append_cons, List.mem_append]
    exact .inr (by rw [Text.splitOn_of_not_mem (by decide)]; exact List.mem_singleton_self _)
  exact ⟨hparse, fun heq => hset (heq ▸ hfound), hfound, hset⟩

end Handshake
end WebSocket
