import WebSocket.Client.Basic
import WebSocket.Proofs.Client.Reading
import WebSocket.Proofs.Http.RoundTrip
import WebSocket.Proofs.Policy.Decode

/-!
# Client and server agree on the handshake

The client writes a request that the server reads, and the server writes a response that the client
reads.  Four pieces of text handling meet here, two on each side.  What the client asked for is what
the server understands, the answer proves it, and the bytes behind the request and behind the
response are left for what follows.

## Main definitions

* `Client.asked` — what a client sends to switch protocols.
* `Client.understood` — what the server makes of it.
* `Handshake.agreeing` — the response to a request that asks for nothing more.

## Main results

* `Text.solid_base64` — a key has no blanks, so none are lost.
* `Client.plain_request` — what a client asks can be written and read.
* `Client.cuts_answer` — an answer ends where its empty line ends.
* `Client.checkAnswer_encode`, `Client.receiveAnswer_encode` — an answer with the digest of the key
  is accepted, and what follows it is left.
* `Client.agree` — **the two sides agree, and no byte behind the handshake is lost.**
-/

namespace WebSocket

/-! ### Keys -/

namespace Text

theorem isBlank_symbol (n : Nat) : isBlank (Base64.symbol n) = false := by
  have hall : ∀ m < 63, isBlank (Base64.symbol m) = false := by decide
  rcases Nat.lt_or_ge n 63 with hlt | hge
  · exact hall n hlt
  · have hlast : Base64.symbol n = '/' := by
      unfold Base64.symbol
      repeat rw [if_neg (by omega)]
    rw [hlast]
    decide

/-- **Base64 has no blanks.** -/
theorem solid_base64 (bytes : Bytes) : Solid (base64 bytes).toList := by
  have hfill : isBlank '=' = false := by decide
  rw [base64, String.toList_ofList]
  fun_induction Base64.symbols bytes with
  | case1 a b c rest n ih =>
    simpa only [Solid, List.forall_mem_cons, isBlank_symbol, true_and] using ih
  | case2 a b n => simp [Solid, isBlank_symbol, hfill]
  | case3 a n => simp [Solid, isBlank_symbol, hfill]
  | case4 => simp [Solid]

end Text

theorem solid_key (nonce : Bytes) : Text.Solid (Client.key nonce).toList := Text.solid_base64 nonce

theorem solid_acceptKey (key : String) : Text.Solid (acceptKey key).toList := Text.solid_base64 _

namespace Client

open Http

/-! ### The request -/

/-- What a client asks can be written and read. -/
theorem plain_request {host path : String} (hpath : Word path) (hhost : Inline host)
    (nonce : Bytes) : (request host path (key nonce)).Plain version := by
  have hkey : Inline (key nonce) := .of_solid (solid_key nonce)
  have hfields : ∀ f ∈ (request host path (key nonce)).fields, f.Plain := by
    simp only [request, List.forall_mem_cons, List.not_mem_nil, false_implies, implies_true,
      and_true]
    exact ⟨plain_mk (by decide +kernel) hhost, by decide +kernel, by decide +kernel,
      plain_mk (by decide +kernel) hkey, by decide +kernel⟩
  have hmethod : Word "GET" := by decide
  refine ⟨hmethod, hpath, by decide, hfields, ?_⟩
  rw [declaredLength_text hfields]
  have hnone : first? (request host path (key nonce)).fields contentLength = none := by
    simp only [request, first?_cons]
    repeat rw [if_neg (by decide)]
    rfl
  rw [hnone]
  rfl

/-- The server finds the key that the client sent. -/
theorem first?_key (host path key : String) :
    first? (request host path key).fields "Sec-WebSocket-Key" = some key := by
  simp only [request, first?_cons]
  rw [if_neg (by decide), if_neg (by decide), if_neg (by decide), if_pos (by decide)]

/-- The client asks for no subprotocol. -/
theorem first?_protocol (host path key : String) :
    first? (request host path key).fields "Sec-WebSocket-Protocol" = none := by
  simp only [request, first?_cons]
  repeat rw [if_neg (by decide)]
  rfl

end Client

/-! ### The response -/

namespace Handshake

open Http

variable {request : Request} {key : String}

/-- The response before a subprotocol or an origin is looked at. -/
def agreeing (key : String) : Response :=
  Response.new 101
    |>.setHeader "Upgrade" "websocket"
    |>.setHeader "Connection" "Upgrade"
    |>.setHeader "Sec-WebSocket-Accept" (acceptKey key)

theorem plain_agreeing (key : String) : ∀ f ∈ (agreeing key).fields, f.Plain := by
  have hbefore : ∀ f ∈ (Response.new 101
      |>.setHeader "Upgrade" "websocket"
      |>.setHeader "Connection" "Upgrade").fields, f.Plain := by decide +kernel
  exact plain_put hbefore (plain_mk (by decide +kernel) (.of_solid (solid_acceptKey key)))

/-- Where no subprotocol is asked for, the response is the same for every request, up to a welcome
for pages of any origin. -/
theorem accept_eq (key : String) (h : request.header? "Sec-WebSocket-Protocol" = none) :
    accept request key = agreeing key ∨
      accept request key = (agreeing key).setHeader "Access-Control-Allow-Origin" "*" := by
  unfold accept
  rw [h]
  by_cases horigin : (request.header? "Origin").isSome
  · exact .inr (if_pos horigin)
  · exact .inl (if_neg horigin)

/-- **A response that the client can read**: its fields can be written, and one is the digest of the
key. -/
theorem accept_of_no_protocol (key : String) (h : request.header? "Sec-WebSocket-Protocol" = none) :
    (accept request key).status = 101 ∧ (accept request key).body = [] ∧
      (∀ f ∈ (accept request key).fields, f.Plain) ∧
      (accept request key).header? "Sec-WebSocket-Accept" = some (acceptKey key) := by
  have hdigest : (agreeing key).header? "Sec-WebSocket-Accept" = some (acceptKey key) :=
    (first?_put ..).trans (if_pos (by decide))
  rcases accept_eq key h with heq | heq
  · rw [heq]
    exact ⟨rfl, rfl, plain_agreeing key, hdigest⟩
  · rw [heq]
    refine ⟨rfl, rfl, plain_put (plain_agreeing key) (by decide +kernel), ?_⟩
    exact (first?_put ..).trans ((if_neg (by decide)).trans hdigest)

end Handshake

namespace Client

open Http

/-- A head ends where its empty line ends, and nowhere before. -/
theorem cuts_answer {lines : List String} (hne : lines ≠ []) (hempty : "" ∉ lines)
    (h : ∀ line ∈ lines, Inline line) :
    Incoming.Cuts cutAnswer (encodeHead lines) (encodeHead lines) where
  whole := by
    intro more
    rw [cutAnswer, cutHead_encodeHead hne hempty h, Option.map_some, ← encodeHead_eq hne]
  part := by
    intro m hm
    have hcut := cutHead_encodeHead hne hempty h []
    rw [List.append_nil] at hcut
    rw [encodeHead_eq hne, List.length_append] at hm
    rw [cutAnswer, cutHead_take_eq_none hcut hm, Option.map_none]

/-- The head of a response that does not end the exchange. -/
theorem headLines_of_interim {r : Response} (h : r.status = 101) :
    r.headLines = "HTTP/1.1 101 Switching Protocols" :: r.fields.map Field.text := by
  obtain ⟨status, fields, body⟩ := r
  obtain rfl : status = 101 := h
  have hline : s!"HTTP/1.1 {101} {reasonPhrase 101}" = "HTTP/1.1 101 Switching Protocols" := rfl
  show s!"HTTP/1.1 {101} {reasonPhrase 101}" :: (fields.map Field.text ++ []) = _
  rw [hline, List.append_nil]

theorem empty_notMem_headLines {r : Response} (h : r.status = 101) : "" ∉ r.headLines := by
  rw [headLines_of_interim h, List.mem_cons, List.mem_map, not_or]
  exact ⟨by decide, fun ⟨f, _, hempty⟩ => f.text_ne_empty hempty⟩

theorem inline_headLines {r : Response} (hstatus : r.status = 101)
    (hfields : ∀ f ∈ r.fields, f.Plain) : ∀ line ∈ r.headLines, Inline line := by
  rw [headLines_of_interim hstatus, List.forall_mem_cons, List.forall_mem_map]
  exact ⟨by decide +kernel, fun f hf => (hfields f hf).inline_text⟩

/-- The answer begins with its status. -/
theorem agreement_isPrefixOf {r : Response} (h : r.status = 101) :
    agreement.toList.isPrefixOf (Text.Utf8.decode (encodeHead r.headLines)) = true := by
  have hstart : agreement.toList <+: "HTTP/1.1 101 Switching Protocols".toList := by decide
  rw [decode_encodeHead, headLines_of_interim h, List.isPrefixOf_iff_prefix]
  simp only [List.map_cons, List.cons_append, List.flatMap_cons, List.append_assoc]
  exact hstart.trans (List.prefix_append _ _)

/-- **An answer with the digest of the key is accepted.** -/
theorem checkAnswer_encode {key : String} {r : Response} (hstatus : r.status = 101)
    (hfields : ∀ f ∈ r.fields, f.Plain)
    (haccept : r.header? "Sec-WebSocket-Accept" = some (acceptKey key)) :
    checkAnswer key (encodeHead r.headLines) = .ok () := by
  obtain ⟨f, hf, hname, hvalue⟩ := exists_line_of_first? hfields haccept (solid_acceptKey key)
  have hline : f.text.toList ∈ Text.lines (Text.Utf8.decode (encodeHead r.headLines)) := by
    rw [lines_encodeHead (inline_headLines hstatus hfields), headLines_of_interim hstatus]
    simp only [List.map_cons, List.map_map, List.mem_append, List.mem_cons, List.mem_map]
    exact .inl (.inr ⟨f, hf, rfl⟩)
  have hproves : (Text.lines (Text.Utf8.decode (encodeHead r.headLines))).any (fun line =>
      decide (Text.Caseless (Field.ofLine line).name "Sec-WebSocket-Accept") &&
        (Field.ofLine line).value == acceptKey key) = true :=
    List.any_eq_true.2 ⟨f.text.toList, hline, by simp [hname, hvalue]⟩
  simp only [checkAnswer, agreement_isPrefixOf hstatus, Bool.not_true, Bool.false_eq_true, if_false]
  exact if_pos hproves

/-- **A response with the digest of the key is received**, and what follows it is left. -/
theorem receiveAnswer_encode {key : String} {r : Response} (hstatus : r.status = 101)
    (hfields : ∀ f ∈ r.fields, f.Plain)
    (haccept : r.header? "Sec-WebSocket-Accept" = some (acceptKey key)) {i : Incoming}
    (hflow : i.source.Flowing) {later : Bytes} (hstream : i.content = r.encode ++ later) :
    ∃ j, receiveAnswer key i = .ok j ∧ j.content = r.body ++ later := by
  have hne : r.headLines ≠ [] := List.cons_ne_nil _ _
  have hcuts := cuts_answer hne (empty_notMem_headLines hstatus) (inline_headLines hstatus hfields)
  rw [Response.encode, List.append_assoc] at hstream
  obtain ⟨j, hread, -, hlater⟩ := Incoming.readUntil_of_cuts hcuts hflow hstream
  refine ⟨j, ?_, hlater⟩
  simp only [receiveAnswer, hread, bind, Except.bind, checkAnswer_encode hstatus hfields haccept]
  rfl

/-! ### Both sides -/

/-- What a client with this nonce sends to switch protocols. -/
def asked (host path : String) (nonce : Bytes) : Bytes :=
  (request host path (key nonce)).encode version

/-- What a client sends is taken for a request. -/
theorem requestMark_asked (host path : String) (nonce rest : Bytes) :
    requestMark <+: asked host path nonce ++ rest := by
  have hmark : requestMark = Text.utf8 "GET" := by decide
  have hline : Text.utf8 "GET" <+:
      Text.utf8 ((request host path (key nonce)).opening version) := by
    rw [Request.opening_eq, String.append_assoc, String.append_assoc, String.append_assoc,
      Text.utf8_append]
    exact List.prefix_append _ _
  rw [hmark, asked, Request.encode_eq, List.append_assoc]
  exact (hline.trans (utf8_prefix_encodeHead _ _)).trans (List.prefix_append _ _)

/-- What the server makes of what the client asks. -/
def understood (host path : String) (nonce : Bytes) : Request :=
  { request host path (key nonce) with
    fields := (request host path (key nonce)).fields.map Field.received }

theorem header?_understood (host path : String) (nonce : Bytes) :
    (understood host path nonce).header? "Sec-WebSocket-Key" = some (key nonce) ∧
      (understood host path nonce).header? "Sec-WebSocket-Protocol" = none := by
  simp only [Request.header?, understood, first?_map_received, first?_key, first?_protocol,
    Option.map_some, Option.map_none, and_true]
  rw [Text.trim_of_solid (solid_key nonce), String.ofList_toList]

/-- **Client and server agree on the handshake.**  Whatever follows the request, it is found at its
own length and understood: the target is the path, and the key is the client's.  Whatever follows
the response, and in whatever pieces it arrives, the client accepts it, and what follows is left: in
the buffer, or still to be read. -/
theorem agree (p : Policy) (hword : p.limit < Text.wordLimit) {host path : String}
    (hpath : Word path) (hhost : Inline host) (nonce : Bytes)
    (hlimit : (asked host path nonce).length ≤ p.limit) :
    ∃ h : Handshake,
      (∀ rest,
        p.boundary (asked host path nonce ++ rest) =
          .ok (.complete (asked host path nonce).length) ∧
        p.decode (asked host path nonce ++ rest) = .ok (.handshake h)) ∧
      h.request.target = path ∧
      h.request.header? "Sec-WebSocket-Key" = some (key nonce) ∧
      h.response.status = 101 ∧
      ∀ (source : Source) (later : Bytes), source.Flowing →
        source.content = (Message.handshake h).encode ++ later →
        ∃ i, receiveAnswer (key nonce) ⟨[], source⟩ = .ok i ∧ i.content = later := by
  have hplain := plain_request hpath hhost nonce
  have hshort : (asked host path nonce).length < Text.wordLimit := Nat.lt_of_le_of_lt hlimit hword
  obtain ⟨hkey, hprotocol⟩ := header?_understood host path nonce
  obtain ⟨hstatus, hbody, hfields, haccept⟩ :=
    Handshake.accept_of_no_protocol (key nonce) hprotocol
  let h : Handshake :=
    ⟨understood host path nonce, Handshake.accept (understood host path nonce) (key nonce)⟩
  refine ⟨h, fun rest => ⟨?_, ?_⟩, rfl, hkey, hstatus, fun source later hflow hstream => ?_⟩
  · exact Policy.boundary_eq_complete.2 (.inl ⟨requestMark_asked host path nonce rest,
      Request.requestBoundary_encode hplain hshort hlimit rest⟩)
  · have hrequest : Request.parse (asked host path nonce ++ rest) =
        .ok (understood host path nonce) := Request.parse_encode hplain hshort rest
    have hparse : Handshake.parse (asked host path nonce ++ rest) = .ok h := by
      simp only [Handshake.parse, hrequest, bind, Except.bind, Handshake.ofRequest, hkey]
      rfl
    rw [Policy.decode_of_request (requestMark_asked host path nonce rest), hparse]
    rfl
  · have hcontent : (Incoming.mk [] source).content = h.response.encode ++ later := hstream
    obtain ⟨i, hanswer, hlater⟩ :=
      receiveAnswer_encode hstatus hfields haccept hflow hcontent
    rw [hbody] at hlater
    exact ⟨i, hanswer, hlater⟩

/-- Two bytes of a frame follow the response, one of them in its last piece. -/
theorem agree_chat :
    (asked "localhost:80" "/chat" (List.replicate 16 7)).length ≤ 1000 ∧
      ∃ h : Handshake,
        (⟨1000, true, ""⟩ : Policy).decode
          (asked "localhost:80" "/chat" (List.replicate 16 7) ++ [0x81]) = .ok (.handshake h) ∧
        h.request.target = "/chat" ∧
        ∃ i, receiveAnswer (key (List.replicate 16 7))
            ⟨[], ⟨[.bytes ((Message.handshake h).encode ++ [0x81]), .bytes [0]], true⟩⟩ = .ok i ∧
          i.content = [0x81, 0] := by
  have hlength : (asked "localhost:80" "/chat" (List.replicate 16 7)).length ≤ 1000 := by
    decide +kernel
  obtain ⟨h, hserver, htarget, -, -, hclient⟩ :=
    agree ⟨1000, true, ""⟩ (by decide) (by decide +kernel) (by decide +kernel)
      (List.replicate 16 7) hlength
  refine ⟨hlength, h, (hserver [0x81]).2, htarget, hclient _ _ ?_ ?_⟩
  · rintro a (_ | ⟨_, _ | ⟨_, ha⟩⟩)
    · obtain ⟨b, rest, hchunk⟩ := List.exists_cons_of_ne_nil
        (List.append_ne_nil_of_right_ne_nil (Message.handshake h).encode
          (List.cons_ne_nil (0x81 : UInt8) []))
      exact ⟨b, rest, congrArg Arrival.bytes hchunk⟩
    · exact ⟨0, [], rfl⟩
    · cases ha
  · simp [Source.content, Arrival.content]

end Client
end WebSocket
