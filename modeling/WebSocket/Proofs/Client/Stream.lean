import WebSocket.Client.Basic
import WebSocket.Proofs.Client.Reading
import WebSocket.Proofs.Policy.Grammar

/-!
# A client reads back what a server sends

A server sends its messages one after the other, each in one frame, and a client takes them off the
stream one after the other.  The pieces in which the bytes arrive have nothing to do with the
frames: a read may end inside a header, or bring several messages at once.  The client gets the same
messages in the same order, and has used the bytes of those that it got and no others.

## Main definitions

* `Incoming.receiveMany` — several things received one after the other.
* `Message.bare` — what of a message crosses the wire.
* `Message.sent?` — the frame in which a message is sent.
* `Message.stream` — the bytes of messages one after the other.

## Main results

* `Incoming.receiveMany_of_cuts` — what stands in the stream one after the other is received so.
* `Client.cuts_message` — a message ends where its bytes end, and no part of it is taken for one.
* `Client.hears_stream` — **a client reads back what a server sends.**
-/

namespace WebSocket

/-! ### One thing after the other -/

namespace Incoming

variable {α : Type} {cut : Bytes → Except ClientError (Option (α × Bytes))}

/-- `n` things received one after the other, each with what the client has left behind it. -/
def receiveMany (receive : Incoming → Except ClientError (α × Incoming)) :
    (n : Nat) → Incoming → Except ClientError (List (α × Incoming))
  | 0, _ => .ok []
  | n + 1, i => do
    let (a, j) ← receive i
    let later ← receiveMany receive n j
    return (a, j) :: later

/-- **What stands in the stream one after the other is received so**: each thing is what was
written, and what follows it is left, whatever the pieces it all arrives in.  The induction is on
the things, with any reader before it, as every call leaves another one. -/
theorem receiveMany_of_cuts {β : Type} {wire : β → Bytes} {said : β → α} {parts : List β}
    (h : ∀ b ∈ parts, Cuts cut (wire b) (said b)) {i : Incoming} (hflow : i.source.Flowing)
    (hstream : i.content = parts.flatMap wire) :
    ∃ calls, receiveMany (readUntil cut) parts.length i = .ok calls ∧
      calls.length = parts.length ∧
      ∀ (n : Nat) (b : β) (call : α × Incoming), parts[n]? = some b → calls[n]? = some call →
        call.1 = said b ∧ call.2.content = (parts.drop (n + 1)).flatMap wire := by
  induction parts generalizing i with
  | nil => exact ⟨[], rfl, rfl, by simp⟩
  | cons b parts ih =>
    obtain ⟨hb, hparts⟩ := List.forall_mem_cons.1 h
    rw [List.flatMap_cons] at hstream
    obtain ⟨j, hread, hflow', hlater⟩ := readUntil_of_cuts hb hflow hstream
    obtain ⟨calls, hcalls, hlength, hall⟩ := ih hparts hflow' hlater
    refine ⟨(said b, j) :: calls, ?_, by rw [List.length_cons, List.length_cons, hlength], ?_⟩
    · rw [List.length_cons, receiveMany, hread]
      simp only [bind, Except.bind, hcalls]
      rfl
    · intro n b' call hb' hcall
      -- The first call is the one that was just made; the others are those behind it.
      cases n with
      | zero =>
        obtain rfl : b = b' := by simpa using hb'
        obtain rfl : (said b, j) = call := by simpa using hcall
        exact ⟨rfl, hlater⟩
      | succ n =>
        rw [List.getElem?_cons_succ] at hb' hcall
        exact hall n b' call hb' hcall

end Incoming

/-! ### What crosses the wire -/

namespace Message

/-- What of a message crosses the wire: neither what a control message carries nor the control
messages between the fragments of data. -/
def bare : Message → Message
  | .handshake h => .handshake h
  | .control c => .control ⟨c.kind, []⟩
  | .text s _ => .text s []
  | .binary data _ => .binary data []

@[simp] theorem kind_bare (m : Message) : m.bare.kind = m.kind := by
  match m with
  | .handshake _ | .text .. | .binary .. => rfl
  | .control ⟨.close, _⟩ | .control ⟨.ping, _⟩ | .control ⟨.pong, _⟩ => rfl

@[simp] theorem controls_bare (m : Message) : m.bare.controls = [] := by cases m <;> rfl

theorem payload_bare {m : Message} (h : m.kind ≠ .handshake) :
    m.bare.payload = if m.isControl then [] else m.payload := by
  cases m with
  | handshake => exact absurd rfl h
  | control | text | binary => rfl

/-- The frame in which a message is sent; a handshake is not sent in a frame. -/
def sent? : Message → Option Sent
  | .handshake _ => none
  | .control c => some ⟨c.kind.opcode, true, [], none⟩
  | .text s _ => some ⟨.text, true, Text.utf8 s, none⟩
  | .binary data _ => some ⟨.binary, true, data, none⟩

theorem exists_sent {m : Message} (h : m.kind ≠ .handshake) : ∃ s, m.sent? = some s := by
  cases m with
  | handshake => exact absurd rfl h
  | control | text | binary => exact ⟨_, rfl⟩

/-- The frame of a message is final and not masked, its bytes are those of the message, and it
carries no more than the message does. -/
theorem sent?_eq_some {m : Message} {s : Sent} (h : m.sent? = some s) :
    m.encode = s.bytes ∧ s.fin = true ∧ s.payload.length ≤ m.payload.length := by
  cases m with
  | handshake => simp [sent?] at h
  | control c =>
    obtain rfl := Option.some.inj h
    exact ⟨rfl, rfl, Nat.zero_le _⟩
  | text | binary =>
    obtain rfl := Option.some.inj h
    exact ⟨rfl, rfl, Nat.le_refl _⟩

/-- **The frame of a message makes up what crosses the wire of it.** -/
theorem assemble_sent? {m : Message} {s : Sent} (h : m.sent? = some s) :
    assemble [s.part] = .ok m.bare := by
  cases m with
  | handshake => simp [sent?] at h
  | control c =>
    obtain rfl := Option.some.inj h
    have hcontrol : Part.carries ⟨c.kind.opcode, []⟩ = false := by
      simp [Part.carries, ControlKind.isControl_opcode]
    exact (assemble_control hcontrol).2 ⟨c.kind, rfl, rfl⟩
  | text s controls =>
    obtain rfl := Option.some.inj h
    exact (assemble_eq_ok rfl).2 ⟨.text s, rfl, by simp, List.append_nil (Text.utf8 s), rfl⟩
  | binary data controls =>
    obtain rfl := Option.some.inj h
    exact (assemble_eq_ok rfl).2 ⟨.binary data, rfl, by simp, List.append_nil data, rfl⟩

/-- The bytes of messages one after the other. -/
def stream (messages : List Message) : Bytes := messages.flatMap encode

end Message

/-! ### Hearing -/

namespace Client

/-- **A message ends where its bytes end**, and no part of it is taken for a message. -/
theorem cuts_message {m : Message} (hframed : m.kind ≠ .handshake)
    (hword : m.payload.length < Text.wordLimit) :
    Incoming.Cuts cutMessage m.encode m.bare := by
  obtain ⟨s, hs⟩ := Message.exists_sent hframed
  obtain ⟨hbytes, hfin, hlength⟩ := Message.sent?_eq_some hs
  have hproper : s.Proper limit := ⟨fun _ => hfin, by rw [limit]; omega⟩
  have hwire : Sent.wire [s] = m.encode := by
    rw [hbytes]
    exact List.flatMap_singleton ..
  have hscan := Sent.scan_single (by decide) hfin hproper
  have htotal := Sent.totalLength_framesAt 0 [s]
  rw [hwire] at hscan htotal
  constructor
  · -- Whatever follows, its one frame is found, and makes up what crosses the wire.
    intro more
    have hparts := Sent.map_part_framesAt [s] [] more
    rw [List.nil_append, List.length_nil, hwire] at hparts
    have hmessage : Message.ofFrames (m.encode ++ more) (Sent.framesAt 0 [s]) = .ok m.bare := by
      rw [Message.ofFrames_eq_assemble, hparts]
      exact Message.assemble_sent? hs
    simp only [cutMessage, hscan, hmessage, htotal, List.drop_left]
  · -- A part of it that were a frame would still be one with the rest behind it.
    intro n hn
    have hfound := hscan []
    rw [List.append_nil] at hfound
    rw [← htotal] at hn
    simp only [cutMessage, (Frame.incremental_scan limit).take_lt hfound hn]

/-- **A client reads back what a server sends.**  Messages that were sent one after the other, with
a part of their bytes already in the buffer and the others still to come in pieces of any size, are
received one by one: the same kinds in the same order, data with the payload that it had and without
control messages, control messages without a payload.  What the client has left after each of them,
in the buffer and still to be read, are the bytes of the messages behind it. -/
theorem hears_stream (messages : List Message) (hframed : ∀ m ∈ messages, m.kind ≠ .handshake)
    (hword : ∀ m ∈ messages, m.payload.length < Text.wordLimit) (i : Incoming)
    (hflow : i.source.Flowing) (hstream : i.content = Message.stream messages) :
    ∃ calls, Incoming.receiveMany receiveMessage messages.length i = .ok calls ∧
      calls.length = messages.length ∧
      ∀ (n : Nat) (m : Message) (call : Message × Incoming),
        messages[n]? = some m → calls[n]? = some call →
          call.1.kind = m.kind ∧ call.1.controls = [] ∧
          call.1.payload = (if m.isControl then [] else m.payload) ∧
          call.2.content = Message.stream (messages.drop (n + 1)) := by
  obtain ⟨calls, hcalls, hlength, hall⟩ := Incoming.receiveMany_of_cuts
    (fun m hm => cuts_message (hframed m hm) (hword m hm)) hflow hstream
  refine ⟨calls, hcalls, hlength, ?_⟩
  intro n m call hm hcall
  obtain ⟨hsaid, hleft⟩ := hall n m call hm hcall
  have hmem : m ∈ messages := List.mem_of_getElem? hm
  rw [hsaid]
  exact ⟨m.kind_bare, m.controls_bare, Message.payload_bare (hframed m hmem), hleft⟩

/-- A text of one character and a request to close.  One byte has arrived before, and the pieces cut
the first header, the character, and the second header. -/
theorem hears_stream_farewell :
    ∃ first second : Message × Incoming,
      Incoming.receiveMany receiveMessage 2
          ⟨[0x81], ⟨[.bytes [2, 0xC3], .bytes [0xA9, 0x88], .bytes [0]], true⟩⟩ =
        .ok [first, second] ∧
      first.1.kind = .text ∧ first.1.controls = [] ∧ first.1.payload = [0xC3, 0xA9] ∧
      first.2.content = [0x88, 0] ∧
      second.1.kind = .close ∧ second.1.controls = [] ∧ second.1.payload = [] ∧
      second.2.content = [] := by
  obtain ⟨calls, hcalls, hlength, hall⟩ :=
    hears_stream [.text "\u00E9" [⟨.ping, [7]⟩], .control ⟨.close, [3, 0xE8]⟩] (by decide)
      (by decide +kernel) ⟨[0x81], ⟨[.bytes [2, 0xC3], .bytes [0xA9, 0x88], .bytes [0]], true⟩⟩
      (by simp [Source.Flowing]) (by decide +kernel)
  match calls, hlength with
  | [first, second], _ =>
  obtain ⟨hkind, hcontrols, hpayload, hleft⟩ := hall 0 _ first rfl rfl
  obtain ⟨hkind', hcontrols', hpayload', hleft'⟩ := hall 1 _ second rfl rfl
  exact ⟨first, second, hcalls, hkind, hcontrols, hpayload.trans (by decide +kernel),
    hleft.trans (by decide +kernel), hkind', hcontrols', hpayload', hleft'⟩

end Client
end WebSocket
