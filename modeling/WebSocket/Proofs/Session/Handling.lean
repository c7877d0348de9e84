import WebSocket.Session.Basic
import WebSocket.Proofs.Session.Receiving

/-!
# Handling a unit

A unit that was received is decoded, what it asks for is answered through the queue of the session,
and only then is data handed to the application.  The answers are queued one by one, and the first
that is refused is the end of it.

## Main definitions

* `Message.owed`, `Message.address?` — the messages with which a server answers one, and the address
  that it names.
* `Handle.Queues` — messages queued one after the other.
* `Session.Handles` — **what handling a unit comes to.**
* `Session.Handling`, `Session.Chain` — units handled one after the other.

## Main results

* `Handle.Queues.waiting` — messages are queued in order, behind what waited.
* `Session.handleUnit_spec`, `Session.chain_of_accepts` — units are handled in this way.
-/

namespace WebSocket

/-! ### Answers -/

/-- The messages with which a server answers a message, in order. -/
def Message.owed : Message → List Message
  | .handshake h => [.handshake h]
  | .control c => (Policy.replyTo c).toList
  | .text _ controls | .binary _ controls => controls.filterMap Policy.replyTo

/-- The first of the entries that commas separate. -/
def firstEntry (value : String) : List Char := Text.trim (value.toList.takeWhile (· != ','))

/-- The address that a message names: for a handshake the first entry of the trusted header, unless
that is blank. -/
def Message.address? (header : String) : Message → Option String
  | .handshake h => (h.request.header? header).bind fun value =>
    if (firstEntry value).isEmpty then none else some (String.ofList (firstEntry value))
  | _ => none

theorem Policy.forwarded?_eq (p : Policy) (h : Handshake) :
    p.forwarded? h = (Message.handshake h).address? p.forwardedHeader := by
  simp only [Policy.forwarded?, Message.address?]
  cases h.request.header? p.forwardedHeader with
  | none => rfl
  | some value =>
    simp only [bind, Option.bind, firstEntry, Text.takeWhile_eq_cut]
    cases Text.cut [','] value.toList <;> rfl

/-- Messages queued one after the other. -/
inductive Handle.Queues : Handle → List Message → Handle → Prop
  | nil (h : Handle) : Queues h [] h
  | cons {h h' h'' : Handle} {m : Message} {ms : List Message} :
      h.queue m = .ok h' → Queues h' ms h'' → Queues h (m :: ms) h''

/-! ### The queue -/

namespace Handle

/-- A message is refused when the session is gone, or when as many packets are pending as may be. -/
theorem queue_eq_error {h : Handle} {m : Message} {e : SessionError} (hq : h.queue m = .error e) :
    (h.closed = true ∧ e = .closed) ∨
      (h.outbox.capacity ≤ h.outbox.pending ∧ e = .outboxFull h.outbox.capacity) := by
  unfold Handle.queue at hq
  split at hq
  · next hclosed => exact .inl ⟨hclosed, (Except.error.inj hq).symm⟩
  · cases hpush : h.outbox.push m.encode m.kind with
    | ok r => simp [hpush, Except.map] at hq
    | error e' =>
      obtain rfl : e' = e := by simpa [hpush, Except.map] using hq
      unfold Outbox.push at hpush
      split at hpush
      · simp at hpush
      · next hfull =>
        refine .inr ⟨?_, (Except.error.inj hpush).symm⟩
        simpa [Outbox.admits] using hfull

/-- A message that is queued waits behind the others, and nothing else of the handle changes. -/
theorem queue_eq_ok {h h' : Handle} {m : Message} (hq : h.queue m = .ok h') :
    (∃ seq, h'.outbox.waiting = h.outbox.waiting ++ [⟨m.encode, seq, m.kind⟩]) ∧
      h' = { h with outbox := h'.outbox } := by
  unfold Handle.queue at hq
  split at hq
  · simp at hq
  · cases hpush : h.outbox.push m.encode m.kind with
    | error e => simp [hpush, Except.map] at hq
    | ok r =>
      obtain ⟨seq, outbox⟩ := r
      obtain rfl : { h with outbox } = h' := by simpa [hpush, Except.map] using hq
      exact ⟨⟨seq, Outbox.waiting_push hpush⟩, rfl⟩

/-- **Messages are queued in order**, behind what waited before, and nothing else of the handle
changes. -/
theorem Queues.waiting {h h' : Handle} {ms : List Message} (hq : h.Queues ms h') :
    h'.outbox.waiting.map (fun p => (p.bytes, p.kind)) =
        h.outbox.waiting.map (fun p => (p.bytes, p.kind)) ++ ms.map (fun m => (m.encode, m.kind)) ∧
      h' = { h with outbox := h'.outbox } := by
  induction hq with
  | nil => exact ⟨by simp, rfl⟩
  | cons hm _ ih =>
    obtain ⟨⟨seq, hwaiting⟩, hsame⟩ := queue_eq_ok hm
    obtain ⟨hrest, hsame'⟩ := ih
    refine ⟨?_, ?_⟩
    · rw [hrest, hwaiting]
      simp
    · rw [hsame', hsame]

end Handle

namespace Session

/-- The handle after the address that a message names, if it does, was remembered. -/
def bound (p : Policy) (h : Handle) (m : Message) : Handle :=
  match m.address? p.forwardedHeader with
  | some address => (h.bindForwarded address).1
  | none => h

/-- What is told when an address is remembered. -/
def named (p : Policy) (h : Handle) (m : Message) : List Effect :=
  match m.address? p.forwardedHeader with
  | some address => (h.bindForwarded address).2.map .notice
  | none => []

/-- What is told of a message before it is answered. -/
def received (p : Policy) (h : Handle) (m : Message) : List Effect :=
  [.notice (.count (.messagesReceived m.kind) 1), .notice (.log (.messageReceived h.id m.summary))]
    ++ named p h m

/-- What handling a unit comes to, for a session with the handle `h`: the handle after it, what came
out, and why it failed if it did. -/
inductive Handles (p : Policy) (app : App) (h : Handle) (unit : Bytes) :
    Handle → List Effect → Option SessionError → Prop
  /-- It says nothing. -/
  | undecodable {e : ProtocolError} :
      p.decode unit = .error e → Handles p app h unit h [] (some (.protocol e))
  /-- An answer is refused.  Those before it were queued, and those behind it are not. -/
  | refused {m answer : Message} {sent unsent : List Message} {h' : Handle} {e : SessionError} :
      p.decode unit = .ok m → m.owed = sent ++ answer :: unsent →
      (bound p h m).Queues sent h' → h'.queue answer = .error e →
      Handles p app h unit h' (received p h m) (some e)
  /-- All answers are queued, and the message is not for the application. -/
  | answered {m : Message} {h' : Handle} :
      p.decode unit = .ok m → m.isControl = true → (bound p h m).Queues m.owed h' →
      Handles p app h unit h' (received p h m) none
  /-- All answers are queued, and the application has taken the message or panicked over it. -/
  | delivered {m : Message} {h' : Handle} :
      p.decode unit = .ok m → m.isControl = false → (bound p h m).Queues m.owed h' →
      Handles p app h unit (app h' m).handle
        (received p h m ++ .delivered h'.id m (app h' m).panic.isSome ::
          (app h' m).notices.map .notice)
        ((app h' m).panic.map .panicked)

/-! ### Handling -/

theorem perform_replies (w : Work) (ms : List Message) :
    (∃ h', w.handle.Queues ms h' ∧
      perform Work.act w (ms.map .reply) = ({ w with handle := h' }, none)) ∨
    ∃ sent answer unsent h' e, ms = sent ++ answer :: unsent ∧ w.handle.Queues sent h' ∧
      h'.queue answer = .error e ∧
      perform Work.act w (ms.map .reply) = ({ w with handle := h' }, some e) := by
  -- Each reply is queued on the handle that the one before it left.
  induction ms generalizing w with
  | nil => exact .inl ⟨w.handle, .nil _, rfl⟩
  | cons m ms ih =>
    cases hm : w.handle.queue m with
    | error e =>
      refine .inr ⟨[], m, ms, w.handle, e, rfl, .nil _, hm, ?_⟩
      simp only [List.map_cons, perform, Work.act, hm]
    | ok h₁ =>
      have hstep : perform Work.act w ((m :: ms).map .reply) =
          perform Work.act { w with handle := h₁ } (ms.map .reply) := by
        simp only [List.map_cons, perform, Work.act, hm]
      rw [hstep]
      rcases ih { w with handle := h₁ } with ⟨h', hq, hrun⟩ |
        ⟨sent, answer, unsent, h', e, rfl, hq, hrefused, hrun⟩
      · exact .inl ⟨h', .cons hm hq, hrun⟩
      · exact .inr ⟨m :: sent, answer, unsent, h', e, rfl, .cons hm hq, hrefused, hrun⟩

/-- An address is remembered before anything is answered. -/
theorem perform_duties (p : Policy) (w : Work) (m : Message) :
    perform Work.act w (p.duties m) =
      perform Work.act ⟨bound p w.handle m, (named p w.handle m).reverse ++ w.recent⟩
        (m.owed.map .reply) := by
  cases m with
  | handshake hs =>
    simp only [Policy.duties, bound, named, Message.owed, Policy.forwarded?_eq]
    cases (Message.handshake hs).address? p.forwardedHeader with
    | none => rfl
    | some address => rfl
  | control c =>
    simp only [Policy.duties, Message.owed]
    cases Policy.replyTo c <;> rfl
  | text => rfl
  | binary => rfl

/-- **A unit is handled in this way.** -/
theorem handleUnit_spec (p : Policy) (app : App) (w : Work) (unit : Bytes) :
    ∃ effects, (handleUnit p app w unit).1.effects = w.effects ++ effects ∧
      Handles p app w.handle unit (handleUnit p app w unit).1.handle effects
        (handleUnit p app w unit).2 := by
  unfold handleUnit
  cases hd : p.decode unit with
  | error e => exact ⟨[], (List.append_nil _).symm, .undecodable hd⟩
  | ok m =>
    -- The message is told and an address remembered before the first answer.
    let told := w.tell [.count (.messagesReceived m.kind) 1,
      .log (.messageReceived w.handle.id m.summary)]
    let ready : Work := ⟨bound p w.handle m, (named p w.handle m).reverse ++ told.recent⟩
    have hready : ready.effects = w.effects ++ received p w.handle m := by
      simp [ready, told, Work.effects, Work.tell, received]
    have hperform : perform Work.act told (p.duties m) =
        perform Work.act ready (m.owed.map .reply) := perform_duties p told m
    simp only
    rw [hperform]
    rcases perform_replies ready m.owed with ⟨h', hq, hrun⟩ |
      ⟨sent, answer, unsent, h', e, howed, hq, hrefused, hrun⟩
    · rw [hrun]
      cases hc : m.isControl with
      | true => exact ⟨_, hready, .answered hd hc hq⟩
      | false =>
        refine ⟨_, ?_, .delivered hd hc hq⟩
        simp only [Bool.false_eq_true, if_false, Work.handOver, Work.effects_tell]
        rw [← List.append_assoc, ← hready]
        simp [Work.effects]
    · rw [hrun]
      exact ⟨_, hready, .refused hd howed hq hrefused⟩

/-- What is told of a message before it is answered is told, not handed over. -/
theorem delivered_not_mem_received {p : Policy} {h : Handle} {m m' : Message} {id : ConnectionId}
    {panicked : Bool} : .delivered id m' panicked ∉ received p h m := by
  intro hin
  rcases List.mem_append.1 hin with hfirst | hnamed
  · simp at hfirst
  · unfold named at hnamed
    split at hnamed <;> simp at hnamed

/-- Only what a unit says is handed to the application, and only if it is data. -/
theorem Handles.of_delivered {p : Policy} {app : App} {h h' : Handle} {unit : Bytes}
    {effects : List Effect} {err : Option SessionError}
    (hh : Handles p app h unit h' effects err) {id : ConnectionId} {m : Message} {panicked : Bool}
    (hm : .delivered id m panicked ∈ effects) : p.decode unit = .ok m ∧ m.isControl = false := by
  cases hh with
  | undecodable => simp at hm
  | refused => exact absurd hm delivered_not_mem_received
  | answered => exact absurd hm delivered_not_mem_received
  | delivered hd hc =>
    rcases List.mem_append.1 hm with hfirst | hrest
    · exact absurd hfirst delivered_not_mem_received
    · rcases List.mem_cons.1 hrest with heq | hnotice
      · obtain ⟨-, rfl, -⟩ := Effect.delivered.inj heq
        exact ⟨hd, hc⟩
      · simp at hnotice

/-- A unit never fails for the socket or the buffer. -/
theorem Handles.not_isTransport {p : Policy} {app : App} {h h' : Handle} {unit : Bytes}
    {effects : List Effect} {e : SessionError} (hh : Handles p app h unit h' effects (some e)) :
    ¬ e.IsTransport := by
  generalize herr : some e = err at hh
  intro htransport
  cases hh with
  | undecodable =>
    obtain rfl := Option.some.inj herr
    exact htransport
  | refused _ _ _ hrefused =>
    obtain rfl := Option.some.inj herr
    rcases Handle.queue_eq_error hrefused with ⟨-, rfl⟩ | ⟨-, rfl⟩
    · exact htransport
    · exact htransport
  | answered => simp at herr
  | delivered =>
    obtain ⟨detail, -, rfl⟩ := Option.map_eq_some_iff.1 herr.symm
    exact htransport

/-! ### Units one after the other -/

/-- A unit that was handled, with the handle before and after it and what came out. -/
structure Handling where
  unit : Bytes
  before : Handle
  after : Handle
  effects : List Effect

/-- Units handled one after the other, from one handle to another, up to the first that fails. -/
inductive Chain (p : Policy) (app : App) :
    Handle → List Handling → Handle → Option SessionError → Prop
  | nil (h : Handle) : Chain p app h [] h none
  | stop {h h' : Handle} {unit : Bytes} {effects : List Effect} {e : SessionError} :
      Handles p app h unit h' effects (some e) →
      Chain p app h [⟨unit, h, h', effects⟩] h' (some e)
  | next {h h' h'' : Handle} {unit : Bytes} {effects : List Effect} {ks : List Handling}
      {err : Option SessionError} :
      Handles p app h unit h' effects none → Chain p app h' ks h'' err →
      Chain p app h (⟨unit, h, h', effects⟩ :: ks) h'' err

variable {p : Policy} {app : App}

/-- Units that were taken are a chain without a failure. -/
theorem chain_of_accepts {w w' : Work} {units : List Bytes}
    (h : Inbox.Accepts (handleUnit p app) w units w') :
    ∃ ks : List Handling, ks.map Handling.unit = units ∧
      w'.effects = w.effects ++ ks.flatMap Handling.effects ∧
      Chain p app w.handle ks w'.handle none := by
  induction h with
  | nil w => exact ⟨[], rfl, by simp, .nil _⟩
  | @cons w w₁ w' unit units hunit _ ih =>
    obtain ⟨effects, heffects, hhandles⟩ := handleUnit_spec p app w unit
    rw [hunit] at heffects hhandles
    obtain ⟨ks, hunits, hrest, hchain⟩ := ih
    refine ⟨⟨unit, w.handle, w₁.handle, effects⟩ :: ks, by rw [List.map_cons, hunits], ?_,
      .next hhandles hchain⟩
    rw [hrest, heffects, List.flatMap_cons, List.append_assoc]

/-- A chain without a failure goes on with a unit that fails. -/
theorem Chain.stop_after {h h' h'' : Handle} {ks : List Handling} {unit : Bytes}
    {effects : List Effect} {e : SessionError} (hc : Chain p app h ks h' none)
    (hh : Handles p app h' unit h'' effects (some e)) :
    Chain p app h (ks ++ [⟨unit, h', h'', effects⟩]) h'' (some e) := by
  generalize hnone : (none : Option SessionError) = err at hc
  induction hc with
  | nil => exact .stop hh
  | stop => simp at hnone
  | next hk _ ih => exact .next hk (ih hh hnone)

/-- A chain never fails for the socket or the buffer. -/
theorem Chain.not_isTransport {h h' : Handle} {ks : List Handling} {e : SessionError}
    (hc : Chain p app h ks h' (some e)) : ¬ e.IsTransport := by
  generalize herr : some e = err at hc
  induction hc with
  | nil => simp at herr
  | stop hk =>
    obtain rfl := Option.some.inj herr
    exact hk.not_isTransport
  | next _ _ ih => exact ih herr

/-- What is handed to the application in a chain is data. -/
theorem Chain.isControl_of_delivered {h h' : Handle} {ks : List Handling}
    {err : Option SessionError} (hc : Chain p app h ks h' err) {id : ConnectionId} {m : Message}
    {panicked : Bool} (hm : .delivered id m panicked ∈ ks.flatMap Handling.effects) :
    m.isControl = false := by
  induction hc with
  | nil => simp at hm
  | stop hk =>
    rw [List.flatMap_singleton] at hm
    exact (hk.of_delivered hm).2
  | next hk _ ih =>
    rcases List.mem_append.1 (List.flatMap_cons ▸ hm) with hfirst | hrest
    · exact (hk.of_delivered hfirst).2
    · exact ih hrest

end Session

end WebSocket
