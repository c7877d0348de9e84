import Mathlib.Logic.Relation
import WebSocket.Proofs.Hub.Interplay

/-!
# A hub that nobody disturbs

Where no other thread comes between them, the steps of a call come to what `Handle.queue` does, and
those of the loop to what the hub does in one piece.

## Main definitions

* `Hub.Interplay.Proceeds` — the loop at work while nobody else does anything.
* `Hub.Act.turn`, `Hub.Act.budget` — what the loop does, in one piece.

## Main results

* `Hub.Interplay.run_queueing` — **a call that nobody disturbs queues its message.**
* `Hub.Interplay.proceeds_close` — closing a session comes to `Hub.close`.
* `Hub.Interplay.run_act` — **whatever the loop does comes to what the hub does in one piece, if
  nobody disturbs it.**
-/

namespace WebSocket

namespace Hub

namespace Interplay

variable {s t : Interplay}

/-! ### Calls -/

theorem touched_touched {handle handle' : Handle} (h : handle'.id = handle.id) (e : Entry) :
    touched handle' (touched handle e) = touched handle' e := by
  by_cases he : e.session.id = handle.id
  · have hid : handle.id = handle'.id := h.symm
    simp [touched, Session.id, show e.session.handle.id = handle.id from he, hid]
  · simp only [touched, if_neg he]

/-- The handle that was set last counts. -/
theorem setHandle_setHandle (s : Interplay) {handle handle' : Handle} (h : handle'.id = handle.id) :
    (s.setHandle handle).setHandle handle' = s.setHandle handle' := by
  have hentries : ∀ entries : List Entry,
      (entries.map (touched handle)).map (touched handle') = entries.map (touched handle') := by
    intro entries
    rw [List.map_map]
    exact List.map_congr_left fun e _ => touched_touched h e
  have hhub : (s.hub.setHandle handle).setHandle handle' = s.hub.setHandle handle' := by
    show { s.hub with entries := (s.hub.entries.map (touched handle)).map (touched handle'),
                      released := (s.hub.released.map (touched handle)).map (touched handle') } =
      s.hub.setHandle handle'
    rw [hentries, hentries]
    rfl
  have hleaving : (s.leaving.map fun l => { l with entry := touched handle l.entry }).map
      (fun l => { l with entry := touched handle' l.entry }) =
      s.leaving.map fun l : Leaving => { l with entry := touched handle' l.entry } := by
    cases s.leaving with
    | none => rfl
    | some l => exact congrArg (fun entry => some { l with entry }) (touched_touched h l.entry)
  show { s with hub := (s.hub.setHandle handle).setHandle handle', leaving := _ } = _
  rw [hhub]
  exact congrArg (fun leaving => { s.setHandle handle' with leaving }) hleaving

/-- A call does its next step. -/
theorem goOn_eq {place : Nat} {id : ConnectionId} {q : Queueing} {handle : Handle}
    (hplace : s.queueings[place]? = some (id, q)) (hhandle : s.handle? id = some handle) :
    s.goOn place = some ((s.setHandle (q.step handle).1).left place id (q.step handle).2) := by
  unfold goOn
  rw [hplace]
  show (s.handle? id).map _ = _
  rw [hhandle]
  rfl

/-- One call more is in progress, and the handle of its session is in this state. -/
def calling (s : Interplay) (id : ConnectionId) (handle : Handle) (q : Queueing) : Interplay :=
  { s.setHandle handle with queueings := s.queueings ++ [(id, q)] }

/-- That call has come back. -/
def called (s : Interplay) (id : ConnectionId) (handle : Handle)
    (answer : Except SessionError Unit) : Interplay :=
  { s.setHandle handle with answers := s.answers ++ [(id, answer)] }

/-- The last of the calls does its next step. -/
theorem goOn_calling {old handle handle' : Handle} {id : ConnectionId}
    (hold : s.handle? id = some old) (hid : handle.id = id) (hid' : handle'.id = id)
    {q : Queueing} {rest : Queueing.Rest} (hstep : q.step handle = (handle', rest)) :
    (s.calling id handle q).step (.goOn s.queueings.length) =
      some ((s.calling id handle' q).left s.queueings.length id rest) := by
  have hplace : (s.calling id handle q).queueings[s.queueings.length]? = some (id, q) :=
    List.getElem?_concat_length
  have hhandle : (s.calling id handle q).handle? id = some handle := by
    show (s.setHandle handle).handle? id = some handle
    rw [handle?_setHandle, hold, hid]
    simp
  have hlast : (s.calling id handle q).setHandle handle' = s.calling id handle' q :=
    congrArg (fun s' : Interplay => { s' with queueings := s.queueings ++ [(id, q)] })
      (setHandle_setHandle s (hid'.trans hid.symm))
  show (s.calling id handle q).goOn s.queueings.length = _
  rw [goOn_eq hplace hhandle, hstep, hlast]

@[simp] theorem left_goesOn (s : Interplay) (id : ConnectionId) (handle : Handle)
    (q next : Queueing) : (s.calling id handle q).left s.queueings.length id (.goesOn next) =
      s.calling id handle next := by
  simp [left, calling]

@[simp] theorem left_ends (s : Interplay) (id : ConnectionId) (handle : Handle) (q : Queueing)
    (answer : Except SessionError Unit) :
    (s.calling id handle q).left s.queueings.length id (.ends answer) =
      s.called id handle answer := by
  simp [left, calling, called, setHandle, List.eraseIdx_append_of_length_le]

/-- A call that found the session open adds its packet, if there is room. -/
theorem run_pushing {old handle : Handle} {id : ConnectionId} (hold : s.handle? id = some old)
    (hid : handle.id = id) (bytes : Bytes) (kind : MessageKind) :
    ∃ steps, (s.calling id handle (.pushing (.entered bytes kind))).run
        (List.replicate steps (.goOn s.queueings.length)) =
      some (match handle.outbox.push bytes kind with
        | .ok (_, outbox) => s.called id { handle with outbox } (.ok ())
        | .error e => s.called id handle (.error e)) := by
  cases hroom : handle.outbox.admits with
  | false =>
    have hfull : Queueing.step (.pushing (.entered bytes kind)) handle =
        (handle, .ends (.error (.outboxFull handle.outbox.capacity))) := by
      simp [Queueing.step, hroom]
    refine ⟨1, ?_⟩
    rw [List.replicate_succ, run_cons (goOn_calling hold hid hid hfull), left_ends, Outbox.push,
      if_neg (by simp [hroom])]
    rfl
  | true =>
    have hadmitted : Queueing.step (.pushing (.entered bytes kind)) handle =
        (handle, .goesOn (.pushing (.admitted bytes kind))) := by
      simp [Queueing.step, hroom]
    let counted : Handle := { handle with outbox := handle.outbox.count }
    let numbered : Handle := { handle with outbox := handle.outbox.count.takeNumber.2 }
    let p : Packet := ⟨bytes, handle.outbox.count.takeNumber.1, kind⟩
    let added : Handle := { numbered with outbox := numbered.outbox.append p }
    have hcounted : Queueing.step (.pushing (.admitted bytes kind)) handle =
        (counted, .goesOn (.pushing (.counted bytes kind))) := rfl
    have hnumbered : Queueing.step (.pushing (.counted bytes kind)) counted =
        (numbered, .goesOn (.pushing (.numbered p))) := rfl
    have hadded : Queueing.step (.pushing (.numbered p)) numbered = (added, .ends (.ok ())) := rfl
    have hid₁ : counted.id = id := hid
    have hid₂ : numbered.id = id := hid
    have hid₃ : added.id = id := hid
    refine ⟨4, ?_⟩
    rw [List.replicate_succ, run_cons (goOn_calling hold hid hid hadmitted), left_goesOn,
      List.replicate_succ, run_cons (goOn_calling hold hid hid₁ hcounted),
      left_goesOn, List.replicate_succ,
      run_cons (goOn_calling hold hid₁ hid₂ hnumbered),
      left_goesOn, List.replicate_succ,
      run_cons (goOn_calling hold hid₂ hid₃ hadded),
      left_ends, Outbox.push, if_pos hroom]
    rfl

/-- **A call that nobody disturbs queues its message**, or is refused and changes nothing. -/
theorem run_queueing {id : ConnectionId} {handle : Handle} (h : s.handle? id = some handle)
    (m : Message) :
    ∃ steps, s.run (.enter id m :: List.replicate steps (.goOn s.queueings.length)) =
      some (s.called id ((Handle.Use.queue m).apply handle)
        ((handle.queue m).map fun _ => ())) := by
  have hid := id_of_handle? h
  let s₀ : Interplay := { s with queueings := s.queueings ++ [(id, .entered m)] }
  have henter : s.step (.enter id m) = some s₀ := by
    show (s.handle? id).map _ = _
    rw [h]
    rfl
  have hlook : s₀.step (.goOn s.queueings.length) = some ((s.calling id handle (.entered m)).left
      s.queueings.length id (Queueing.step (.entered m) handle).2) :=
    goOn_eq (s := s₀) List.getElem?_concat_length h
  cases hclosed : handle.closed with
  | true =>
    have hrefused : handle.queue m = .error .closed := by
      unfold Handle.queue
      rw [if_pos hclosed]
    simp only [Queueing.step, hclosed, if_true, left_ends] at hlook
    refine ⟨1, ?_⟩
    rw [run_cons henter, List.replicate_succ, run_cons hlook, Handle.Use.apply, hrefused]
    rfl
  | false =>
    have hqueue : handle.queue m = (handle.outbox.push m.encode m.kind).map
        fun added => { handle with outbox := added.2 } := by
      unfold Handle.queue
      rw [if_neg (by simp [hclosed])]
    simp only [Queueing.step, hclosed, Bool.false_eq_true, if_false, left_goesOn] at hlook
    obtain ⟨steps, hsteps⟩ := run_pushing h hid m.encode m.kind
    refine ⟨steps + 1, ?_⟩
    rw [run_cons henter, List.replicate_succ, run_cons hlook, hsteps, Handle.Use.apply, hqueue]
    cases handle.outbox.push m.encode m.kind <;> rfl

/-! ### Closing -/

/-- The loop at work while nobody else does anything. -/
def Proceeds : Interplay → Interplay → Prop :=
  Relation.ReflTransGen fun s t => s.proceed = some t

theorem Proceeds.trans {u : Interplay} (h : s.Proceeds t) (h' : t.Proceeds u) : s.Proceeds u :=
  Relation.ReflTransGen.trans h h'

theorem Proceeds.exists_run (h : s.Proceeds t) :
    ∃ steps, s.run (List.replicate steps .proceed) = some t := by
  induction h using Relation.ReflTransGen.head_induction_on with
  | refl => exact ⟨0, rfl⟩
  | head hfirst _ ih =>
    obtain ⟨steps, hsteps⟩ := ih
    exact ⟨steps + 1, (run_cons (m := .proceed) hfirst _).trans hsteps⟩

/-- Whatever is to be done next is begun. -/
theorem proceeds_perform (hl : s.leaving = none) (task : Task) :
    (s.push [task]).Proceeds (s.perform task) := by
  obtain ⟨ledger, queueings, answers, tasks, leaving, noted⟩ := s
  obtain rfl : leaving = none := hl
  exact .single rfl

/-- A session that is being closed goes on to the next step. -/
theorem proceeds_leave {l : Leaving} {session : Session} {stage : Stage}
    (h : (s.leave l session stage).closeOn (l.next session stage) = t) :
    (s.leave l session stage).Proceeds t :=
  .single (congrArg some h)

/-- Nothing is dropped where nothing waits. -/
theorem clear_of_nil {o : Outbox} (h : o.waiting = []) : o.clear = (0, o) := by
  obtain ⟨latest, pending, peak, nextSeq, capacity⟩ := o
  obtain rfl : latest = [] := List.reverse_eq_nil_iff.1 h
  rfl

/-- What is left to be dropped after the first packet. -/
theorem clear_pop {o : Outbox} {p : Packet} {waiting : List Packet} (h : o.waiting = p :: waiting) :
    (o.keep waiting).complete.clear.1 + 1 = o.clear.1 ∧
      (o.keep waiting).complete.clear.2 = o.clear.2 := by
  have hlength : o.latest.length = waiting.length + 1 := by
    have hsame : o.waiting.length = o.latest.length := List.length_reverse
    rw [← hsame, h]
    rfl
  refine ⟨?_, ?_⟩
  · simp [Outbox.clear, Outbox.complete, Outbox.keep, hlength]
  · simp only [Outbox.clear, Outbox.complete, Outbox.keep, List.length_reverse, hlength]
    rw [Nat.sub_sub, Nat.add_comm 1]

/-- The packets that wait are given up one by one.  The induction is on them. -/
theorem proceeds_discards (s : Interplay) (l : Leaving) (session : Session) (dropped : Nat) :
    (s.leave l session (.discard dropped)).Proceeds
      (s.leave l (session.withOutbox session.handle.outbox.clear.2)
        (.giveUp (dropped + session.handle.outbox.clear.1))) := by
  generalize hwaiting : session.handle.outbox.waiting = waiting
  induction waiting generalizing session dropped with
  | nil =>
    have hpop := Outbox.pop?_of_nil hwaiting
    rw [clear_of_nil hwaiting]
    refine proceeds_leave ?_
    simp only [closeOn, Leaving.next, hpop]
    rfl
  | cons p waiting ih =>
    have hpop := Outbox.pop?_of_cons hwaiting
    let popped := session.withOutbox (session.handle.outbox.keep waiting)
    let forgotten := session.withOutbox (session.handle.outbox.keep waiting).complete
    have htaken : (s.leave l session (.discard dropped)).Proceeds
        (s.leave l popped (.forget dropped)) := by
      refine proceeds_leave ?_
      simp only [closeOn, Leaving.next, hpop]
      rfl
    have hforgotten : (s.leave l popped (.forget dropped)).Proceeds
        (s.leave l forgotten (.discard (dropped + 1))) := proceeds_leave rfl
    have hrest := ih forgotten (dropped + 1) (by simp [forgotten, Session.withOutbox])
    obtain ⟨hnumber, hcleared⟩ := clear_pop hwaiting
    refine (htaken.trans hforgotten).trans ?_
    rw [← hnumber, ← hcleared, ← Nat.add_assoc, Nat.add_right_comm]
    exact hrest

@[simp] theorem did_start (s : Interplay) : s.did (.start s.hub) = s := by
  simp [did, Turn.start]

@[simp] theorem did_did (s : Interplay) (t : Turn) (f : Hub → Turn) :
    (s.did t).did (f t.hub) = s.did (t.andThen f) := by
  simp [did, Turn.andThen]

/-- A session taken out of the hub, to be closed. -/
def removal (e : Entry) (cause : CloseCause) (h : Hub) : Turn :=
  ⟨{ h with entries := h.entries.filter fun f => f.session.id ≠ e.session.id },
    (e.session.farewell cause).map .notice⟩

/-- A session that was taken out given up. -/
def giving (e : Entry) (cause : CloseCause) (h : Hub) : Turn :=
  let tracker := h.tracker.release
  ⟨{ h with released := h.released ++ [{ e with session := e.session.finalize.1 }], tracker },
    e.session.finalize.2 ++
      [.notice (.count (.sessionsClosed cause.reason) 1),
        .notice (.gauge .sessionsActive tracker.active)]⟩

theorem close_eq {h : Hub} {id : ConnectionId} {e : Entry} (hf : h.find? id = some e)
    (cause : CloseCause) : h.close id cause = (removal e cause h).andThen (giving e cause) := by
  rw [close, hf, ← id_of_find? hf]
  simp [removal, giving, Turn.andThen]

/-- What is left of closing a session when nothing waits any more. -/
theorem proceeds_giveUp (s : Interplay) (e : Entry) (cause : CloseCause) (stage : Stage) :
    let session : Session := { e.session with interest := none }
    (s.leave ⟨{ e with session }, cause, stage⟩
        (session.withOutbox session.handle.outbox.clear.2)
        (.giveUp session.handle.outbox.clear.1)).Proceeds
      { s.did (giving e cause s.hub) with leaving := none } := by
  obtain ⟨serial, ⟨handle, socket, inbox, ⟨inFlight⟩, policy, interest⟩⟩ := e
  -- What is given up here is told here; three steps tell the handle and let go of the socket.
  cases inFlight with
  | some inFlight =>
    refine (proceeds_leave rfl).trans ((proceeds_leave rfl).trans ((proceeds_leave rfl).trans
      (proceeds_leave ?_)))
    simp [closeOn, Leaving.next, leave, tell, did, discarded, giving, Session.withOutbox,
      Session.finalize, Writer.abort, Handle.markClosed, Session.id]
  | none =>
    refine (proceeds_leave rfl).trans ((proceeds_leave rfl).trans ((proceeds_leave rfl).trans
      (proceeds_leave ?_)))
    simp [closeOn, Leaving.next, leave, tell, did, discarded, giving, Session.withOutbox,
      Session.finalize, Writer.abort, Handle.markClosed, Session.id, Writer.idle]

/-- **Closing a session comes to `Hub.close`.** -/
theorem proceeds_close (hl : s.leaving = none) (id : ConnectionId) (cause : CloseCause) :
    (s.push [.close id cause]).Proceeds (s.did (s.hub.close id cause)) := by
  have hfirst := proceeds_perform hl (.close id cause)
  cases hf : s.hub.find? id with
  | none =>
    have hnothing : s.hub.close id cause = .start s.hub := by
      unfold Hub.close
      rw [hf]
      rfl
    simp only [perform, hf] at hfirst
    rw [hnothing, did_start]
    exact hfirst
  | some e =>
    simp only [perform, hf] at hfirst
    have hdiscards := proceeds_discards (s.did (removal e cause s.hub))
      ⟨{ e with session := { e.session with interest := none } }, cause, .discard 0⟩
      { e.session with interest := none } 0
    rw [Nat.zero_add] at hdiscards
    have hgiven := proceeds_giveUp (s.did (removal e cause s.hub)) e cause (.discard 0)
    have hend : { (s.did (removal e cause s.hub)).did (giving e cause (removal e cause s.hub).hub)
        with leaving := none } = s.did (s.hub.close id cause) := by
      rw [close_eq hf, did_did]
      show { s.did _ with leaving := none } = _
      rw [← hl]
      rfl
    exact (hfirst.trans hdiscards).trans (hend ▸ hgiven)

/-! ### The work on a session -/

end Interplay

/-- Parts of the work on a session one after the other, up to the first that fails. -/
def Part.all : List Part → Session → Session.Step Unit
  | [], s => ⟨s, [], .ok ()⟩
  | part :: parts, s => (part.step s).andThen fun _ => all parts

/-- The application at work in a part, if there is one. -/
def Part.app? : Part → Option App
  | read app | redrive app => some app
  | write | updateInterest => none

/-- A part of its work leaves a session its number. -/
theorem Part.id_step {part : Part} (hkeeps : ∀ app, part.app? = some app → app.Keeps)
    (s : Session) : (part.step s).session.id = s.id := by
  cases part with
  | read app =>
    obtain ⟨react, hblind, hans⟩ := (hkeeps app rfl).exists_blind s.id
    exact (Session.renames_onReadable (j := s.id) hblind hans rfl).id
  | redrive app =>
    obtain ⟨react, hblind, hans⟩ := (hkeeps app rfl).exists_blind s.id
    exact (Session.renames_redrive (j := s.id) hblind hans rfl).id
  | write => rfl
  | updateInterest =>
    obtain ⟨interest, result, heq⟩ := Session.exists_updateInterest_eq s
    show s.updateInterest.session.id = s.id
    rw [heq]
    rfl

/-- The work on a session whose socket is ready is done in parts. -/
theorem Part.all_onReady (app : App) (readable : Bool) (s : Session) :
    all (onReady app readable) s = s.serve app readable := by
  cases readable with
  | true =>
    show (s.onReadable app).andThen (fun _ s => s.onWritable.andThen fun _ s =>
      s.updateInterest.andThen fun _ s => ⟨s, [], .ok ()⟩) = _
    simp only [Session.Step.andThen_ok]
    exact (Session.Step.andThen_assoc ..).symm
  | false =>
    show s.onWritable.andThen (fun _ s => s.updateInterest.andThen fun _ s => ⟨s, [], .ok ()⟩) = _
    simp only [Session.Step.andThen_ok]
    rfl

/-- So is that on a heartbeat, where nobody asked the session to close. -/
theorem Part.all_beat (app : App) {s : Session} (hopen : s.handle.closeRequested = false) :
    let parts := all [redrive app, write, updateInterest] s
    (s.beat app).session = parts.session ∧ (s.beat app).effects = parts.effects ∧
      (s.beat app).result = parts.result.map fun _ => .alive := by
  intro parts
  have hparts : parts = (s.redrive app).andThen fun _ s => s.onWritable.andThen fun _ s =>
      s.updateInterest.andThen fun _ s => ⟨s, [], .ok ()⟩ := rfl
  simp only [Session.Step.andThen_ok] at hparts
  rw [hparts, Session.beat, Session.onHeartbeat_of_open app hopen]
  cases hdriven : s.redrive app with
  | mk t effects result =>
    cases result with
    | error e => exact ⟨rfl, rfl, rfl⟩
    | ok =>
      cases hsent : t.onWritable with
      | mk u more result =>
        cases result with
        | error e => simp [Session.Step.andThen, hsent, Except.map]
        | ok =>
          cases hupdated : u.updateInterest with
          | mk v last result =>
            cases result <;> simp [Session.Step.andThen, hsent, hupdated, Except.map]

theorem update_update (h : Hub) {id : ConnectionId} {s : Session} (hs : s.id = id) (t : Session) :
    (h.update id s).update id t = h.update id t := by
  unfold update
  simp only [List.map_map]
  congr 1
  refine List.map_congr_left fun e _ => ?_
  by_cases he : e.session.id = id
  · simp [he, hs]
  · simp [he]

namespace Interplay

variable {s : Interplay}

/-- What the parts of the work on a session leave to be done. -/
def worked (s : Interplay) (later : Bool) (id : ConnectionId) (step : Session.Step Unit) :
    Interplay :=
  let s := s.did ⟨s.hub.update id step.session, step.effects⟩
  match step.result with
  | .ok () => s
  | .error cause => if later then s.note id (.failed cause) else s.push [.close id (.failed cause)]

/-- A part that failed is the last. -/
theorem work_of_error (s : Interplay) (later : Bool) (e : Entry) {part : Part}
    {cause : SessionError} (hr : (part.step e.session).result = .error cause) (parts : List Part) :
    s.work later e part parts =
      s.worked later e.session.id (Part.all (part :: parts) e.session) := by
  simp only [work, worked, Part.all, Session.Step.andThen, hr]

/-- After a part that did not fail the others are still to be done. -/
theorem work_of_ok (s : Interplay) (later : Bool) (e : Entry) {part : Part}
    (hr : (part.step e.session).result = .ok ()) (parts : List Part) :
    s.work later e part parts =
      (s.did ⟨s.hub.update e.session.id (part.step e.session).session,
        (part.step e.session).effects⟩).push [.work later e.session.id parts] := by
  simp only [work, hr]

/-- Work that is done after a part that did not fail. -/
theorem worked_of_ok (s : Interplay) (later : Bool) (e : Entry) {part : Part}
    (hid : (part.step e.session).session.id = e.session.id)
    (hr : (part.step e.session).result = .ok ()) (parts : List Part) :
    (s.did ⟨s.hub.update e.session.id (part.step e.session).session,
        (part.step e.session).effects⟩).worked later e.session.id
        (Part.all parts (part.step e.session).session) =
      s.worked later e.session.id (Part.all (part :: parts) e.session) := by
  simp only [worked, Part.all, Session.Step.andThen, hr, did, update_update _ hid,
    List.append_assoc]

/-- Where no part is left the work is done. -/
theorem worked_nil (s : Interplay) (later : Bool) {id : ConnectionId} {t : Session}
    (ht : t.id = id) (effects : List Effect) :
    (s.did ⟨s.hub.update id t, effects⟩).worked later id (Part.all [] t) =
      s.did ⟨s.hub.update id t, effects⟩ := by
  simp only [worked, Part.all, did, update_update _ ht, List.append_nil]

/-- A part of the work is done. -/
theorem proceeds_part (hl : s.leaving = none) (later : Bool) {e : Entry}
    (hf : s.hub.find? e.session.id = some e) (part : Part) (parts : List Part) :
    (s.push [.work later e.session.id (part :: parts)]).Proceeds (s.work later e part parts) := by
  have hfirst := proceeds_perform hl (.work later e.session.id (part :: parts))
  simp only [perform, hf] at hfirst
  exact hfirst

/-- The parts of the work on a session come to all of it in one piece.  The induction is on the
parts. -/
theorem proceeds_work (hl : s.leaving = none) (later : Bool) {e : Entry}
    (hf : s.hub.find? e.session.id = some e) {part : Part} {parts : List Part}
    (hkeeps : ∀ part' ∈ part :: parts, ∀ app, part'.app? = some app → app.Keeps) :
    (s.push [.work later e.session.id (part :: parts)]).Proceeds
      (s.worked later e.session.id (Part.all (part :: parts) e.session)) := by
  induction parts generalizing s e part with
  | nil =>
    have hfirst := proceeds_part hl later hf part []
    have hid := Part.id_step (hkeeps part (List.mem_singleton_self _)) e.session
    cases hr : (part.step e.session).result with
    | error cause => exact work_of_error s later e hr [] ▸ hfirst
    | ok =>
      rw [work_of_ok s later e hr] at hfirst
      rw [← worked_of_ok s later e hid hr, worked_nil s later hid]
      exact hfirst.trans (proceeds_perform (s := s.did _) hl (.work later e.session.id []))
  | cons next parts ih =>
    have hfirst := proceeds_part hl later hf part (next :: parts)
    obtain ⟨hpart, hparts⟩ := List.forall_mem_cons.1 hkeeps
    have hid := Part.id_step hpart e.session
    cases hr : (part.step e.session).result with
    | error cause => exact work_of_error s later e hr (next :: parts) ▸ hfirst
    | ok =>
      rw [work_of_ok s later e hr] at hfirst
      rw [← worked_of_ok s later e hid hr]
      have hfound : (s.hub.update e.session.id (part.step e.session).session).find?
          (part.step e.session).session.id =
            some { e with session := (part.step e.session).session } := by
        rw [hid, find?_update _ hid, if_pos rfl, hf]
        rfl
      have hrest := ih (s := s.did ⟨_, (part.step e.session).effects⟩)
        (e := { e with session := (part.step e.session).session }) hl hfound hparts
      rw [hid] at hrest
      exact hfirst.trans hrest

/-- **Serving a session comes to `Hub.serve`.** -/
theorem proceeds_serve {app : App} (hkeeps : app.Keeps) (readable : Bool) (id : ConnectionId)
    (hl : s.leaving = none) :
    (s.push [.work false id (Part.onReady app readable)]).Proceeds
      (s.did (s.hub.serve app readable id)) := by
  obtain ⟨part, parts, hparts⟩ : ∃ part parts, Part.onReady app readable = part :: parts := by
    cases readable <;> exact ⟨_, _, rfl⟩
  have hkept : ∀ part' ∈ part :: parts, ∀ a, part'.app? = some a → a.Keeps := by
    rw [← hparts]
    cases readable <;> simp [Part.onReady, Part.app?, hkeeps]
  cases hf : s.hub.find? id with
  | none =>
    have hfirst := proceeds_perform hl (.work false id (part :: parts))
    simp only [perform, hf] at hfirst
    have hnothing : s.did ⟨s.hub, []⟩ = s := did_start s
    rw [hparts, serve_of_none hf, hnothing]
    exact hfirst
  | some e =>
    obtain rfl := id_of_find? hf
    have hworked := proceeds_work hl false hf hkept
    rw [← hparts, Part.all_onReady] at hworked
    cases hr : (e.session.serve app readable).result with
    | ok =>
      simp only [worked, hr] at hworked
      rw [serve_of_ok hf hr]
      exact hworked
    | error cause =>
      simp only [worked, hr, Bool.false_eq_true, if_false] at hworked
      rw [serve_of_error hf hr, ← did_did]
      exact hworked.trans (proceeds_close (s := s.did _) hl _ _)

/-- A session that was asked to close sends what it can. -/
theorem beat_of_closeRequested (app : App) {t : Session} (hasked : t.handle.closeRequested = true) :
    t.beat app = t.onHeartbeat app ∧ (t.beat app).closeCause? = some .requested := by
  have hresult : (t.onHeartbeat app).result = .ok .closed := by
    unfold Session.onHeartbeat
    rw [if_pos hasked]
  have hbeat : t.beat app = t.onHeartbeat app := by
    unfold Session.beat
    generalize t.onHeartbeat app = step at hresult
    obtain ⟨u, effects, result⟩ := step
    obtain rfl : result = .ok .closed := hresult
    exact congrArg (Session.Step.mk u · _) (List.append_nil effects)
  rw [hbeat]
  refine ⟨rfl, ?_⟩
  unfold Session.Step.closeCause?
  rw [hresult]

/-- A heartbeat of a session comes to `Hub.beat`. -/
theorem proceeds_beat {app : App} (hkeeps : app.Keeps) (id : ConnectionId)
    (hl : s.leaving = none) :
    (s.push [.beat app id]).Proceeds
      { s.did (s.hub.beat app id).1 with
        noted := s.noted ++ ((s.hub.beat app id).2.map (id, ·)).toList } := by
  have hfirst := proceeds_perform hl (.beat app id)
  cases hf : s.hub.find? id with
  | none =>
    simp only [perform, hf] at hfirst
    simpa [Hub.beat, hf, did] using hfirst
  | some e =>
    obtain rfl := id_of_find? hf
    simp only [perform, hf] at hfirst
    simp only [Hub.beat, hf]
    cases hasked : e.session.handle.closeRequested with
    | true =>
      obtain ⟨hbeat, hcause⟩ := beat_of_closeRequested app hasked
      rw [hcause, hbeat]
      simpa [beat, hasked, note, did] using hfirst
    | false =>
      have hkept : ∀ part ∈ [Part.redrive app, .write, .updateInterest], ∀ a,
          part.app? = some a → a.Keeps := by
        simp [Part.app?, hkeeps]
      have hworked := proceeds_work hl true hf hkept
      obtain ⟨hsession, heffects, hresult⟩ := Part.all_beat app hasked
      simp only [beat, hasked, Bool.false_eq_true, if_false] at hfirst
      rw [hsession, heffects]
      refine Proceeds.trans hfirst ?_
      unfold Session.Step.closeCause?
      rw [hresult]
      unfold worked at hworked
      cases hr : (Part.all [.redrive app, .write, .updateInterest] e.session).result with
      | ok =>
        simp only [hr] at hworked
        simpa [Except.map, did] using hworked
      | error cause =>
        simp only [hr, if_true] at hworked
        simpa [Except.map, note, did] using hworked

/-! ### Whole acts -/

theorem push_append (s : Interplay) (first later : List Task) :
    s.push (first ++ later) = (s.push later).push first := by
  simp [push]

/-- Where the work on one thing comes to a step, so does that on several. -/
theorem proceeds_forEach {α : Type} (task : α → Task) (work : α → Hub → Turn)
    (hwork : ∀ (a : α) (s : Interplay), s.leaving = none →
      (s.push [task a]).Proceeds (s.did (work a s.hub)))
    (items : List α) (hl : s.leaving = none) :
    (s.push (items.map task)).Proceeds (s.did ((Turn.start s.hub).forEach items work)) := by
  induction items generalizing s with
  | nil =>
    rw [Turn.forEach, List.foldl_nil, did_start]
    exact .refl
  | cons a items ih =>
    have hfirst := hwork a (s.push (items.map task)) hl
    have hrest := ih (s := s.did (work a s.hub)) hl
    have hboth : (s.did (work a s.hub)).did ((Turn.start (work a s.hub).hub).forEach items work) =
        s.did ((Turn.start s.hub).forEach (a :: items) work) := by
      show _ = s.did ((work a s.hub).forEach items work)
      rw [Turn.forEach_eq items work (work a s.hub)]
      exact did_did s (work a s.hub) fun h => (Turn.start h).forEach items work
    rw [← hboth]
    exact hfirst.trans hrest

theorem proceeds_beatAll {app : App} (hkeeps : app.Keeps) (ids : List ConnectionId)
    (hl : s.leaving = none) :
    (s.push (ids.map (.beat app))).Proceeds
      { s.did (s.hub.beatAll app ids).1 with
        noted := s.noted ++ (s.hub.beatAll app ids).2 } := by
  induction ids generalizing s with
  | nil =>
    simp only [beatAll, did, List.append_nil]
    exact .refl
  | cons id ids ih =>
    have hfirst := proceeds_beat hkeeps id (s := s.push (ids.map (.beat app))) hl
    have hrest := ih (s := { s.did (s.hub.beat app id).1 with
      noted := s.noted ++ ((s.hub.beat app id).2.map (id, ·)).toList }) hl
    simp only [did, List.append_assoc] at hrest
    exact hfirst.trans hrest

/-- **A heartbeat comes to `Hub.heartbeatIn`.** -/
theorem proceeds_heartbeat {app : App} (hkeeps : app.Keeps) (tour : Tour) (hl : s.leaving = none)
    (hn : s.noted = []) :
    (s.push [.heartbeat app tour]).Proceeds
      (s.did (s.hub.heartbeatIn app (tour.order s.hub.ids))) := by
  obtain ⟨ledger, queueings, answers, tasks, leaving, noted⟩ := s
  obtain rfl : noted = [] := hn
  let s : Interplay := ⟨ledger, queueings, answers, tasks, leaving, []⟩
  let beaten := s.hub.beatAll app (tour.order s.hub.ids)
  have hbegun := proceeds_perform hl (.heartbeat app tour)
  have hbeaten := proceeds_beatAll hkeeps (tour.order s.hub.ids) (s := s.push [.closeNoted]) hl
  have hnoted := proceeds_perform (s := { s.did beaten.1 with noted := beaten.2 }) hl .closeNoted
  have hclosed := proceeds_forEach (fun noted => .close noted.1 noted.2)
    (fun noted => Hub.close noted.1 noted.2) (fun noted s hl => proceeds_close hl noted.1 noted.2)
    beaten.2 (s := s.did beaten.1) hl
  simp only [perform, push_append] at hbegun
  have hend : (s.did beaten.1).did ((Turn.start beaten.1.hub).forEach beaten.2
      fun noted => Hub.close noted.1 noted.2) =
        s.did (s.hub.heartbeatIn app (tour.order s.hub.ids)) :=
    (did_did s beaten.1 fun h => (Turn.start h).forEach beaten.2 _).trans
      (congrArg s.did (Turn.forEach_eq beaten.2 _ beaten.1).symm)
  rw [← hend]
  exact hbegun.trans (hbeaten.trans (hnoted.trans hclosed))

/-- The first of several registrations. -/
theorem registerNew_succ (budget : Nat) {h : Hub} (hw : h.waiting ≠ []) :
    h.registerNew (budget + 1) = h.registerNext.andThen (registerNew budget) := by
  have hrest : h.registerNext.hub.waiting.length = h.waiting.length - 1 := by
    rw [waiting_registerNext, List.length_drop]
  have hpos := List.length_pos_iff.2 hw
  have hmin : min (budget + 1) h.waiting.length =
      min budget h.registerNext.hub.waiting.length + 1 := by omega
  unfold registerNew
  rw [hmin, List.range_succ_eq_map]
  show (h.registerNext).forEach ((List.range _).map Nat.succ) (fun _ => Hub.registerNext) = _
  rw [Turn.forEach_map, Turn.forEach_eq]
  rfl

/-- **Registering comes to `Hub.registerNew`.** -/
theorem proceeds_register (budget : Nat) (hl : s.leaving = none) :
    (s.push [.register budget]).Proceeds
      { s.did (s.hub.registerNew budget) with
        taken := s.taken ++ s.hub.waiting.take budget } := by
  induction budget generalizing s with
  | zero =>
    have hnothing : s.hub.registerNew 0 = .start s.hub := by
      unfold registerNew
      rw [Nat.zero_min]
      rfl
    rw [hnothing, did_start, List.take_zero, List.append_nil]
    exact proceeds_perform hl (.register 0)
  | succ budget ih =>
    have hfirst := proceeds_perform hl (.register (budget + 1))
    simp only [perform] at hfirst
    by_cases hw : s.hub.waiting = []
    · have hnothing : s.hub.registerNew (budget + 1) = .start s.hub := by
        unfold registerNew
        rw [hw]
        rfl
      rw [hnothing, did_start, hw, List.take_nil, List.append_nil]
      simpa [hw] using hfirst
    · rw [if_neg (by simpa using hw)] at hfirst
      have hrest := ih (s := s.registerNext) hl
      have hend : { (s.registerNext).did (s.registerNext.hub.registerNew budget) with
          taken := s.registerNext.taken ++ s.registerNext.hub.waiting.take budget } =
          { s.did (s.hub.registerNew (budget + 1)) with
            taken := s.taken ++ s.hub.waiting.take (budget + 1) } := by
        rw [registerNew_succ budget hw, Nat.add_comm budget 1, List.take_add,
          ← waiting_registerNext, ← List.append_assoc, ← did_did]
        rfl
      rw [← hend]
      exact hfirst.trans hrest

theorem proceeds_drain (closed dropped : Nat) (hl : s.leaving = none) :
    (s.push [.drain closed dropped]).Proceeds
      (s.did ⟨(s.hub.dropWaiting closed).hub,
        [.notice (.log (.hubStopped closed (dropped + s.hub.waiting.length)))]⟩) := by
  obtain ⟨⟨⟨settings, waiting, entries, ready, tracker, released, gone⟩, effects, taken⟩,
    queueings, answers, tasks, leaving, noted⟩ := s
  induction waiting generalizing gone dropped with
  | nil =>
    simp only [dropWaiting, List.map_nil, List.append_nil]
    exact proceeds_perform hl (.drain closed dropped)
  | cons c waiting ih =>
    have hfirst := proceeds_perform hl (.drain closed dropped) (s := ⟨⟨⟨settings, c :: waiting,
      entries, ready, tracker, released, gone⟩, effects, taken⟩, queueings, answers, tasks, leaving,
      noted⟩)
    have hrest := ih (dropped + 1) (gone ++ [{ c with socket := c.socket.hangUp }]) hl
    have hlength : dropped + 1 + waiting.length = dropped + (c :: waiting).length := by
      rw [List.length_cons, Nat.add_assoc, Nat.add_comm 1]
    simp only [dropWaiting, List.append_assoc] at hrest
    rw [hlength] at hrest
    exact hfirst.trans hrest

/-- **The end of the loop comes to `Hub.stopIn`.** -/
theorem proceeds_stop (tour : Tour) (hl : s.leaving = none) :
    (s.push [.stop tour]).Proceeds (s.did (s.hub.stopIn (tour.order s.hub.ids))) := by
  have hbegun := proceeds_perform hl (.stop tour)
  have hclosed := proceeds_forEach (.close · .shutdown) (Hub.close · .shutdown)
    (fun id s hl => proceeds_close hl id .shutdown)
    (tour.order s.hub.ids) (s := s.push [.drain (tour.order s.hub.ids).length 0]) hl
  have hdrained := proceeds_drain (tour.order s.hub.ids).length 0
    (s := s.did ((Turn.start s.hub).forEach (tour.order s.hub.ids) fun id => close id .shutdown)) hl
  simp only [perform, push_append] at hbegun
  rw [Nat.zero_add] at hdrained
  have hend : (s.did ((Turn.start s.hub).forEach (tour.order s.hub.ids)
      fun id => close id .shutdown)).did (dropWaiting (tour.order s.hub.ids).length _) =
        s.did (s.hub.stopIn (tour.order s.hub.ids)) := did_did s _ _
  rw [← hend]
  exact hbegun.trans (hclosed.trans hdrained)

end Interplay

namespace Act

/-- What the loop does, in one piece. -/
def turn : Act → Hub → Turn
  | register budget, h => h.registerNew budget
  | serve app readable id, h => h.serve app readable id
  | heartbeat app tour, h => h.heartbeatIn app (tour.order h.ids)
  | close id cause, h => h.close id cause
  | iterate app registrations due, h =>
    let served := (h.registerNew registrations).andThen (serveReady app)
    match due with
    | none => served
    | some tour => served.andThen fun h => h.heartbeatIn app (tour.order h.ids)
  | stop tour, h => h.stopIn (tour.order h.ids)

/-- How many connections are registered at most. -/
def budget : Act → Nat
  | register budget | iterate _ budget _ => budget
  | serve .. | heartbeat .. | close .. | stop _ => 0

/-- A turn of the loop is `Hub.iterate`, if it visits the sessions in the order of registration. -/
theorem turn_iterate (app : App) (registrations : Nat) (due : Bool) (h : Hub) :
    (iterate app registrations (if due then some .registered else none)).turn h =
      h.iterate app registrations due := by
  cases due <;> rfl

end Act

namespace Interplay

variable {s : Interplay}

/-- What became ready served, as `Hub.serveReady` does it. -/
theorem proceeds_serveReady {app : App} (hkeeps : app.Keeps) (hl : s.leaving = none) :
    (s.push [.serveReady app]).Proceeds (s.did (serveReady app s.hub)) := by
  have hbegun := proceeds_perform hl (.serveReady app)
  have hserved := proceeds_forEach (fun id => .work false id (Part.onReady app true))
    (serve app true) (fun id s hl => proceeds_serve hkeeps true id hl) s.hub.ready
    (s := { s with hub := s.hub.seen }) hl
  exact hbegun.trans hserved

/-- A turn of the loop. -/
theorem proceeds_iterate {app : App} (hkeeps : app.Keeps) (registrations : Nat) (due : Option Tour)
    (hl : s.leaving = none) (hn : s.noted = []) :
    (s.push (Act.iterate app registrations due).tasks).Proceeds
      { s.did ((Act.iterate app registrations due).turn s.hub) with
        taken := s.taken ++ s.hub.waiting.take registrations } := by
  let beats := (due.map (Task.heartbeat app)).toList
  let registered : Interplay := { s.did (s.hub.registerNew registrations) with
    taken := s.taken ++ s.hub.waiting.take registrations }
  have hregistered := proceeds_register registrations (s := s.push (.serveReady app :: beats)) hl
  have hserved := proceeds_serveReady hkeeps (s := registered.push beats) hl
  have hboth : registered.did (serveReady app registered.hub) =
      { s.did ((s.hub.registerNew registrations).andThen (serveReady app)) with
        taken := s.taken ++ s.hub.waiting.take registrations } := by
    rw [← did_did]
    rfl
  refine (hregistered.trans hserved).trans ?_
  cases due with
  | none => exact hboth ▸ Relation.ReflTransGen.refl
  | some tour =>
    have hbeaten := proceeds_heartbeat hkeeps tour
      (s := registered.did (serveReady app registered.hub)) hl hn
    have hend : (registered.did (serveReady app registered.hub)).did
        ((serveReady app registered.hub).hub.heartbeatIn app
          (tour.order (serveReady app registered.hub).hub.ids)) =
        { s.did ((Act.iterate app registrations (some tour)).turn s.hub) with
          taken := s.taken ++ s.hub.waiting.take registrations } := by
      rw [hboth]
      simp only [Act.turn, ← did_did]
      rfl
    rw [← hend]
    exact hbeaten

/-- **Whatever the loop does comes to what the hub does in one piece, if nobody disturbs it.** -/
theorem run_act (a : Act) (hkeeps : ∀ app, a.app? = some app → app.Keeps) (hs : s.AtRest)
    (hn : s.noted = []) :
    ∃ steps, s.run (.begin a :: List.replicate steps .proceed) =
      some { s.did (a.turn s.hub) with taken := s.taken ++ s.hub.waiting.take a.budget } := by
  obtain ⟨ht, hl⟩ := hs
  have hbegin : s.step (.begin a) = some (s.push a.tasks) := by
    unfold step begin push
    rw [hl, ht, List.append_nil]
  have hnone : s.taken ++ s.hub.waiting.take 0 = s.taken := by
    rw [List.take_zero, List.append_nil]
  have hproceeds : (s.push a.tasks).Proceeds
      { s.did (a.turn s.hub) with taken := s.taken ++ s.hub.waiting.take a.budget } := by
    cases a with
    | register budget => exact proceeds_register budget hl
    | serve app readable id =>
      simp only [Act.budget, hnone]
      exact proceeds_serve (hkeeps app rfl) readable id hl
    | heartbeat app tour =>
      simp only [Act.budget, hnone]
      exact proceeds_heartbeat (hkeeps app rfl) tour hl hn
    | close id cause =>
      simp only [Act.budget, hnone]
      exact proceeds_close hl id cause
    | iterate app registrations due =>
      exact proceeds_iterate (hkeeps app rfl) registrations due hl hn
    | stop tour =>
      simp only [Act.budget, hnone]
      exact proceeds_stop tour hl
  obtain ⟨steps, hsteps⟩ := hproceeds.exists_run
  exact ⟨steps, (run_cons hbegin _).trans hsteps⟩

end Interplay

end Hub

end WebSocket
