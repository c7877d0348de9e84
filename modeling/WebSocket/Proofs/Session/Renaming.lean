import WebSocket.Proofs.Session.Calls
import WebSocket.Session.Service

/-!
# A session under another number

The number of a session stands in what the session tells, and nowhere else: whoever gives a session
another number finds the same work done, up to the number.  What the application does must not
depend on the number either.

The work on received units is a loop that knows nothing of what the units are handed to, so first of
all, two such loops go side by side as long as their handlers do.

## Main definitions

* `Handle.withId`, `Session.withId` — the same under another number.
* `Effect.handed` — the messages that were handed to the application.
* `App.Blind`, `App.Answers` — an application that does not look at numbers, and one that does what
  another does for one session.
* `Session.Step.Renames` — two steps that differ in the number only.

## Main results

* `Inbox.receiveFrom_simulates`, `Inbox.drain_simulates` — handlers that go side by side.
* `Session.renames_serve`, `Session.renames_beat` — **the work of a session does not depend on its
  number.**
-/

namespace WebSocket

/-! ### Handlers side by side -/

/-- Two functions that do the same to related states, as far as the relation tells. -/
def Simulates {σ τ β ε : Type} (R : σ → τ → Prop) (f : σ → β → σ × Option ε)
    (g : τ → β → τ × Option ε) : Prop :=
  ∀ s t b, R s t → R (f s b).1 (g t b).1 ∧ (f s b).2 = (g t b).2

/-- Duties done side by side. -/
theorem perform_simulates {σ τ ε : Type} {R : σ → τ → Prop} {f : σ → Duty → σ × Option ε}
    {g : τ → Duty → τ × Option ε} (hfg : Simulates R f g) (duties : List Duty) {s : σ} {t : τ}
    (hst : R s t) : R (perform f s duties).1 (perform g t duties).1 ∧
      (perform f s duties).2 = (perform g t duties).2 := by
  induction duties generalizing s t with
  | nil => exact ⟨hst, rfl⟩
  | cons duty rest ih =>
    obtain ⟨hstate, herror⟩ := hfg s t duty hst
    simp only [perform]
    generalize f s duty = a at hstate herror ⊢
    generalize g t duty = b at hstate herror ⊢
    obtain ⟨s', err⟩ := a
    obtain ⟨t', err'⟩ := b
    obtain rfl : err = err' := herror
    cases err with
    | none => exact ih hstate
    | some e => exact ⟨hstate, rfl⟩

namespace Inbox

variable {σ τ α : Type} {R : σ → τ → Prop} {p : Policy}
  {f : σ → Bytes → σ × Option SessionError} {g : τ → Bytes → τ × Option SessionError}

theorem handOver_error {e : ProtocolError} {rest : Bytes} (h : p.boundary rest = .error e)
    (used : Nat) (s : σ) : handOver p f rest used s = ⟨used, s, .error (.protocol e)⟩ := by
  rw [handOver]
  split <;> simp_all

theorem handOver_incomplete {rest : Bytes} (h : p.boundary rest = .ok .incomplete)
    (used : Nat) (s : σ) : handOver p f rest used s = ⟨used, s, .ok ()⟩ := by
  rw [handOver]
  split <;> simp_all

theorem handOver_complete {n : Nat} {rest : Bytes} (h : p.boundary rest = .ok (.complete n))
    (used : Nat) (s : σ) :
    handOver p f rest used s =
      match f s (rest.take n) with
      | (s, some e) => ⟨used, s, .error e⟩
      | (s, none) => handOver p f (rest.drop n) (used + n) s := by
  rw [handOver]
  split
  · next he => simp [h] at he
  · next hi => simp [h] at hi
  · next m hm =>
    obtain rfl : n = m := by simpa [h] using hm
    rfl

/-- Passes that come to the same, as far as the relation tells. -/
structure Pass.Simulates (R : σ → τ → Prop) (a : Pass σ α) (b : Pass τ α) : Prop where
  inbox : b.inbox = a.inbox
  result : b.result = a.result
  state : R a.state b.state

/-- Units handed over side by side.  The induction is on the bytes. -/
theorem handOver_simulates (hfg : Simulates R f g) (rest : Bytes) (used : Nat) {s : σ} {t : τ}
    (hst : R s t) :
    (handOver p g rest used t).used = (handOver p f rest used s).used ∧
      (handOver p g rest used t).result = (handOver p f rest used s).result ∧
      R (handOver p f rest used s).state (handOver p g rest used t).state := by
  fun_induction handOver p f rest used s generalizing t with
  | case1 rest used s e he => rw [handOver_error he]; exact ⟨rfl, rfl, hst⟩
  | case2 rest used s hi => rw [handOver_incomplete hi]; exact ⟨rfl, rfl, hst⟩
  | case3 rest used s n hn s' e hs =>
    obtain ⟨hstate, herror⟩ := hfg s t (rest.take n) hst
    rw [handOver_complete hn]
    rw [hs] at hstate herror
    generalize g t (rest.take n) = r at hstate herror ⊢
    obtain ⟨t', err⟩ := r
    obtain rfl : some e = err := herror
    exact ⟨rfl, rfl, hstate⟩
  | case4 rest used s n hn s' hs ih =>
    obtain ⟨hstate, herror⟩ := hfg s t (rest.take n) hst
    rw [handOver_complete hn]
    rw [hs] at hstate herror
    generalize g t (rest.take n) = r at hstate herror ⊢
    obtain ⟨t', err⟩ := r
    obtain rfl : none = err := herror
    exact ih hstate

theorem drain_simulates (hfg : Simulates R f g) (i : Inbox) {s : σ} {t : τ} (hst : R s t) :
    (drain p f i s).Simulates R (drain p g i t) := by
  obtain ⟨hused, hresult, hstate⟩ := handOver_simulates (p := p) hfg i.buffer.contents 0 hst
  exact ⟨congrArg i.release hused, hresult, hstate⟩

theorem reception_full {i : Inbox} (h : i.makeRoom? = none) (source : Source) (s : σ)
    (total : Nat) :
    reception p f i source s total =
      ⟨⟨i, s, .error (.bufferFull i.buffer.ceiling)⟩, source, []⟩ := by
  rw [reception]
  simp only [h]

theorem reception_read {i j : Inbox} (h : i.makeRoom? = some j) (source : Source) (s : σ)
    (total : Nat) :
    reception p f i source s total =
      match source.read j.buffer.room with
      | (.blocked, source) => ⟨⟨j, s, .ok total⟩, source, [⟨j.buffer.room, .blocked⟩]⟩
      | (.failed detail, source) =>
        ⟨⟨j, s, .error (.io detail)⟩, source, [⟨j.buffer.room, .failed detail⟩]⟩
      | (.interrupted, source) =>
        .behind ⟨j.buffer.room, .interrupted⟩ (reception p f j source s total)
      | (.bytes [], source) => ⟨⟨j, s, .error .peerClosed⟩, source, [⟨j.buffer.room, .bytes []⟩]⟩
      | (.bytes (b :: chunk), source) =>
        match drain p f (j.take (b :: chunk)) s with
        | ⟨k, s, .error e⟩ =>
          ⟨⟨k, s, .error e⟩, source, [⟨j.buffer.room, .bytes (b :: chunk)⟩]⟩
        | ⟨k, s, .ok ()⟩ =>
          .behind ⟨j.buffer.room, .bytes (b :: chunk)⟩
            (reception p f k source s (total + (b :: chunk).length)) := by
  rw [reception]
  simp only [h]
  split <;> split <;> simp_all

/-- Reading side by side.  The induction is on the reads. -/
theorem receiveFrom_simulates (hfg : Simulates R f g) (i : Inbox) (source : Source) {s : σ} {t : τ}
    (hst : R s t) (total : Nat) :
    (receiveFrom p f i source s total).1.Simulates R (receiveFrom p g i source t total).1 ∧
      (receiveFrom p g i source t total).2 = (receiveFrom p f i source s total).2 := by
  unfold receiveFrom
  fun_induction reception p f i source s total generalizing t with
  | case1 i source s total hnone =>
    rw [reception_full hnone]
    exact ⟨⟨rfl, rfl, hst⟩, rfl⟩
  | case2 i source s total j hj source' hread =>
    rw [reception_read hj, hread]
    exact ⟨⟨rfl, rfl, hst⟩, rfl⟩
  | case3 i source s total j hj detail source' hread =>
    rw [reception_read hj, hread]
    exact ⟨⟨rfl, rfl, hst⟩, rfl⟩
  | case4 i source s total j hj source' hread ih =>
    rw [reception_read hj, hread]
    exact ih hst
  | case5 i source s total j hj source' hread =>
    rw [reception_read hj, hread]
    exact ⟨⟨rfl, rfl, hst⟩, rfl⟩
  | case6 i source s total j hj b chunk source' hread k state e hdrain =>
    rw [reception_read hj, hread]
    obtain ⟨hinbox, hresult, hstate⟩ := drain_simulates (p := p) hfg (j.take (b :: chunk)) hst
    rw [hdrain] at hinbox hresult hstate
    dsimp only
    generalize drain p g (j.take (b :: chunk)) t = pass at hinbox hresult hstate ⊢
    obtain ⟨k', state', result'⟩ := pass
    obtain rfl : k' = k := hinbox
    obtain rfl : result' = .error e := hresult
    exact ⟨⟨rfl, rfl, hstate⟩, rfl⟩
  | case7 i source s total j hj b chunk source' hread k state hdrain ih =>
    rw [reception_read hj, hread]
    obtain ⟨hinbox, hresult, hstate⟩ := drain_simulates (p := p) hfg (j.take (b :: chunk)) hst
    rw [hdrain] at hinbox hresult hstate
    dsimp only
    generalize drain p g (j.take (b :: chunk)) t = pass at hinbox hresult hstate ⊢
    obtain ⟨k', state', result'⟩ := pass
    obtain rfl : k' = k := hinbox
    obtain rfl : result' = .ok () := hresult
    exact ih hstate

end Inbox

/-! ### The same under another number -/

namespace Handle

/-- The handle under another number. -/
def withId (h : Handle) (j : ConnectionId) : Handle := { h with id := j }

@[simp] theorem id_withId (h : Handle) (j : ConnectionId) : (h.withId j).id = j := rfl

@[simp] theorem withId_withId (h : Handle) (i j : ConnectionId) :
    (h.withId i).withId j = h.withId j := rfl

theorem withId_id (h : Handle) : h.withId h.id = h := rfl

theorem queue_withId (h : Handle) (j : ConnectionId) (m : Message) :
    (h.withId j).queue m = (h.queue m).map (·.withId j) := by
  unfold queue
  show (if h.closed then _ else _) = _
  split
  · rfl
  · show (h.outbox.push m.encode m.kind).map _ = _
    cases h.outbox.push m.encode m.kind <;> rfl

/-- Queueing a message leaves the number. -/
theorem id_of_queue {h h' : Handle} {m : Message} (hq : h.queue m = .ok h') : h'.id = h.id := by
  unfold queue at hq
  split at hq
  · simp at hq
  · cases hpush : h.outbox.push m.encode m.kind with
    | error e => simp [hpush, Except.map] at hq
    | ok r =>
      obtain rfl : { h with outbox := r.2 } = h' := by simpa [hpush, Except.map] using hq
      rfl

end Handle

/-- An application that does not look at the number of a session. -/
structure App.Blind (react : App) : Prop where
  handle (h : Handle) (m : Message) (j : ConnectionId) :
    (react (h.withId j) m).handle = (react h m).handle.withId j
  panic (h : Handle) (m : Message) (j : ConnectionId) :
    (react (h.withId j) m).panic = (react h m).panic

/-- An application that does to the messages of session `i` what another does, though it may tell
other things. -/
structure App.Answers (app : App) (i : ConnectionId) (react : App) : Prop where
  handle (h : Handle) (m : Message) : h.id = i → (app h m).handle = (react h m).handle
  panic (h : Handle) (m : Message) : h.id = i → (app h m).panic = (react h m).panic

/-- A blind application leaves numbers as they are. -/
theorem App.Blind.id_eq {react : App} (h : react.Blind) (handle : Handle) (m : Message) :
    (react handle m).handle.id = handle.id := by
  have hsame := h.handle handle m handle.id
  rw [Handle.withId_id] at hsame
  rw [hsame]
  rfl

/-- An application that leaves the numbers of sessions as they are. -/
def App.Keeps (app : App) : Prop := ∀ h m, (app h m).handle.id = h.id

/-- For one session, an application that leaves numbers as they are does what a blind one does. -/
theorem App.Keeps.exists_blind {app : App} (hkeeps : app.Keeps) (i : ConnectionId) :
    ∃ react : App, react.Blind ∧ app.Answers i react := by
  -- Whatever session comes, the application is shown number `i`.
  refine ⟨fun h m => { app (h.withId i) m with handle := (app (h.withId i) m).handle.withId h.id },
    ⟨fun _ _ _ => rfl, fun _ _ _ => rfl⟩, ⟨fun h m hid => ?_, fun h m hid => ?_⟩⟩
  · subst hid
    have hsame := Handle.withId_id (app h m).handle
    rw [hkeeps h m] at hsame
    exact hsame.symm
  · subst hid
    rfl

namespace Effect

/-- The messages that were handed to the application, with the sessions they came from and whether
the application panicked over them. -/
def handed (effects : List Effect) : List (ConnectionId × Message × Bool) :=
  effects.filterMap fun
    | .notice _ => none
    | .delivered id m panicked => some (id, m, panicked)

@[simp] theorem handed_append (effects more : List Effect) :
    handed (effects ++ more) = handed effects ++ handed more :=
  List.filterMap_append

@[simp] theorem handed_notices (notices : List Notice) : handed (notices.map .notice) = [] := by
  simp [handed]

/-- The same messages were handed over, here of session `i` and there of session `j`. -/
def Renames (i j : ConnectionId) (effects effects' : List Effect) : Prop :=
  ∃ ms : List (Message × Bool), handed effects = ms.map (Prod.mk i) ∧
    handed effects' = ms.map (Prod.mk j)

variable {i j : ConnectionId} {effects effects' more more' : List Effect}

theorem Renames.append (h : Renames i j effects effects') (h' : Renames i j more more') :
    Renames i j (effects ++ more) (effects' ++ more') := by
  obtain ⟨ms, h₁, h₂⟩ := h
  obtain ⟨ms', h₃, h₄⟩ := h'
  refine ⟨ms ++ ms', ?_, ?_⟩
  · rw [handed_append, h₁, h₃, List.map_append]
  · rw [handed_append, h₂, h₄, List.map_append]

theorem renames_of_handed_nil (h : handed effects = []) (h' : handed effects' = []) :
    Renames i j effects effects' :=
  ⟨[], h, h'⟩

theorem renames_notices (notices notices' : List Notice) :
    Renames i j (notices.map .notice) (notices'.map .notice) :=
  renames_of_handed_nil (handed_notices _) (handed_notices _)

theorem renames_delivered (i j : ConnectionId) (m : Message) (panicked : Bool) :
    Renames i j [.delivered i m panicked] [.delivered j m panicked] :=
  ⟨[(m, panicked)], rfl, rfl⟩

end Effect

namespace Writer

/-- Flushing under another number tells other things and does the same. -/
theorem exists_flushFrom (i j : ConnectionId) (o : Outbox) (sink : Sink) (p : Packet)
    (offset total : Nat) (waiting : List Packet) :
    ∃ notices, flushFrom j o sink p offset total waiting =
      { flushFrom i o sink p offset total waiting with notices } := by
  fun_induction flushFrom i o sink p offset total waiting with
  | case1 o sink p offset total waiting reached sink' hwrite => exact ⟨_, by rw [flushFrom, hwrite]⟩
  | case2 o sink p offset total waiting e sink' hwrite => exact ⟨_, by rw [flushFrom, hwrite]⟩
  | case3 o sink p offset total sink' hwrite => exact ⟨_, by rw [flushFrom, hwrite]⟩
  | case4 o sink p offset total sink' hwrite total' next waiting pass ih =>
    obtain ⟨notices, hrest⟩ := ih
    have hlater : flushFrom j o.complete sink' next 0 (total + (p.bytes.length - offset)) waiting =
        _ := hrest
    refine ⟨written j p ++ notices, ?_⟩
    rw [flushFrom, hwrite]
    simp only [hlater]
    rfl

theorem exists_flush (i j : ConnectionId) (w : Writer) (o : Outbox) (sink : Sink) :
    ∃ notices, w.flush j o sink = { w.flush i o sink with notices } := by
  unfold flush
  split
  · exact exists_flushFrom ..
  · exact exists_flushFrom ..
  · exact ⟨[], rfl⟩

theorem exists_abort (i j : ConnectionId) (w : Writer) (o : Outbox) (sink : Sink) :
    ∃ notices, w.abort j o sink = { w.abort i o sink with notices } := by
  obtain ⟨inFlight⟩ := w
  cases inFlight with
  | none => exact ⟨[], rfl⟩
  | some current => exact ⟨failed j current.1, rfl⟩

end Writer

namespace Session

/-! ### One unit -/

/-- Work on one session under two numbers. -/
structure Work.Renames (i j : ConnectionId) (w v : Work) : Prop where
  id : w.handle.id = i
  handle : v.handle = w.handle.withId j
  effects : Effect.Renames i j w.effects v.effects

variable {i j : ConnectionId} {app react : App}

theorem Work.renames_start {h : Handle} (hid : h.id = i) :
    (Work.start h).Renames i j (.start (h.withId j)) :=
  ⟨hid, rfl, Effect.renames_of_handed_nil rfl rfl⟩

theorem Work.Renames.tell {w v : Work} (h : w.Renames i j v) (notices notices' : List Notice) :
    (w.tell notices).Renames i j (v.tell notices') := by
  refine ⟨h.id, h.handle, ?_⟩
  rw [Work.effects_tell, Work.effects_tell]
  exact h.effects.append (Effect.renames_notices ..)

theorem Work.act_simulates : Simulates (Work.Renames i j) Work.act Work.act := by
  intro w v duty h
  cases duty with
  | bindForwarded address =>
    have hbound : (Work.mk { w.handle with forwarded := some address } w.recent).Renames i j
        ⟨{ v.handle with forwarded := some address }, v.recent⟩ :=
      ⟨h.id, by rw [h.handle]; rfl, h.effects⟩
    exact ⟨hbound.tell _ _, rfl⟩
  | reply m =>
    have hqueue := Handle.queue_withId w.handle j m
    rw [← h.handle] at hqueue
    simp only [Work.act, hqueue]
    cases hq : w.handle.queue m with
    | error e => exact ⟨h, rfl⟩
    | ok handle => exact ⟨⟨(Handle.id_of_queue hq).trans h.id, rfl, h.effects⟩, rfl⟩

theorem Work.handOver_simulates (hblind : react.Blind) (hans : app.Answers i react) :
    Simulates (Work.Renames i j) (Work.handOver app) (Work.handOver react) := by
  intro w v m h
  have hpanic : (app w.handle m).panic = (react v.handle m).panic := by
    rw [h.handle, hblind.panic, hans.panic _ _ h.id]
  have hhandle : (react v.handle m).handle = (app w.handle m).handle.withId j := by
    rw [h.handle, hblind.handle, hans.handle _ _ h.id]
  have hid : (app w.handle m).handle.id = i := by
    rw [hans.handle _ _ h.id, hblind.id_eq, h.id]
  have hfirst : (Work.mk (app w.handle m).handle
      (.delivered w.handle.id m (app w.handle m).panic.isSome :: w.recent)).Renames i j
      ⟨(react v.handle m).handle,
        .delivered v.handle.id m (react v.handle m).panic.isSome :: v.recent⟩ := by
    refine ⟨hid, hhandle, ?_⟩
    simp only [Work.effects, List.reverse_cons]
    refine h.effects.append ?_
    have hv : v.handle.id = j := by rw [h.handle]; rfl
    rw [h.id, hv, ← hpanic]
    exact Effect.renames_delivered ..
  exact ⟨hfirst.tell _ _, by simp only [Work.handOver, hpanic]⟩

/-- A unit is handled in the same way under another number. -/
theorem handleUnit_simulates (p : Policy) (hblind : react.Blind) (hans : app.Answers i react) :
    Simulates (Work.Renames i j) (handleUnit p app) (handleUnit p react) := by
  intro w v unit h
  unfold handleUnit
  cases p.decode unit with
  | error e => exact ⟨h, rfl⟩
  | ok m =>
    have htold := h.tell
      [.count (.messagesReceived m.kind) 1, .log (.messageReceived w.handle.id m.summary)]
      [.count (.messagesReceived m.kind) 1, .log (.messageReceived v.handle.id m.summary)]
    obtain ⟨hwork, herror⟩ := perform_simulates Work.act_simulates (p.duties m) htold
    simp only
    generalize perform Work.act _ (p.duties m) = a at hwork herror ⊢
    generalize perform Work.act _ (p.duties m) = b at hwork herror ⊢
    obtain ⟨w', err⟩ := a
    obtain ⟨v', err'⟩ := b
    obtain rfl : err = err' := herror
    cases err with
    | some e => exact ⟨hwork, rfl⟩
    | none =>
      cases m.isControl with
      | true => exact ⟨hwork, rfl⟩
      | false => exact Work.handOver_simulates hblind hans w' v' m hwork

/-! ### The work of a session -/

/-- The session under another number. -/
def withId (s : Session) (j : ConnectionId) : Session := { s with handle := s.handle.withId j }

@[simp] theorem id_withId (s : Session) (j : ConnectionId) : (s.withId j).id = j := rfl

@[simp] theorem withId_withId (s : Session) (i j : ConnectionId) :
    (s.withId i).withId j = s.withId j := rfl

theorem withId_id (s : Session) : s.withId s.id = s := rfl

/-- Two steps of one session under two numbers. -/
structure Step.Renames {α : Type} (i j : ConnectionId) (a b : Step α) : Prop where
  id : a.session.id = i
  session : b.session = a.session.withId j
  effects : Effect.Renames i j a.effects b.effects
  result : b.result = a.result

theorem Step.Renames.andThen {α β : Type} {a b : Step α} {f g : α → Session → Step β}
    (h : a.Renames i j b) (hfg : ∀ x s, s.id = i → (f x s).Renames i j (g x (s.withId j))) :
    (a.andThen f).Renames i j (b.andThen g) := by
  obtain ⟨s, effects, result⟩ := a
  obtain ⟨t, effects', result'⟩ := b
  obtain ⟨hid, hsession, heffects, hresult⟩ := h
  obtain rfl : t = s.withId j := hsession
  obtain rfl : result' = result := hresult
  cases result' with
  | error e => exact ⟨hid, rfl, heffects, rfl⟩
  | ok x =>
    have hnext := hfg x s hid
    exact ⟨hnext.id, hnext.session, heffects.append hnext.effects, hnext.result⟩

variable {s : Session}

theorem renames_onReadable (hblind : react.Blind) (hans : app.Answers i react) (hid : s.id = i) :
    (s.onReadable app).Renames i j ((s.withId j).onReadable react) := by
  obtain ⟨⟨hinbox, hresult, hstate⟩, hsource⟩ := Inbox.receiveFrom_simulates (p := s.policy)
    (handleUnit_simulates s.policy hblind hans) s.inbox s.socket.incoming
    (Work.renames_start (j := j) hid) 0
  obtain ⟨notices, heq⟩ := onReadable_eq app s
  obtain ⟨notices', heq'⟩ := onReadable_eq react (s.withId j)
  rw [heq, heq']
  refine ⟨hstate.id, ?_, ?_, congrArg (Except.map fun _ => ()) hresult⟩
  · show Session.mk _ _ _ _ _ _ = Session.mk _ _ _ _ _ _
    congr 1
    · exact hstate.handle
    · exact congrArg (fun incoming => { s.socket with incoming }) hsource
  · exact hstate.effects.append (Effect.renames_notices ..)

theorem renames_onWritable (hid : s.id = i) :
    s.onWritable.Renames i j (s.withId j).onWritable := by
  obtain ⟨notices, hflush⟩ :=
    s.writer.exists_flush s.id j s.handle.outbox s.socket.outgoing
  have hother : (s.withId j).onWritable =
      ⟨s.onWritable.session.withId j, notices.map .notice, s.onWritable.result⟩ := by
    have hflush' : (s.withId j).writer.flush (s.withId j).id (s.withId j).handle.outbox
        (s.withId j).socket.outgoing = _ := hflush
    unfold onWritable
    rw [hflush']
    rfl
  rw [hother]
  exact ⟨hid, rfl, Effect.renames_notices .., rfl⟩

/-- Bringing the readiness up to date changes at most what is waited for, and tells nothing. -/
theorem exists_updateInterest_eq (s : Session) : ∃ (interest : Option Interest)
    (result : Except SessionError Unit), s.updateInterest = ⟨{ s with interest }, [], result⟩ := by
  unfold updateInterest
  split
  · exact ⟨s.interest, _, rfl⟩
  · split
    · exact ⟨s.interest, _, rfl⟩
    · split
      · exact ⟨s.interest, _, rfl⟩
      · exact ⟨some s.desiredInterest, _, rfl⟩

theorem renames_updateInterest (hid : s.id = i) :
    s.updateInterest.Renames i j (s.withId j).updateInterest := by
  have hother : (s.withId j).updateInterest =
      ⟨s.updateInterest.session.withId j, [], s.updateInterest.result⟩ := by
    have hinterest : (s.withId j).interest = s.interest := rfl
    have hdesired : (s.withId j).desiredInterest = s.desiredInterest := rfl
    have hrefusal : (s.withId j).socket.refusal = s.socket.refusal := rfl
    simp only [updateInterest, hinterest, hdesired, hrefusal]
    cases s.interest with
    | none => rfl
    | some interest =>
      by_cases hsame : interest = s.desiredInterest
      · simp only [if_pos hsame]
      · simp only [if_neg hsame]
        cases s.socket.refusal <;> rfl
  obtain ⟨interest, result, hhere⟩ := exists_updateInterest_eq s
  rw [hother, hhere]
  exact ⟨hid, rfl, Effect.renames_of_handed_nil rfl rfl, rfl⟩

theorem renames_redrive (hblind : react.Blind) (hans : app.Answers i react) (hid : s.id = i) :
    (s.redrive app).Renames i j ((s.withId j).redrive react) := by
  obtain ⟨hinbox, hresult, hstate⟩ := Inbox.drain_simulates (p := s.policy)
    (handleUnit_simulates s.policy hblind hans) s.inbox (Work.renames_start (j := j) hid)
  refine ⟨hstate.id, ?_, hstate.effects, hresult⟩
  show Session.mk _ _ _ _ _ _ = Session.mk _ _ _ _ _ _
  congr 1
  exact hstate.handle

/-- A session that was not asked to close handles the units in its buffer and then sends. -/
theorem onHeartbeat_of_open (app : App) (hopen : s.handle.closeRequested = false) :
    s.onHeartbeat app = (s.redrive app).andThen fun _ s =>
      ⟨s.onWritable.session, s.onWritable.effects, s.onWritable.result.map fun _ => .alive⟩ := by
  unfold onHeartbeat
  rw [if_neg (by simp [hopen])]
  generalize s.redrive app = driven
  obtain ⟨t, effects, result⟩ := driven
  cases result <;> rfl

theorem renames_onHeartbeat (hblind : react.Blind) (hans : app.Answers i react) (hid : s.id = i) :
    (s.onHeartbeat app).Renames i j ((s.withId j).onHeartbeat react) := by
  cases hclose : s.handle.closeRequested with
  | true =>
    obtain ⟨notices, heq⟩ := onHeartbeat_of_closeRequested app hclose
    obtain ⟨notices', heq'⟩ := onHeartbeat_of_closeRequested react (s := s.withId j) hclose
    have hsent := renames_onWritable (j := j) hid
    rw [heq, heq']
    exact ⟨hsent.id, hsent.session, Effect.renames_notices .., rfl⟩
  | false =>
    rw [onHeartbeat_of_open app hclose, onHeartbeat_of_open (s := s.withId j) react hclose]
    refine (renames_redrive hblind hans hid).andThen fun _ t ht => ?_
    have hsent := renames_onWritable (j := j) ht
    exact ⟨hsent.id, hsent.session, hsent.effects, congrArg (Except.map _) hsent.result⟩

/-- **The work on readiness does not depend on the number.** -/
theorem renames_serve (hblind : react.Blind) (hans : app.Answers i react) (readable : Bool)
    (hid : s.id = i) : (s.serve app readable).Renames i j ((s.withId j).serve react readable) := by
  have hread : (if readable then s.onReadable app else ⟨s, [], .ok ()⟩ : Step Unit).Renames i j
      (if readable then (s.withId j).onReadable react else ⟨s.withId j, [], .ok ()⟩) := by
    cases readable with
    | true => exact renames_onReadable hblind hans hid
    | false => exact ⟨hid, rfl, Effect.renames_of_handed_nil rfl rfl, rfl⟩
  exact (hread.andThen fun _ _ ht => renames_onWritable ht).andThen fun _ _ ht =>
    renames_updateInterest ht

/-- **The work on a heartbeat does not depend on the number.** -/
theorem renames_beat (hblind : react.Blind) (hans : app.Answers i react) (hid : s.id = i) :
    (s.beat app).Renames i j ((s.withId j).beat react) := by
  refine (renames_onHeartbeat hblind hans hid).andThen fun pulse t ht => ?_
  cases pulse with
  | alive =>
    exact (renames_updateInterest ht).andThen fun _ u hu =>
      ⟨hu, rfl, Effect.renames_of_handed_nil rfl rfl, rfl⟩
  | closed => exact ⟨ht, rfl, Effect.renames_of_handed_nil rfl rfl, rfl⟩

theorem Step.Renames.closeCause? {a b : Step Pulse} (h : a.Renames i j b) :
    b.closeCause? = a.closeCause? := by
  unfold Step.closeCause?
  rw [h.result]

/-- A session is given up in the same way under another number. -/
theorem finalize_withId (s : Session) (j : ConnectionId) :
    (s.withId j).finalize.1 = s.finalize.1.withId j := by
  obtain ⟨notices, habort⟩ := s.writer.exists_abort s.id j s.handle.outbox s.socket.outgoing
  have habort' : (s.withId j).writer.abort (s.withId j).id (s.withId j).handle.outbox
      (s.withId j).socket.outgoing = _ := habort
  unfold finalize
  rw [habort']
  rfl

@[simp] theorem handed_finalize (s : Session) : Effect.handed s.finalize.2 = [] :=
  Effect.handed_notices _

/-! ### What stays -/

/-- What a step hands over is of its own session. -/
theorem Step.Renames.eq_of_mem_handed {α : Type} {a b : Step α} (h : a.Renames i j b)
    {x : ConnectionId × Message × Bool} (hx : x ∈ Effect.handed a.effects) : x.1 = i := by
  obtain ⟨ms, hms, -⟩ := h.effects
  rw [hms] at hx
  obtain ⟨m, -, rfl⟩ := List.mem_map.1 hx
  rfl

/-- An application that leaves numbers as they are finds a step to compare with. -/
theorem exists_renames_serve (hkeeps : app.Keeps) (s : Session) (readable : Bool) :
    ∃ b, (s.serve app readable).Renames s.id s.id b := by
  obtain ⟨react, hblind, hans⟩ := hkeeps.exists_blind s.id
  exact ⟨_, renames_serve hblind hans readable rfl⟩

theorem exists_renames_beat (hkeeps : app.Keeps) (s : Session) :
    ∃ b, (s.beat app).Renames s.id s.id b := by
  obtain ⟨react, hblind, hans⟩ := hkeeps.exists_blind s.id
  exact ⟨_, renames_beat hblind hans rfl⟩

end Session

end WebSocket
