import WebSocket.Proofs.Hub.Interplay

/-!
# Where the sessions of a hub stand

A session is there, is being closed or was closed, and the tracker counts it until its socket is
released.  Other threads add to its queue meanwhile, wherever it stands.  But at every moment the
queue tells what is pending: the packets that wait, the one that is being written, the one that the
loop has just taken out to give it up, and those that are counted by a call and not yet in the
queue.

## Main definitions

* `Hub.Stage.Met` — what holds of a session whose closing has come this far.
* `Hub.Interplay.ids`, `Hub.Interplay.counted` — all sessions, and what is counted for one by calls.
* `Hub.Interplay.Sane` — what holds of the sessions between two steps.
* `Hub.Interplay.Alike` — the same sessions stand where they stood.
* `Hub.Interplay.Goes` — what a step of closing makes of the session.

## Main results

* `Hub.Queueing.step_spec` — what a step of a call does to its handle.
* `Hub.Interplay.Sane.goOn` — a call may go on at any moment.
* `Hub.Interplay.closeOn_cases` — a step of closing lets the session go, or goes on.
* `Hub.Interplay.Sane.registerNext`, `Hub.Interplay.Sane.remove`, `Hub.Interplay.Sane.closeOn` — the
  loop registers a session, takes one out, and closes it step by step.
-/

namespace WebSocket

namespace Hub

theorem mem_of_find? {h : Hub} {id : ConnectionId} {e : Entry} (hf : h.find? id = some e) :
    e ∈ h.entries :=
  List.mem_of_find?_eq_some hf

section

variable {h : Hub} {c : Connection} {waiting : List Connection}

/-- A connection that cannot be registered is given a number, and the number is given back. -/
theorem registerNext_of_refused (hwaiting : h.waiting = c :: waiting) {detail : String}
    (hrefusal : c.refusal = some detail) :
    h.registerNext = ⟨{ h with
        waiting
        tracker := h.tracker.track.2.release
        dropped := h.dropped ++ [{ c with socket := c.socket.hangUp }] },
      [.notice (.log (.sessionNotRegistered c.peer detail)),
        .notice (.log (.sessionReleased h.tracker.track.1))]⟩ := by
  unfold registerNext
  simp only [hwaiting, hrefusal]

/-- A connection that can be registered becomes the last of the sessions. -/
theorem registerNext_of_fit (hwaiting : h.waiting = c :: waiting) (hrefusal : c.refusal = none) :
    ∃ (session : Session) (ready : List ConnectionId), session.id = ⟨h.tracker.next⟩ ∧
      session.Counted 0 ∧
      h.registerNext = ⟨{ h with
          waiting
          tracker := h.tracker.track.2
          entries := h.entries ++ [⟨c.serial, session⟩]
          ready },
        [.notice (.log (.sessionOpened h.tracker.track.1 c.peer)),
          .notice (.count .sessionsOpened 1),
          .notice (.gauge .sessionsActive h.tracker.track.2.active)]⟩ := by
  refine ⟨(Session.new h.tracker.track.1 c.peer c.socket h.settings).register.session,
    if isReadable c.socket then h.ready ++ [h.tracker.track.1] else h.ready, rfl,
    Session.counted_new h.tracker.track.1 c.peer c.socket h.settings, ?_⟩
  unfold registerNext
  simp only [hwaiting, hrefusal]

end

/-! ### What a step of a call does -/

namespace Queueing

/-- The packet of the call is still to be put in the queue, and is counted. -/
def Rest.isCounted : Rest → Bool
  | goesOn q => q.isCounted
  | ends _ => false

/-- **What a step of a call does to its handle**: a packet that is counted or put in the queue is so
by one who has counted it or not. -/
theorem step_spec (q : Queueing) (h : Handle) :
    (q.step h).1.id = h.id ∧ (q.step h).1.closed = h.closed ∧
      (q.step h).1.closeRequested = h.closeRequested ∧
      (q.step h).1.outbox.pending + h.outbox.waiting.length + q.isCounted.toNat =
        h.outbox.pending + (q.step h).1.outbox.waiting.length + (q.step h).2.isCounted.toNat := by
  cases q with
  | entered m =>
    refine ⟨rfl, rfl, rfl, ?_⟩
    cases hclosed : h.closed <;>
      simp [step, hclosed, isCounted, Rest.isCounted, Outbox.Push.isCounted]
  | pushing p =>
    cases p with
    | entered bytes kind =>
      refine ⟨rfl, rfl, rfl, ?_⟩
      cases hroom : h.outbox.admits <;>
        simp [step, hroom, isCounted, Rest.isCounted, Outbox.Push.isCounted]
    | admitted bytes kind =>
      refine ⟨rfl, rfl, rfl, ?_⟩
      show h.outbox.pending + 1 + h.outbox.waiting.length + 0 =
        h.outbox.pending + h.outbox.waiting.length + 1
      omega
    | counted bytes kind => exact ⟨rfl, rfl, rfl, rfl⟩
    | numbered p =>
      refine ⟨rfl, rfl, rfl, ?_⟩
      show h.outbox.pending + h.outbox.waiting.length + 1 =
        h.outbox.pending + (h.outbox.append p).waiting.length + 0
      rw [Outbox.waiting_append, List.length_append]
      rfl

end Queueing

/-! ### Sessions -/

/-- Nothing is being written, and `k` packets are counted that are not in the queue. -/
def Spent (k : Nat) (t : Session) : Prop := t.writer = .idle ∧ t.Counted k

/-- What holds of a session whose closing has come this far, while `k` packets for it are counted
that are not in its queue yet. -/
def Stage.Met (k : Nat) (t : Session) : Stage → Prop
  | .discard _ | .giveUp _ => t.Counted k
  -- The packet that was taken out of the queue is still counted.
  | .forget _ => t.Counted (k + 1)
  | .request => Spent k t
  | .mark => Spent k t ∧ t.handle.closeRequested = true
  | .release => Spent k t ∧ t.handle.closeRequested = true ∧ t.handle.closed = true

/-- A handle after a step of a call in which what is counted and what waits moved together. -/
theorem Stage.Met.handle {k k' : Nat} {t : Session} {stage : Stage} (h : stage.Met k t)
    {handle : Handle}
    (hcount : handle.outbox.pending + t.handle.outbox.waiting.length + k =
      t.handle.outbox.pending + handle.outbox.waiting.length + k')
    (hrequested : t.handle.closeRequested = true → handle.closeRequested = true)
    (hclosed : t.handle.closed = true → handle.closed = true) :
    stage.Met k' { t with handle } := by
  have hcounted : ∀ n, t.Counted (k + n) → Session.Counted (k' + n) { t with handle } := by
    intro n hn
    unfold Session.Counted Writer.CountsBeside at hn ⊢
    show handle.outbox.pending = handle.outbox.waiting.length + t.writer.packets.length + (k' + n)
    omega
  cases stage with
  | discard | giveUp => exact hcounted 0 h
  | forget => exact hcounted 1 h
  | request => exact ⟨h.1, hcounted 0 h.2⟩
  | mark => exact ⟨⟨h.1.1, hcounted 0 h.1.2⟩, hrequested h.2⟩
  | release => exact ⟨⟨h.1.1, hcounted 0 h.1.2⟩, hrequested h.2.1, hclosed h.2.2⟩

namespace Interplay

/-- The numbers of all sessions, of those that were closed too. -/
def ids (s : Interplay) : List ConnectionId := s.sessions.map (·.session.id)

/-- How many packets for a session are counted by a call that has not put them in the queue. -/
def counted (s : Interplay) (id : ConnectionId) : Nat :=
  s.queueings.countP fun q => q.1 = id && q.2.isCounted

/-- What holds of the sessions between two steps. -/
structure Sane (s : Interplay) : Prop where
  distinct : s.ids.Nodup
  bound : ∀ id ∈ s.ids, id.number < s.hub.tracker.next
  /-- The tracker counts the sessions that are there, and the one that is being closed. -/
  active : s.hub.tracker.active = s.hub.entries.length + s.leaving.toList.length
  there : ∀ e ∈ s.hub.entries, e.session.Counted (s.counted e.session.id)
  leaving : ∀ l, s.leaving = some l → l.stage.Met (s.counted l.entry.session.id) l.entry.session
  gone : ∀ e ∈ s.hub.released, Stage.release.Met (s.counted e.session.id) e.session
  /-- Whoever queues a message does it for a session that is or was there. -/
  called : ∀ q ∈ s.queueings, q.1 ∈ s.ids

theorem sane_new (settings : SessionSettings) : (new settings).Sane where
  distinct := .nil
  bound := by simp [ids, sessions, new, Hub.new]
  active := rfl
  there := by simp [new, Hub.new]
  leaving := by simp [new]
  gone := by simp [new, Hub.new]
  called := by simp [new]

variable {s : Interplay}

theorem mem_sessions {e : Entry} : e ∈ s.sessions ↔
    e ∈ s.hub.entries ∨ (∃ l, s.leaving = some l ∧ l.entry = e) ∨ e ∈ s.hub.released := by
  simp [sessions]

/-- A session is told by its number. -/
theorem Sane.eq_of_mem (hs : s.Sane) {e f : Entry} (he : e ∈ s.sessions) (hf : f ∈ s.sessions)
    (heq : e.session.id = f.session.id) : e = f :=
  List.inj_on_of_nodup_map hs.distinct he hf heq

/-- The handle that is found is that of the session with this number. -/
theorem Sane.handle_eq (hs : s.Sane) {e : Entry} (he : e ∈ s.sessions) {handle : Handle}
    (hhandle : s.handle? e.session.id = some handle) : e.session.handle = handle := by
  obtain ⟨f, hf, rfl⟩ := Option.map_eq_some_iff.1 hhandle
  have hid : f.session.id = e.session.id := by simpa using List.find?_some hf
  rw [hs.eq_of_mem he (List.mem_of_find?_eq_some hf) hid.symm]

/-- The same sessions stand where they stood, and the same calls are being made. -/
structure Alike (s t : Interplay) : Prop where
  entries : t.hub.entries = s.hub.entries
  released : t.hub.released = s.hub.released
  tracker : t.hub.tracker = s.hub.tracker
  leaving : t.leaving = s.leaving
  queueings : t.queueings = s.queueings

variable {t : Interplay}

theorem Alike.sessions (h : s.Alike t) : t.sessions = s.sessions := by
  unfold Interplay.sessions
  rw [h.entries, h.leaving, h.released]

theorem Alike.ids (h : s.Alike t) : t.ids = s.ids := congrArg (List.map _) h.sessions

theorem Alike.counted (h : s.Alike t) (id : ConnectionId) : t.counted id = s.counted id :=
  congrArg (List.countP _) h.queueings

theorem Sane.alike (hs : s.Sane) (h : s.Alike t) : t.Sane where
  distinct := h.ids ▸ hs.distinct
  bound := by
    rw [h.ids, h.tracker]
    exact hs.bound
  active := by
    rw [h.tracker, h.entries, h.leaving]
    exact hs.active
  there := by
    intro e he
    rw [h.counted]
    exact hs.there e (h.entries ▸ he)
  leaving := by
    intro l hl
    rw [h.counted]
    exact hs.leaving l (h.leaving ▸ hl)
  gone := by
    intro e he
    rw [h.counted]
    exact hs.gone e (h.released ▸ he)
  called := by
    rw [h.queueings, h.ids]
    exact hs.called

/-! ### What other threads do -/

theorem ids_setHandle (s : Interplay) (handle : Handle) : (s.setHandle handle).ids = s.ids := by
  unfold ids
  rw [sessions_setHandle, List.map_map]
  exact List.map_congr_left fun e _ => id_touched handle e

theorem length_setHandle (s : Interplay) (handle : Handle) :
    (s.setHandle handle).hub.entries.length + (s.setHandle handle).leaving.toList.length =
      s.hub.entries.length + s.leaving.toList.length := by
  show (s.hub.entries.map _).length + (s.leaving.map _).toList.length = _
  rw [List.length_map]
  cases s.leaving <;> rfl

/-- The handle of a session changed, and with it what is counted for this session; for the others
nothing changed. -/
theorem Sane.setHandle (hs : s.Sane) {handle handle' : Handle}
    (hhandle : s.handle? handle'.id = some handle) {t : Interplay}
    (ht : t.toLedger = (s.setHandle handle').toLedger ∧ t.leaving = (s.setHandle handle').leaving)
    (hcount : handle'.outbox.pending + handle.outbox.waiting.length + s.counted handle'.id =
      handle.outbox.pending + handle'.outbox.waiting.length + t.counted handle'.id)
    (hothers : ∀ id, id ≠ handle'.id → t.counted id = s.counted id)
    (hrequested : handle.closeRequested = true → handle'.closeRequested = true)
    (hclosed : handle.closed = true → handle'.closed = true)
    (hcalled : ∀ q ∈ t.queueings, q.1 ∈ s.ids) : t.Sane := by
  obtain ⟨hledger, hleaving⟩ := ht
  have hhub : t.hub = s.hub.setHandle handle' := congrArg Ledger.hub hledger
  have hids : t.ids = s.ids := by
    rw [← ids_setHandle s handle']
    unfold ids sessions
    rw [hhub, hleaving]
    rfl
  have hmet : ∀ (e : Entry) (stage : Stage), e ∈ s.sessions →
      stage.Met (s.counted e.session.id) e.session →
      stage.Met (t.counted (touched handle' e).session.id) (touched handle' e).session := by
    intro e stage he hmet
    rw [id_touched]
    unfold touched
    by_cases hid : e.session.id = handle'.id
    · have hsame : e.session.handle = handle := hs.handle_eq he (hid ▸ hhandle)
      rw [if_pos hid]
      rw [hid] at hmet ⊢
      exact hmet.handle (hsame ▸ hcount) (hsame ▸ hrequested) (hsame ▸ hclosed)
    · rw [if_neg hid, hothers _ hid]
      exact hmet
  constructor
  case distinct => exact hids ▸ hs.distinct
  case bound =>
    rw [hids, hhub]
    exact hs.bound
  case active =>
    rw [hhub, hleaving]
    exact hs.active.trans (length_setHandle s handle').symm
  case there =>
    intro e he
    rw [hhub] at he
    obtain ⟨old, hold, rfl⟩ := List.mem_map.1 he
    exact hmet old (.discard 0) (mem_sessions.2 (.inl hold)) (hs.there old hold)
  case leaving =>
    intro l hl
    rw [hleaving] at hl
    obtain ⟨old, hold, rfl⟩ := Option.map_eq_some_iff.1 hl
    exact hmet old.entry old.stage (mem_sessions.2 (.inr (.inl ⟨old, hold, rfl⟩)))
      (hs.leaving old hold)
  case gone =>
    intro e he
    rw [hhub] at he
    obtain ⟨old, hold, rfl⟩ := List.mem_map.1 he
    exact hmet old .release (mem_sessions.2 (.inr (.inr hold))) (hs.gone old hold)
  case called => exact hids ▸ hcalled

/-- Somebody used a handle, other than to queue a message. -/
theorem Sane.use (hs : s.Sane) {id : ConnectionId} {u : Handle.Use} {t : Interplay}
    (h : s.use id u = some t) : t.Sane := by
  obtain ⟨handle, handle', hhandle, rfl, hid, houtbox, hclosed, hrequested⟩ := exists_of_use h
  refine hs.setHandle (hid.trans (id_of_handle? hhandle) ▸ hhandle) ⟨rfl, rfl⟩ ?_ (fun _ _ => rfl)
    hrequested (fun h => hclosed.trans h) hs.called
  rw [houtbox]
  rfl

theorem mem_ids_of_handle? {id : ConnectionId} {handle : Handle}
    (h : s.handle? id = some handle) : id ∈ s.ids := by
  obtain ⟨e, he, rfl⟩ := Option.map_eq_some_iff.1 h
  have hid : e.session.id = id := by simpa using List.find?_some he
  exact List.mem_map.2 ⟨e, List.mem_of_find?_eq_some he, hid⟩

/-- Somebody calls. -/
theorem Sane.enter (hs : s.Sane) {id : ConnectionId} {m : Message} {t : Interplay}
    (h : s.enter id m = some t) : t.Sane := by
  obtain ⟨handle, hhandle, rfl⟩ := Option.map_eq_some_iff.1 h
  have hcounted : ∀ i, Interplay.counted
      { s with queueings := s.queueings ++ [(id, .entered m)] } i = s.counted i := by
    intro i
    simp [counted, Queueing.isCounted]
  refine ⟨hs.distinct, hs.bound, hs.active, ?_, ?_, ?_, ?_⟩
  · exact fun e he => hcounted e.session.id ▸ hs.there e he
  · exact fun l hl => hcounted l.entry.session.id ▸ hs.leaving l hl
  · exact fun e he => hcounted e.session.id ▸ hs.gone e he
  · intro q hq
    rcases List.mem_append.1 hq with hold | hnew
    · exact hs.called q hold
    · rw [List.mem_singleton.1 hnew]
      exact mem_ids_of_handle? hhandle

/-- What is counted for a session after a step of a call for it, and before. -/
theorem counted_left {place : Nat} {id : ConnectionId} {q : Queueing}
    (hplace : s.queueings[place]? = some (id, q)) (rest : Queueing.Rest) :
    (s.left place id rest).counted id + q.isCounted.toNat =
      s.counted id + rest.isCounted.toNat := by
  obtain ⟨hlt, hq⟩ := List.getElem?_eq_some_iff.1 hplace
  have hbefore := (List.getElem_cons_eraseIdx_perm hlt).countP_eq
    fun q : ConnectionId × Queueing => q.1 = id && q.2.isCounted
  rw [hq, List.countP_cons] at hbefore
  unfold counted
  cases rest with
  | goesOn next =>
    have hafter := (List.set_perm_cons_eraseIdx hlt (id, next)).countP_eq
      fun q : ConnectionId × Queueing => q.1 = id && q.2.isCounted
    rw [List.countP_cons] at hafter
    simp only [left, hafter, ← hbefore, Queueing.Rest.isCounted]
    cases q.isCounted <;> cases next.isCounted <;> simp
  | ends answer =>
    simp only [left, ← hbefore, Queueing.Rest.isCounted]
    cases q.isCounted <;> simp

/-- A step of a call moves what is counted for no other session. -/
theorem counted_left_of_ne {place : Nat} {id i : ConnectionId} {q : Queueing}
    (hplace : s.queueings[place]? = some (id, q)) (rest : Queueing.Rest) (hi : i ≠ id) :
    (s.left place id rest).counted i = s.counted i := by
  obtain ⟨hlt, hq⟩ := List.getElem?_eq_some_iff.1 hplace
  have hbefore := (List.getElem_cons_eraseIdx_perm hlt).countP_eq
    fun q : ConnectionId × Queueing => q.1 = i && q.2.isCounted
  rw [hq, List.countP_cons] at hbefore
  unfold counted
  cases rest with
  | goesOn next =>
    have hafter := (List.set_perm_cons_eraseIdx hlt (id, next)).countP_eq
      fun q : ConnectionId × Queueing => q.1 = i && q.2.isCounted
    rw [List.countP_cons] at hafter
    simp only [left, hafter, ← hbefore]
    simp [hi.symm]
  | ends answer =>
    simp only [left, ← hbefore]
    simp [hi.symm]

/-- Whoever is in the middle of a call after a step of one was so before, or goes on for the same
session. -/
theorem mem_left {place : Nat} {id : ConnectionId} {rest : Queueing.Rest}
    {x : ConnectionId × Queueing} (hx : x ∈ (s.left place id rest).queueings) :
    x ∈ s.queueings ∨ ∃ next, rest = .goesOn next ∧ x = (id, next) := by
  cases rest with
  | goesOn next =>
    rcases List.mem_or_eq_of_mem_set hx with hold | hnew
    · exact .inl hold
    · exact .inr ⟨next, rfl, hnew⟩
  | ends answer => exact .inl (List.mem_of_mem_eraseIdx hx)

/-- A call goes on. -/
theorem Sane.goOn (hs : s.Sane) {place : Nat} {t : Interplay} (h : s.goOn place = some t) :
    t.Sane := by
  obtain ⟨⟨id, q⟩, hplace, hstep⟩ := Option.bind_eq_some_iff.1 h
  obtain ⟨handle, hhandle, rfl⟩ := Option.map_eq_some_iff.1 hstep
  obtain ⟨hid, hclosed, hrequested, hcount⟩ := q.step_spec handle
  have hmoved := counted_left (s := s.setHandle (q.step handle).1) hplace (q.step handle).2
  obtain rfl : (q.step handle).1.id = id := hid.trans (id_of_handle? hhandle)
  refine hs.setHandle hhandle ?_ ?_ ?_ (fun h => hrequested.trans h) (fun h => hclosed.trans h) ?_
  · cases (q.step handle).2 <;> exact ⟨rfl, rfl⟩
  · have hsame : (s.setHandle (q.step handle).1).counted (q.step handle).1.id =
        s.counted (q.step handle).1.id := rfl
    omega
  · exact fun i hi => counted_left_of_ne (s := s.setHandle (q.step handle).1) hplace _ hi
  · intro x hx
    rcases mem_left hx with hold | ⟨next, -, rfl⟩
    · exact hs.called x hold
    · have hcaller := hs.called _ (List.mem_of_getElem? hplace)
      exact hcaller

/-! ### What clients do -/

@[simp] theorem id_signalled (serial : Nat) (f : Socket → Socket) (e : Entry) :
    (signalled serial f e).session.id = e.session.id := by
  unfold signalled
  split <;> rfl

theorem sessions_signal (s : Interplay) (serial : Nat) (f : Socket → Socket) :
    (s.signal serial f).sessions = s.hub.entries.map (signalled serial f) ++
      (s.leaving.map Leaving.entry).toList.map (signalled serial f) ++ s.hub.released := by
  have hleaving : ((s.signal serial f).leaving.map Leaving.entry).toList =
      (s.leaving.map Leaving.entry).toList.map (signalled serial f) := by
    show ((s.leaving.map _).map Leaving.entry).toList = _
    cases s.leaving <;> rfl
  unfold sessions
  rw [hleaving]
  rfl

/-- What clients do changes nothing but sockets. -/
theorem met_signalled {k : Nat} {e : Entry} {stage : Stage} (h : stage.Met k e.session)
    (serial : Nat) (f : Socket → Socket) : stage.Met k (signalled serial f e).session := by
  unfold signalled
  split
  · cases stage <;> exact h
  · exact h

theorem ids_signal (s : Interplay) (serial : Nat) (f : Socket → Socket) :
    (s.signal serial f).ids = s.ids := by
  unfold ids
  rw [sessions_signal, sessions]
  simp [List.map_map, Function.comp_def]

theorem Sane.signal (hs : s.Sane) (serial : Nat) (f : Socket → Socket) :
    (s.signal serial f).Sane := by
  have hids := ids_signal s serial f
  constructor
  case distinct => exact hids ▸ hs.distinct
  case bound => exact hids ▸ hs.bound
  case active =>
    show s.hub.tracker.active = (s.hub.entries.map _).length + (s.leaving.map _).toList.length
    rw [List.length_map, hs.active]
    cases s.leaving <;> rfl
  case there =>
    intro e he
    obtain ⟨old, hold, rfl⟩ := List.mem_map.1 he
    have hmet : (Stage.discard 0).Met (s.counted old.session.id) old.session := hs.there old hold
    exact id_signalled serial f old ▸ met_signalled hmet serial f
  case leaving =>
    intro l hl
    obtain ⟨old, hold, rfl⟩ := Option.map_eq_some_iff.1 hl
    exact id_signalled serial f old.entry ▸ met_signalled (hs.leaving old hold) serial f
  case gone => exact hs.gone
  case called => exact hids ▸ hs.called

/-! ### What the loop does -/

theorem ids_updated (s : Interplay) {id : ConnectionId} {session : Session} (h : session.id = id)
    (effects : List Effect) : (s.did ⟨s.hub.update id session, effects⟩).ids = s.ids := by
  have hupdate := ids_update s.hub h
  unfold Hub.ids at hupdate
  unfold ids sessions
  rw [List.map_append, List.map_append, List.map_append, List.map_append]
  exact congrArg (· ++ _ ++ _) hupdate

/-- A session replaced by itself after some work. -/
theorem Sane.update (hs : s.Sane) {e : Entry} {α : Type} {st : Session.Step α}
    (hst : st.Modest e.session.id (s.counted e.session.id)) :
    (s.did ⟨s.hub.update e.session.id st.session, st.effects⟩).Sane := by
  have hids := ids_updated s hst.id st.effects
  constructor
  case distinct => exact hids ▸ hs.distinct
  case bound => exact hids ▸ hs.bound
  case active =>
    show s.hub.tracker.active = (s.hub.entries.map _).length + _
    rw [List.length_map]
    exact hs.active
  case there =>
    intro f hf
    obtain ⟨old, hold, rfl⟩ := List.mem_map.1 hf
    by_cases hid : old.session.id = e.session.id
    · simp only [if_pos hid]
      exact hst.id.symm ▸ hst.counted
    · simp only [if_neg hid]
      exact hs.there old hold
  case leaving => exact hs.leaving
  case gone => exact hs.gone
  case called => exact hids ▸ hs.called

/-- Nobody has called for a session that was never there. -/
theorem Sane.counted_of_not_mem (hs : s.Sane) {id : ConnectionId} (hid : id ∉ s.ids) :
    s.counted id = 0 := by
  refine List.countP_eq_zero.2 fun q hq => ?_
  have hne : q.1 ≠ id := fun heq => hid (heq ▸ hs.called q hq)
  simp [hne]

/-- A new session stands between those that are there and the others. -/
theorem perm_ids_opened {e : Entry} (hentries : t.hub.entries = s.hub.entries ++ [e])
    (hleaving : t.leaving = s.leaving) (hreleased : t.hub.released = s.hub.released) :
    t.ids.Perm (e.session.id :: s.ids) := by
  unfold ids sessions
  rw [hentries, hleaving, hreleased]
  simp only [List.map_append, List.append_assoc, List.map_cons, List.map_nil]
  exact List.perm_middle

theorem subset_ids_opened {e : Entry} (hentries : t.hub.entries = s.hub.entries ++ [e])
    (hleaving : t.leaving = s.leaving) (hreleased : t.hub.released = s.hub.released) :
    s.ids ⊆ t.ids := fun _ hid =>
  (perm_ids_opened hentries hleaving hreleased).mem_iff.2 (List.mem_cons_of_mem _ hid)

/-- A session that is new, with a number that was not given before. -/
theorem Sane.opened (hs : s.Sane) {e : Entry} (hid : e.session.id = ⟨s.hub.tracker.next⟩)
    (hcounted : e.session.Counted 0) (hentries : t.hub.entries = s.hub.entries ++ [e])
    (htracker : t.hub.tracker = s.hub.tracker.track.2) (hleaving : t.leaving = s.leaving)
    (hreleased : t.hub.released = s.hub.released) (hqueueings : t.queueings = s.queueings) :
    t.Sane := by
  have hsame : ∀ id, t.counted id = s.counted id := fun _ => congrArg (List.countP _) hqueueings
  have hfresh : e.session.id ∉ s.ids := by
    intro hmem
    have hlt := hs.bound e.session.id hmem
    rw [hid] at hlt
    exact Nat.lt_irrefl _ hlt
  have hperm := perm_ids_opened hentries hleaving hreleased
  constructor
  case distinct => exact hperm.nodup_iff.2 (List.nodup_cons.2 ⟨hfresh, hs.distinct⟩)
  case bound =>
    intro i hi
    rw [htracker]
    rcases List.mem_cons.1 (hperm.mem_iff.1 hi) with rfl | hold
    · rw [hid]
      exact Nat.lt_succ_self _
    · exact Nat.lt_succ_of_lt (hs.bound i hold)
  case active =>
    have hactive := hs.active
    rw [htracker, hentries, hleaving, List.length_append, List.length_singleton]
    show s.hub.tracker.active + 1 = _
    omega
  case there =>
    intro f hf
    rw [hsame]
    rw [hentries] at hf
    rcases List.mem_append.1 hf with hold | hnew
    · exact hs.there f hold
    · obtain rfl := List.mem_singleton.1 hnew
      rw [hs.counted_of_not_mem hfresh]
      exact hcounted
  case leaving =>
    intro l hl
    rw [hsame]
    exact hs.leaving l (hleaving ▸ hl)
  case gone =>
    intro f hf
    rw [hsame]
    exact hs.gone f (hreleased ▸ hf)
  case called =>
    intro q hq
    rw [hqueueings] at hq
    exact hperm.mem_iff.2 (List.mem_cons_of_mem _ (hs.called q hq))

/-- A connection that is registered becomes a session, or not. -/
theorem Sane.registerNext (hs : s.Sane) (hw : s.hub.waiting ≠ []) : s.registerNext.Sane := by
  obtain ⟨c, waiting, hwaiting⟩ := List.exists_cons_of_ne_nil hw
  unfold Interplay.registerNext
  cases hrefusal : c.refusal with
  | some detail =>
    rw [registerNext_of_refused hwaiting hrefusal]
    refine ⟨hs.distinct, fun id hid => Nat.lt_succ_of_lt (hs.bound id hid), ?_, hs.there,
      hs.leaving, hs.gone, hs.called⟩
    exact (Nat.add_sub_cancel s.hub.tracker.active 1).trans hs.active
  | none =>
    obtain ⟨session, ready, hid, hcounted, hturn⟩ := registerNext_of_fit hwaiting hrefusal
    rw [hturn]
    exact hs.opened (e := ⟨c.serial, session⟩) hid hcounted rfl rfl rfl rfl rfl

/-- No session is forgotten when a connection is registered. -/
theorem subset_ids_registerNext (hw : s.hub.waiting ≠ []) : s.ids ⊆ s.registerNext.ids := by
  obtain ⟨c, waiting, hwaiting⟩ := List.exists_cons_of_ne_nil hw
  unfold Interplay.registerNext
  cases hrefusal : c.refusal with
  | some detail =>
    rw [registerNext_of_refused hwaiting hrefusal]
    exact fun _ hid => hid
  | none =>
    obtain ⟨session, ready, -, -, hturn⟩ := registerNext_of_fit hwaiting hrefusal
    rw [hturn]
    exact subset_ids_opened (e := ⟨c.serial, session⟩) rfl rfl rfl

/-- Of sessions with different numbers one stands before the others. -/
theorem perm_filter_of_find? {l : List Entry} {id : ConnectionId} {e : Entry}
    (hl : (l.map (·.session.id)).Nodup) (hf : l.find? (fun e => e.session.id = id) = some e) :
    l.Perm (e :: l.filter fun f => f.session.id ≠ id) := by
  induction l with
  | nil => simp at hf
  | cons a l ih =>
    obtain ⟨hnew, hl⟩ := List.nodup_cons.1 hl
    by_cases ha : a.session.id = id
    · obtain rfl : a = e := by simpa [ha] using hf
      have hothers : ∀ f ∈ l, decide (f.session.id ≠ id) = true := by
        intro f hf
        have hne : f.session.id ≠ id := fun heq =>
          hnew (List.mem_map.2 ⟨f, hf, heq.trans ha.symm⟩)
        simpa using hne
      rw [List.filter_cons_of_neg (by simp [ha]), List.filter_eq_self.2 hothers]
    · rw [List.find?_cons_of_neg (by simpa using ha)] at hf
      rw [List.filter_cons_of_pos (by simpa using ha)]
      exact ((ih hl hf).cons a).trans (.swap e a _)

theorem perm_ids_remove (hs : s.Sane) {e : Entry} (hl : s.leaving = none)
    (hf : s.hub.find? e.session.id = some e) (cause : CloseCause) :
    (s.remove e cause).ids.Perm s.ids := by
  have hall : s.ids = s.hub.entries.map (·.session.id) ++ s.hub.released.map (·.session.id) := by
    unfold ids sessions
    rw [hl, List.map_append, List.map_append]
    simp
  have hdistinct : (s.hub.entries.map (·.session.id)).Nodup :=
    (List.nodup_append.1 (hall ▸ hs.distinct)).1
  have hfront := ((List.perm_append_singleton e _).trans
    (perm_filter_of_find? hdistinct hf).symm).map (·.session.id)
  rw [List.map_append] at hfront
  rw [hall]
  unfold ids sessions
  rw [List.map_append, List.map_append]
  exact hfront.append_right _

/-- A session is taken out of the hub. -/
theorem Sane.remove (hs : s.Sane) {e : Entry} (hl : s.leaving = none)
    (hf : s.hub.find? e.session.id = some e) (cause : CloseCause) : (s.remove e cause).Sane := by
  have hids := perm_ids_remove hs hl hf cause
  constructor
  case distinct => exact hids.nodup_iff.2 hs.distinct
  case bound => exact fun id hid => hs.bound id (hids.mem_iff.1 hid)
  case active =>
    have hactive := hs.active
    have hlength := hids.length_eq
    unfold ids sessions at hlength
    simp only [List.length_map, List.length_append, hl] at hlength
    rw [hl] at hactive
    change s.hub.tracker.active = s.hub.entries.length + 0 at hactive
    change _ + 1 + s.hub.released.length = _ + 0 + s.hub.released.length at hlength
    show s.hub.tracker.active = (s.remove e cause).hub.entries.length + 1
    omega
  case there => exact fun f hf => hs.there f (List.mem_filter.1 hf).1
  case leaving =>
    intro l hl
    obtain rfl := Option.some.inj hl
    exact hs.there e (mem_of_find? hf)
  case gone => exact hs.gone
  case called => exact fun q hq => hids.mem_iff.2 (hs.called q hq)

theorem ids_leave {l : Leaving} (hl : s.leaving = some l) {session : Session}
    (hid : session.id = l.entry.session.id) (stage : Stage) :
    (s.leave l session stage).ids = s.ids := by
  unfold ids sessions
  rw [List.map_append, List.map_append, List.map_append, List.map_append, hl]
  show _ ++ [session.id] ++ _ = _ ++ [l.entry.session.id] ++ _
  rw [hid]
  rfl

/-- The session that is being closed in its next stage. -/
theorem Sane.leave (hs : s.Sane) {l : Leaving} (hl : s.leaving = some l) {session : Session}
    {stage : Stage} (hid : session.id = l.entry.session.id)
    (hmet : stage.Met (s.counted session.id) session) : (s.leave l session stage).Sane := by
  have hids := ids_leave hl hid stage
  constructor
  case distinct => exact hids ▸ hs.distinct
  case bound => exact hids ▸ hs.bound
  case active =>
    have hactive := hs.active
    rw [hl] at hactive
    exact hactive
  case there => exact hs.there
  case leaving =>
    intro l' hl'
    obtain rfl := Option.some.inj hl'
    exact hmet
  case gone => exact hs.gone
  case called => exact hids ▸ hs.called

theorem perm_ids_release {entry : Entry} {cause : CloseCause}
    (hl : s.leaving = some ⟨entry, cause, .release⟩) :
    (s.closeOn ⟨entry, cause, .release⟩).ids.Perm s.ids := by
  unfold ids sessions
  rw [hl]
  simp only [List.map_append, List.append_assoc]
  refine List.Perm.append_left _ ?_
  have hreleased : (s.closeOn ⟨entry, cause, .release⟩).hub.released.map (·.session.id) =
      s.hub.released.map (·.session.id) ++ [entry.session.id] := List.map_append
  rw [hreleased]
  show (([] : List ConnectionId) ++ (_ ++ [entry.session.id])).Perm ([entry.session.id] ++ _)
  rw [List.nil_append]
  exact List.perm_append_comm

/-- A session that was closed is let go. -/
theorem Sane.release (hs : s.Sane) {entry : Entry} {cause : CloseCause}
    (hl : s.leaving = some ⟨entry, cause, .release⟩) :
    (s.closeOn ⟨entry, cause, .release⟩).Sane := by
  have hids := perm_ids_release hl
  constructor
  case distinct => exact hids.nodup_iff.2 hs.distinct
  case bound => exact fun id hid => hs.bound id (hids.mem_iff.1 hid)
  case active =>
    have hactive := hs.active
    rw [hl] at hactive
    show s.hub.tracker.active - 1 = s.hub.entries.length + 0
    rw [hactive]
    rfl
  case there => exact hs.there
  case leaving => exact fun l hl => nomatch hl
  case gone =>
    intro e he
    rcases List.mem_append.1 he with hold | hnew
    · exact hs.gone e hold
    · obtain rfl := List.mem_singleton.1 hnew
      exact hs.leaving _ hl
  case called => exact fun q hq => hids.mem_iff.2 (hs.called q hq)

/-- What a step may make of a session that is being closed, and tell, until the session is let
go. -/
structure Goes (l : Leaving) (session : Session) (stage : Stage) (told : List Notice) : Prop where
  id : session.id = l.entry.session.id
  met (k : Nat) : l.stage.Met k l.entry.session → stage.Met k session
  /-- The queue is not given up before it was found empty. -/
  emptied : (l.stage.isEmptied = true → l.entry.session.handle.outbox.waiting = []) →
    stage.isEmptied = true → session.handle.outbox.waiting = []
  quiet : Effect.Quiet (told.map .notice)

theorem quiet_discarded (id : ConnectionId) (dropped : Nat) :
    Effect.Quiet ((discarded id dropped).map .notice) := by
  unfold discarded
  split
  · exact Effect.quiet_log _
  · exact Effect.quiet_nil

theorem tell_nil (s : Interplay) : s.tell [] = s := by
  simp [tell, Interplay.did]

/-- As long as it is not let go, a session that is being closed goes on to another stage. -/
theorem exists_closeOn_eq (s : Interplay) {l : Leaving} (hstage : l.stage ≠ .release) :
    ∃ session stage told, Goes l session stage told ∧
      s.closeOn l = (s.tell told).leave l session stage := by
  obtain ⟨entry, cause, stage⟩ := l
  cases stage with
  | discard dropped =>
    cases hwaiting : entry.session.handle.outbox.waiting with
    | nil =>
      refine ⟨entry.session, .giveUp dropped, [], ⟨rfl, fun _ h => h, ?_, Effect.quiet_nil⟩, ?_⟩
      · exact fun _ _ => hwaiting
      · simp only [closeOn, Outbox.pop?_of_nil hwaiting, tell_nil]
    | cons p waiting =>
      refine ⟨entry.session.withOutbox (entry.session.handle.outbox.keep waiting),
        .forget dropped, [], ⟨rfl, fun k h => ?_, nofun, Effect.quiet_nil⟩, ?_⟩
      · -- The packet that was taken out is counted as long as it is in hand.
        have hcounted : entry.session.handle.outbox.pending =
            entry.session.handle.outbox.waiting.length + entry.session.writer.packets.length +
              k := h
        have hkept := congrArg List.length
          (Outbox.waiting_keep waiting entry.session.handle.outbox)
        rw [hwaiting, List.length_cons] at hcounted
        show entry.session.handle.outbox.pending =
          (entry.session.handle.outbox.keep waiting).waiting.length +
            entry.session.writer.packets.length + (k + 1)
        omega
      · simp only [closeOn, Outbox.pop?_of_cons hwaiting, tell_nil]
  | forget dropped =>
    refine ⟨entry.session.withOutbox entry.session.handle.outbox.complete, .discard (dropped + 1),
      [], ⟨rfl, fun k h => ?_, nofun, Effect.quiet_nil⟩, ?_⟩
    · have hcounted : entry.session.handle.outbox.pending =
          entry.session.handle.outbox.waiting.length + entry.session.writer.packets.length +
            (k + 1) := h
      show entry.session.handle.outbox.pending - 1 = entry.session.handle.outbox.waiting.length +
        entry.session.writer.packets.length + k
      omega
    · simp only [closeOn, tell_nil]
  | giveUp dropped =>
    cases hinFlight : entry.session.writer.inFlight with
    | none =>
      have hidle : entry.session.writer = .idle := congrArg Writer.mk hinFlight
      refine ⟨entry.session, .request, discarded entry.session.id dropped,
        ⟨rfl, fun _ h => ⟨hidle, h⟩, fun h _ => h rfl, quiet_discarded _ _⟩, ?_⟩
      simp only [closeOn, hinFlight]
    | some inFlight =>
      refine ⟨{ entry.session.withOutbox entry.session.handle.outbox.complete with
          writer := .idle }, .request,
        Writer.failed entry.session.id inFlight.1 ++ discarded entry.session.id (dropped + 1),
        ⟨rfl, fun k h => ⟨rfl, ?_⟩, fun h _ => h rfl, ?_⟩, ?_⟩
      · have hcounted : entry.session.handle.outbox.pending =
            entry.session.handle.outbox.waiting.length + entry.session.writer.packets.length +
              k := h
        have hone : entry.session.writer.packets.length = 1 := by
          rw [Writer.packets, hinFlight]
          rfl
        show entry.session.handle.outbox.pending - 1 =
          entry.session.handle.outbox.waiting.length + 0 + k
        omega
      · rw [List.map_append]
        exact (Writer.quiet_failed _ _).append (quiet_discarded _ _)
      · simp only [closeOn, hinFlight]
  | request =>
    refine ⟨{ entry.session with handle := { entry.session.handle with closeRequested := true } },
      .mark, [], ⟨rfl, fun _ h => ⟨h, rfl⟩, fun h _ => h rfl, Effect.quiet_nil⟩, ?_⟩
    simp only [closeOn, tell_nil]
  | mark =>
    refine ⟨{ entry.session with handle := { entry.session.handle with closed := true } },
      .release, [], ⟨rfl, fun _ h => ⟨h.1, h.2, rfl⟩, fun h _ => h rfl, Effect.quiet_nil⟩, ?_⟩
    simp only [closeOn, tell_nil]
  | release => exact absurd rfl hstage

/-- **What a step of closing does**: it lets the session go, or goes on to another stage. -/
theorem closeOn_cases (s : Interplay) (l : Leaving) :
    (∃ entry cause, l = ⟨entry, cause, .release⟩) ∨
      ∃ session stage told, Goes l session stage told ∧
        s.closeOn l = (s.tell told).leave l session stage := by
  by_cases hstage : l.stage = .release
  · obtain ⟨entry, cause, stage⟩ := l
    obtain rfl : stage = .release := hstage
    exact .inl ⟨entry, cause, rfl⟩
  · exact .inr (exists_closeOn_eq s hstage)

/-- Meanwhile nothing else is begun, and the other sessions stay. -/
theorem closeOn_keeps (s : Interplay) (l : Leaving) :
    (s.closeOn l).tasks = s.tasks ∧ (s.closeOn l).hub.entries = s.hub.entries := by
  rcases closeOn_cases s l with ⟨entry, cause, rfl⟩ | ⟨session, stage, told, -, heq⟩
  · exact ⟨rfl, rfl⟩
  · rw [heq]
    exact ⟨rfl, rfl⟩

/-- No session is forgotten while one is closed. -/
theorem perm_ids_closeOn {l : Leaving} (hl : s.leaving = some l) :
    (s.closeOn l).ids.Perm s.ids := by
  rcases closeOn_cases s l with ⟨entry, cause, rfl⟩ | ⟨session, stage, told, hgoes, heq⟩
  · exact perm_ids_release hl
  · have hsame : (s.closeOn l).ids = s.ids := by
      rw [heq]
      exact ids_leave (s := s.tell told) hl hgoes.id stage
    rw [hsame]

/-- **A session that is being closed goes on to the next stage, or is let go.** -/
theorem Sane.closeOn (hs : s.Sane) {l : Leaving} (hl : s.leaving = some l) :
    (s.closeOn l).Sane := by
  rcases closeOn_cases s l with ⟨entry, cause, rfl⟩ | ⟨session, stage, told, hgoes, heq⟩
  · exact hs.release hl
  · rw [heq]
    have htold : (s.tell told).Sane := hs.alike ⟨rfl, rfl, rfl, rfl, rfl⟩
    refine htold.leave hl hgoes.id (hgoes.met _ ?_)
    rw [hgoes.id]
    exact hs.leaving l hl

end Interplay

end Hub

end WebSocket
