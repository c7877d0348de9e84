import WebSocket.Proofs.Hub.Balance

/-!
# The queues of closed sessions

When a session is closed its packets are given up first, and then its handle is told.  Whoever looks
at the handle after this is refused.  A call that has looked before adds its packet after the others
were given up: it comes back as if the packet were to be sent, and the packet stays in the queue for
ever.  As long as no call comes in between, the queue stays empty.

## Main definitions

* `Hub.Interplay.Calm` — while a session is closed, no call comes in between.
* `Hub.Interplay.emptied` — the sessions whose queues were found empty when they were closed.
* `Hub.Interplay.Settled` — nothing waits for a session that was closed.

## Main results

* `Hub.Interplay.Sane.closed_of_released` — the handle of a closed session, and what is
  pending on it.
* `Hub.Interplay.Sane.goOn_of_closed` — whoever looks only now is refused, and changes nothing.
* `Hub.Interplay.Settled.step`, `Hub.Interplay.Settled.run` — **in a calm run nothing waits for a
  session that was closed.**
-/

namespace WebSocket

namespace Hub

namespace Interplay

variable {known : List ConnectionId} {id : ConnectionId} {s t : Interplay}

/-! ### Handles of closed sessions -/

theorem Sane.handle?_of_mem (hs : s.Sane) {e : Entry} (he : e ∈ s.sessions) :
    s.handle? e.session.id = some e.session.handle := by
  cases hhandle : s.handle? e.session.id with
  | none =>
    have hnot := List.find?_eq_none.1 (Option.map_eq_none_iff.1 hhandle) e he
    simp at hnot
  | some handle => exact congrArg some (hs.handle_eq he hhandle).symm

/-- A handle that is set again changes nothing. -/
theorem Sane.setHandle_self (hs : s.Sane) {handle : Handle} (h : s.handle? id = some handle) :
    s.setHandle handle = s := by
  obtain rfl := id_of_handle? h
  have hsame : ∀ e ∈ s.sessions, touched handle e = e := by
    intro e he
    unfold touched
    split
    · next hid =>
      have hfound : s.handle? e.session.id = some handle := by rw [hid, h]
      rw [← hs.handle_eq he hfound]
    · rfl
  have hmap : ∀ l : List Entry, (∀ e ∈ l, e ∈ s.sessions) → l.map (touched handle) = l :=
    fun l hl => (List.map_congr_left fun e he => hsame e (hl e he)).trans (List.map_id l)
  have hentries := hmap s.hub.entries fun e he => mem_sessions.2 (.inl he)
  have hreleased := hmap s.hub.released fun e he => mem_sessions.2 (.inr (.inr he))
  have hhub : s.hub.setHandle handle = s.hub := by
    show { s.hub with
      entries := s.hub.entries.map (touched handle)
      released := s.hub.released.map (touched handle) } = s.hub
    rw [hentries, hreleased]
  have hleaving :
      (s.leaving.map fun l => { l with entry := touched handle l.entry }) = s.leaving := by
    cases hl : s.leaving with
    | none => rfl
    | some l =>
      have hentry := hsame l.entry (mem_sessions.2 (.inr (.inl ⟨l, hl, rfl⟩)))
      show some { l with entry := touched handle l.entry } = some l
      rw [hentry]
  unfold Interplay.setHandle
  rw [hhub, hleaving]

/-- A session that was closed: its handle says so. -/
theorem Sane.closed_of_released (hs : s.Sane) {e : Entry} (he : e ∈ s.hub.released) :
    s.handle? e.session.id = some e.session.handle ∧ e.session.handle.closed = true ∧
      e.session.handle.closeRequested = true ∧ e.session.handle.outbox.pending =
        e.session.handle.outbox.waiting.length + s.counted e.session.id := by
  obtain ⟨⟨hidle, hcounted⟩, hrequested, hclosed⟩ := hs.gone e he
  unfold Session.Counted Writer.CountsBeside at hcounted
  rw [hidle] at hcounted
  exact ⟨hs.handle?_of_mem (mem_sessions.2 (.inr (.inr he))), hclosed, hrequested, hcounted⟩

/-- A call that looks only now is refused, if its session was closed. -/
theorem Sane.goOn_of_closed (hs : s.Sane) {handle : Handle} (h : s.handle? id = some handle)
    (hclosed : handle.closed = true) {place : Nat} {m : Message}
    (hplace : s.queueings[place]? = some (id, .entered m)) :
    s.step (.goOn place) = some { s with
      queueings := s.queueings.eraseIdx place
      answers := s.answers ++ [(id, .error .closed)] } := by
  have hstep : (Queueing.entered m).step handle = (handle, .ends (.error .closed)) := by
    simp [Queueing.step, hclosed]
  show s.goOn place = _
  unfold Interplay.goOn
  simp only [hplace, Option.bind_some, h, Option.map_some, hstep, hs.setHandle_self h]
  rfl

/-- A session that was there, and is not there any more, was closed. -/
theorem Kept.exists_released (hs : s.Kept known) (hl : s.leaving = none) (hid : id ∈ known)
    (hnot : id ∉ s.hub.ids) : ∃ e ∈ s.hub.released, e.session.id = id := by
  obtain ⟨e, he, rfl⟩ := List.mem_map.1 (hs.remembered hid)
  rcases mem_sessions.1 he with hthere | ⟨l, hleaving, -⟩ | hreleased
  · exact absurd (List.mem_map_of_mem hthere) hnot
  · simp [hl] at hleaving
  · exact ⟨e, hreleased, rfl⟩

/-! ### Queues of closed sessions -/

/-- No call for a session has found it open and goes on while the session is closed and its queue
was found empty. -/
def Calm (id : ConnectionId) (s : Interplay) : Prop :=
  ∀ l, s.leaving = some l → l.entry.session.id = id → l.stage.isEmptied = true →
    ∀ q ∈ s.queueings, q.1 = id → q.2.isPast = false

/-- The sessions whose queues were found empty when they were closed. -/
def emptied (s : Interplay) : List Entry :=
  ((s.leaving.filter (·.stage.isEmptied)).map Leaving.entry).toList ++ s.hub.released

/-- Nothing waits for a session whose queue was found empty, and when it was closed no call for it
is in progress that found it open. -/
structure Settled (id : ConnectionId) (s : Interplay) : Prop where
  waiting : ∀ e ∈ s.emptied, e.session.id = id → e.session.handle.outbox.waiting = []
  calls : ∀ e ∈ s.hub.released, e.session.id = id →
    ∀ q ∈ s.queueings, q.1 = id → q.2.isPast = false

theorem mem_emptied {e : Entry} : e ∈ s.emptied ↔
    (∃ l, s.leaving = some l ∧ l.stage.isEmptied = true ∧ l.entry = e) ∨ e ∈ s.hub.released := by
  simp [emptied, Option.filter_eq_some_iff, and_assoc]

/-- As long as a session is there, its queue was not emptied. -/
theorem Sane.settled (hs : s.Sane) (hid : id ∈ s.hub.ids) : s.Settled id := by
  have hsplit : s.ids = s.hub.ids ++
      ((s.leaving.map Leaving.entry).toList ++ s.hub.released).map (·.session.id) := by
    unfold ids sessions Hub.ids
    rw [List.append_assoc, List.map_append]
  have hapart := (List.nodup_append.1 (hsplit ▸ hs.distinct)).2.2 id hid
  have hnot : ∀ e ∈ s.emptied, e.session.id ≠ id := by
    intro e he
    refine (hapart e.session.id (List.mem_map_of_mem ?_)).symm
    rcases mem_emptied.1 he with ⟨l, hl, -, rfl⟩ | hreleased
    · simp [hl]
    · exact List.mem_append_right _ hreleased
  refine ⟨fun e he heq => absurd heq (hnot e he), fun e he heq => ?_⟩
  exact absurd heq (hnot e (mem_emptied.2 (.inr he)))

theorem Settled.alike (h : s.Settled id) (hsame : s.Alike t) : t.Settled id := by
  have hemptied : t.emptied = s.emptied := by
    unfold emptied
    rw [hsame.leaving, hsame.released]
  refine ⟨hemptied ▸ h.waiting, ?_⟩
  rw [hsame.released, hsame.queueings]
  exact h.calls

theorem Settled.signal (h : s.Settled id) (serial : Nat) (f : Socket → Socket) :
    (s.signal serial f).Settled id := by
  refine ⟨fun e he => ?_, h.calls⟩
  rcases mem_emptied.1 he with ⟨l, hl, hstage, rfl⟩ | hreleased
  · obtain ⟨old, hold, rfl⟩ := Option.map_eq_some_iff.1 hl
    have hhandle : (signalled serial f old.entry).session.handle = old.entry.session.handle := by
      unfold signalled
      split <;> rfl
    intro hid
    show (signalled serial f old.entry).session.handle.outbox.waiting = []
    rw [hhandle]
    refine h.waiting old.entry (mem_emptied.2 (.inl ⟨old, hold, hstage, rfl⟩)) ?_
    exact (id_signalled serial f old.entry).symm.trans hid
  · exact h.waiting e (mem_emptied.2 (.inr hreleased))

/-- The sessions whose queues were found empty, after a handle was set. -/
theorem exists_of_mem_emptied_setHandle {handle : Handle} {e : Entry}
    (hhub : t.hub = s.hub.setHandle handle) (hleaving : t.leaving = (s.setHandle handle).leaving)
    (he : e ∈ t.emptied) : ∃ old ∈ s.emptied, touched handle old = e := by
  rcases mem_emptied.1 he with ⟨l, hl, hstage, rfl⟩ | hreleased
  · rw [hleaving] at hl
    obtain ⟨old, hold, rfl⟩ := Option.map_eq_some_iff.1 hl
    exact ⟨old.entry, mem_emptied.2 (.inl ⟨old, hold, hstage, rfl⟩), rfl⟩
  · rw [hhub] at hreleased
    obtain ⟨old, hold, rfl⟩ := List.mem_map.1 hreleased
    exact ⟨old, mem_emptied.2 (.inr hold), rfl⟩

/-- Where the queue of a session was found empty, a step of a call for it leaves its handle as it
is. -/
theorem Settled.step_eq (h : s.Settled id) (hcalm : s.Calm id) {e : Entry} (he : e ∈ s.emptied)
    (hid : e.session.id = id) {q : Queueing} (hq : (id, q) ∈ s.queueings) (handle : Handle) :
    (q.step handle).1 = handle := by
  have hnot : q.isPast = false := by
    rcases mem_emptied.1 he with ⟨l, hl, hstage, rfl⟩ | hreleased
    · exact hcalm l hl hid hstage (id, q) hq rfl
    · exact h.calls e hreleased hid (id, q) hq rfl
  cases q with
  | entered m => rfl
  | pushing p => exact absurd hnot Bool.noConfusion

/-- A handle was set that waits for as much as before, at least if its queue was found empty. -/
theorem Settled.waiting_setHandle (h : s.Settled id) (hs : s.Sane) {handle handle' : Handle}
    (hhandle : s.handle? handle'.id = some handle) (hhub : t.hub = s.hub.setHandle handle')
    (hleaving : t.leaving = (s.setHandle handle').leaving)
    (hsame : ∀ e ∈ s.emptied, e.session.id = id → handle'.id = id →
      handle'.outbox.waiting = handle.outbox.waiting) :
    ∀ e ∈ t.emptied, e.session.id = id → e.session.handle.outbox.waiting = [] := by
  intro e he hid
  obtain ⟨old, hold, rfl⟩ := exists_of_mem_emptied_setHandle hhub hleaving he
  rw [id_touched] at hid
  have hwaiting := h.waiting old hold hid
  unfold touched
  split
  · next heq =>
    have hthere : old ∈ s.sessions := by
      rcases mem_emptied.1 hold with ⟨l, hl, -, hentry⟩ | hreleased
      · exact mem_sessions.2 (.inr (.inl ⟨l, hl, hentry⟩))
      · exact mem_sessions.2 (.inr (.inr hreleased))
    have hfound := hs.handle_eq hthere (by rw [heq, hhandle])
    show handle'.outbox.waiting = []
    rw [hsame old hold hid (heq.symm.trans hid), ← hfound]
    exact hwaiting
  · exact hwaiting

theorem Settled.use (h : s.Settled id) (hs : s.Sane) {i : ConnectionId} {u : Handle.Use}
    (hu : s.use i u = some t) : t.Settled id := by
  obtain ⟨handle, handle', hhandle, rfl, hid, houtbox, -, -⟩ := exists_of_use hu
  have hfound : s.handle? handle'.id = some handle := by rw [hid, id_of_handle? hhandle, hhandle]
  refine ⟨h.waiting_setHandle hs hfound rfl rfl fun _ _ _ _ => by rw [houtbox], ?_⟩
  intro e he heq
  obtain ⟨old, hold, rfl⟩ := List.mem_map.1 he
  exact h.calls old hold ((id_touched handle' old).symm.trans heq)

theorem Settled.enter (h : s.Settled id) {i : ConnectionId} {m : Message}
    (he : s.enter i m = some t) : t.Settled id := by
  obtain ⟨handle, -, rfl⟩ := Option.map_eq_some_iff.1 he
  refine ⟨h.waiting, fun e he heq q hq hqid => ?_⟩
  rcases List.mem_append.1 hq with hold | hnew
  · exact h.calls e he heq q hold hqid
  · rw [List.mem_singleton.1 hnew]
    rfl

/-- **A call goes on, and none that found the session open while it was closed.** -/
theorem Settled.goOn (h : s.Settled id) (hs : s.Sane) (hcalm : s.Calm id) {place : Nat}
    (hgoes : s.goOn place = some t) : t.Settled id := by
  obtain ⟨⟨i, q⟩, hplace, hstep⟩ := Option.bind_eq_some_iff.1 hgoes
  obtain ⟨handle, hhandle, rfl⟩ := Option.map_eq_some_iff.1 hstep
  have hq : (i, q) ∈ s.queueings := List.mem_of_getElem? hplace
  have hid : (q.step handle).1.id = i := (q.step_spec handle).1.trans (id_of_handle? hhandle)
  constructor
  case waiting =>
    refine h.waiting_setHandle hs (hid ▸ hhandle) ?_ ?_ fun e he heq hcaller => ?_
    · cases (q.step handle).2 <;> rfl
    · cases (q.step handle).2 <;> rfl
    · obtain rfl : i = id := hid.symm.trans hcaller
      rw [h.step_eq hcalm he heq hq handle]
  case calls =>
    intro e he heq x hx hxid
    have hreleased : ((s.setHandle (q.step handle).1).left place i (q.step handle).2).hub.released =
        s.hub.released.map (touched (q.step handle).1) := by
      cases (q.step handle).2 <;> rfl
    rw [hreleased] at he
    obtain ⟨old, hold, rfl⟩ := List.mem_map.1 he
    rw [id_touched] at heq
    rcases mem_left hx with hxold | ⟨next, hgoesOn, rfl⟩
    · exact h.calls old hold heq x hxold hxid
    · -- A call that goes on found the session open, but this one was closed.
      obtain rfl : i = id := hxid
      have hnot := h.calls old hold heq (i, q) hq rfl
      obtain ⟨hfound, hclosed, -⟩ := hs.closed_of_released hold
      rw [heq, hhandle] at hfound
      obtain rfl := Option.some.inj hfound
      cases q with
      | entered m => simp [Queueing.step, hclosed] at hgoesOn
      | pushing p => exact absurd hnot Bool.noConfusion

/-- No packet is counted any more for a session that was closed in calm. -/
theorem Settled.counted_eq_zero (h : s.Settled id) {e : Entry} (he : e ∈ s.hub.released)
    (hid : e.session.id = id) : s.counted id = 0 := by
  refine List.countP_eq_zero.2 fun q hq => ?_
  by_cases hcaller : q.1 = id
  · have hnot := h.calls e he hid q hq hcaller
    obtain ⟨i, q⟩ := q
    cases q with
    | entered m => simp [Queueing.isCounted]
    | pushing p => exact absurd hnot Bool.noConfusion
  · simp [hcaller]

/-- What the loop does while no session is being closed closes none at once. -/
theorem perform_keeps (hl : s.leaving = none) (task : Task) :
    (s.perform task).queueings = s.queueings ∧ (s.perform task).hub.released = s.hub.released ∧
      ∀ l, (s.perform task).leaving = some l → l.stage.isEmptied = false := by
  have hnone : ∀ l, s.leaving = some l → l.stage.isEmptied = false := by simp [hl]
  cases task with
  | register budget =>
    cases budget with
    | zero => exact ⟨rfl, rfl, hnone⟩
    | succ budget =>
      unfold perform
      dsimp only
      split
      · exact ⟨rfl, rfl, hnone⟩
      · exact ⟨rfl, released_registerNext s.hub, hnone⟩
  | work later id parts =>
    cases parts with
    | nil => exact ⟨rfl, rfl, hnone⟩
    | cons part parts =>
      unfold perform
      dsimp only
      cases s.hub.find? id with
      | none => exact ⟨rfl, rfl, hnone⟩
      | some e =>
        dsimp only
        unfold work
        dsimp only
        cases (part.step e.session).result with
        | ok _ => exact ⟨rfl, rfl, hnone⟩
        | error cause => cases later <;> exact ⟨rfl, rfl, hnone⟩
  | beat app id =>
    unfold perform
    dsimp only
    cases s.hub.find? id with
    | none => exact ⟨rfl, rfl, hnone⟩
    | some e =>
      dsimp only
      unfold beat
      cases e.session.handle.closeRequested <;> exact ⟨rfl, rfl, hnone⟩
  | close id cause =>
    unfold perform
    dsimp only
    cases s.hub.find? id with
    | none => exact ⟨rfl, rfl, hnone⟩
    | some e =>
      refine ⟨rfl, rfl, fun l hl => ?_⟩
      obtain rfl := Option.some.inj hl
      rfl
  | drain closed dropped =>
    unfold perform
    dsimp only
    cases s.hub.waiting <;> exact ⟨rfl, rfl, hnone⟩
  | serveReady app | heartbeat app tour | closeNoted | stop tour => exact ⟨rfl, rfl, hnone⟩

/-- A session whose queue is found empty, or stays so, while it is closed. -/
theorem Settled.closeOn (h : s.Settled id) (hcalm : s.Calm id) {l : Leaving}
    (hl : s.leaving = some l) : (s.closeOn l).Settled id := by
  rcases closeOn_cases s l with ⟨entry, cause, rfl⟩ | ⟨session, stage, told, hgoes, heq⟩
  · have hentry : entry ∈ s.emptied := mem_emptied.2 (.inl ⟨_, hl, rfl, rfl⟩)
    constructor
    case waiting =>
      intro e he hid
      rcases mem_emptied.1 he with ⟨l, hnone, -⟩ | hreleased
      · exact nomatch hnone
      · rcases List.mem_append.1 hreleased with hold | hnew
        · exact h.waiting e (mem_emptied.2 (.inr hold)) hid
        · obtain rfl := List.mem_singleton.1 hnew
          exact h.waiting entry hentry hid
    case calls =>
      intro e he hid
      rcases List.mem_append.1 he with hold | hnew
      · exact h.calls e hold hid
      · obtain rfl := List.mem_singleton.1 hnew
        exact hcalm _ hl hid rfl
  · rw [heq]
    refine ⟨fun e he hid => ?_, h.calls⟩
    rcases mem_emptied.1 he with ⟨next, hnext, hemptied, rfl⟩ | hreleased
    · obtain rfl := Option.some.inj hnext
      refine hgoes.emptied (fun hbefore => ?_) hemptied
      exact h.waiting l.entry (mem_emptied.2 (.inl ⟨l, hl, hbefore, rfl⟩)) (hgoes.id ▸ hid)
    · exact h.waiting e (mem_emptied.2 (.inr hreleased)) hid

theorem Settled.proceed (h : s.Settled id) (hcalm : s.Calm id) (hp : s.proceed = some t) :
    t.Settled id := by
  unfold Interplay.proceed at hp
  split at hp
  · next l hl =>
    obtain rfl := Option.some.inj hp
    exact h.closeOn hcalm hl
  · simp at hp
  · next task tasks hl htasks =>
    obtain rfl := Option.some.inj hp
    have hbegun : ({ s with tasks } : Interplay).leaving = none := hl
    obtain ⟨hqueueings, hreleased, hleaving⟩ := perform_keeps hbegun task
    constructor
    case waiting =>
      intro e he
      rcases mem_emptied.1 he with ⟨l, hsome, hstage, -⟩ | hgone
      · rw [hleaving l hsome] at hstage
        exact absurd hstage Bool.false_ne_true
      · exact h.waiting e (mem_emptied.2 (.inr (hreleased ▸ hgone)))
    case calls =>
      rw [hqueueings, hreleased]
      exact h.calls

/-- A calm step leaves nothing behind.  One case for every move. -/
theorem Settled.step (h : s.Settled id) (hs : s.Sane) (hcalm : s.Calm id) {m : Move}
    (hstep : s.step m = some t) : t.Settled id := by
  cases m with
  | accept c =>
    obtain rfl := Option.some.inj hstep
    exact h.alike ⟨rfl, rfl, rfl, rfl, rfl⟩
  | signal serial f =>
    obtain rfl := Option.some.inj hstep
    exact h.signal serial f
  | use i u => exact h.use hs hstep
  | enter i m => exact h.enter hstep
  | goOn place => exact h.goOn hs hcalm hstep
  | begin a =>
    obtain ⟨-, -, rfl⟩ := begin_eq_some hstep
    exact h.alike ⟨rfl, rfl, rfl, rfl, rfl⟩
  | proceed => exact h.proceed hcalm hstep

/-- **In a calm run nothing waits for a session that was closed.**  The induction is on the
steps. -/
theorem Settled.run (h : s.Settled id) (hs : s.Kept known) {moves : List Move}
    (hmoves : ∀ m ∈ moves, m.Proper)
    (hcalm : ∀ front u, front <+: moves → s.run front = some u → u.Calm id)
    (hrun : s.run moves = some t) : t.Settled id := by
  induction moves generalizing s with
  | nil =>
    obtain rfl : s = t := Option.some.inj hrun
    exact h
  | cons m moves ih =>
    obtain ⟨hm, hrest⟩ := List.forall_mem_cons.1 hmoves
    obtain ⟨next, hnext, hend⟩ := exists_of_run_cons hrun
    have hnow : s.Calm id := hcalm [] s (List.nil_prefix) rfl
    refine ih (h.step hs.toSane hnow hnext) (hs.step hm hnext) hrest ?_ hend
    intro front u hfront hu
    refine hcalm (m :: front) u (List.cons_prefix_cons.2 ⟨rfl, hfront⟩) ?_
    rw [run_cons hnext]
    exact hu

end Interplay

end Hub

end WebSocket
