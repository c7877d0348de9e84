import Mathlib.Algebra.BigOperators.Group.Finset.Basic
import Mathlib.Data.Fintype.OfMap
import WebSocket.Proofs.Hub.Standing

/-!
# The books of a hub

A tracker counts a session when it is given its number, and takes it off when its socket is
released.  Besides, the loop moves a counter when a session is opened, one when it is closed because
its client broke the protocol, and one for the reason when it was closed.  All this happens at
different moments; but after every step tracker and counters agree with where the sessions stand.

## Main definitions

* `Notice.totalClosed` — how many sessions were closed, for whatever reason.
* `Hub.Interplay.Books` — what tracker and counters tell of the connections that were taken.
* `Hub.Interplay.Kept` — the sessions are sane, the books are right, and nobody is forgotten.

## Main results

* `Hub.Interplay.Books.registerNext`, `Hub.Interplay.Books.remove`, `Hub.Interplay.Books.release` —
  the steps at which the books move.
* `Hub.Interplay.Kept.step`, `Hub.Interplay.Kept.run` — **every step keeps the sessions sane and the
  books right**, and so does every run.
-/

namespace WebSocket

instance : Fintype CloseReason :=
  .ofList [.requested, .shutdown, .ioError, .peerClosed, .protocolError, .outboundOverflow, .closed,
    .panic] fun reason => by cases reason <;> simp

namespace Notice

/-- How many sessions were closed, for whatever reason. -/
def totalClosed (notices : List Notice) : Nat :=
  ∑ reason : CloseReason, total (.sessionsClosed reason) notices

@[simp] theorem totalClosed_append (xs ys : List Notice) :
    totalClosed (xs ++ ys) = totalClosed xs + totalClosed ys := by
  unfold totalClosed
  rw [← Finset.sum_add_distrib]
  exact Finset.sum_congr rfl fun reason _ => total_append ..

/-- A session that was closed is counted for one reason. -/
theorem totalClosed_count (reason : CloseReason) (n : Nat) :
    totalClosed [.count (.sessionsClosed reason) n] = n := by
  unfold totalClosed
  rw [Finset.sum_eq_single reason]
  · show (if _ then n else 0) + 0 = n
    rw [if_pos rfl]
    rfl
  · intro other _ hne
    show (if _ then n else 0) + 0 = 0
    rw [if_neg fun heq => hne (Counter.sessionsClosed.inj heq).symm]
  · exact fun hout => absurd (Finset.mem_univ _) hout

theorem totalClosed_of_quiet {effects : List Effect} (h : Effect.Quiet effects) :
    totalClosed (Effect.notices effects) = 0 :=
  Finset.sum_eq_zero fun reason _ => h.total (.sessionsClosed reason) rfl

end Notice

namespace Session

/-- Of the counters of sessions, a farewell moves that of broken protocols, and only when it is for
that reason. -/
theorem total_farewell (s : Session) (cause : CloseCause) (c : Counter) :
    Notice.total c (s.farewell cause) =
      if c = .protocolErrors ∧ cause.reason = .protocolError then 1 else 0 := by
  cases cause with
  | requested | shutdown =>
    symm
    refine if_neg ?_
    rintro ⟨-, hreason⟩
    simp [CloseCause.reason] at hreason
  | failed e =>
    cases e with
    | protocol _ | bufferFull _ =>
      show (if Counter.protocolErrors = c then 1 else 0) + 0 = _
      simp [CloseCause.reason, SessionError.reason, eq_comm]
    | io _ | peerClosed | outboxFull _ | writeZero | closed | panicked _ =>
      symm
      refine if_neg ?_
      rintro ⟨-, hreason⟩
      simp [CloseCause.reason, SessionError.reason] at hreason

end Session

namespace Hub

/-- Of some connections, those that could not be registered. -/
def refused (taken : List Connection) : List Connection := taken.filter (·.refusal.isSome)

namespace Interplay

variable {s : Interplay}

/-! ### The books -/

/-- How many sessions are being closed because the client broke the protocol: they are counted for
this already, and not yet among the sessions that were closed. -/
def blamed (s : Interplay) : Nat :=
  s.leaving.toList.countP fun l => l.cause.reason = .protocolError

theorem blamed_of_none (hl : s.leaving = none) : s.blamed = 0 := by
  unfold blamed
  rw [hl]
  rfl

theorem blamed_of_leaving {l : Leaving} (hl : s.leaving = some l) :
    s.blamed = if l.cause.reason = .protocolError then 1 else 0 := by
  unfold blamed
  rw [hl]
  exact (List.countP_singleton ..).trans (if_congr decide_eq_true_iff rfl rfl)

/-- What tracker and counters tell of the connections that were taken. -/
structure Books (s : Interplay) : Prop where
  /-- The tracker has counted the connections that were taken. -/
  tracked : s.taken.length = s.hub.tracker.opened
  /-- Each of them was opened or could not be registered. -/
  registered : s.taken.length = s.count .sessionsOpened + (refused s.taken).length
  /-- Each session that was opened is counted by the tracker or was closed. -/
  opened : s.count .sessionsOpened =
    s.hub.tracker.active + Notice.totalClosed (Effect.notices s.effects)
  protocol : s.count .protocolErrors = s.count (.sessionsClosed .protocolError) + s.blamed

theorem books_new (settings : SessionSettings) : (new settings).Books := ⟨rfl, rfl, rfl, rfl⟩

/-- A step that told as much as it did. -/
theorem Books.step (hb : s.Books) {t : Interplay} (taken : List Connection) {told : List Effect}
    (htaken : t.taken = s.taken ++ taken) (heffects : t.effects = s.effects ++ told)
    (htracked : t.hub.tracker.opened = s.hub.tracker.opened + taken.length)
    (hopened : taken.length =
      Notice.total .sessionsOpened (Effect.notices told) + (refused taken).length)
    (hbalance : s.hub.tracker.active + Notice.total .sessionsOpened (Effect.notices told) =
      t.hub.tracker.active + Notice.totalClosed (Effect.notices told))
    (hprotocol : Notice.total .protocolErrors (Effect.notices told) + s.blamed =
      Notice.total (.sessionsClosed .protocolError) (Effect.notices told) + t.blamed) :
    t.Books := by
  have hcount : ∀ c, t.count c = s.count c + Notice.total c (Effect.notices told) := by
    intro c
    unfold Ledger.count
    rw [heffects, Effect.notices_append, Notice.total_append]
  have hrefused : (refused t.taken).length = (refused s.taken).length + (refused taken).length := by
    unfold refused
    rw [htaken, List.filter_append, List.length_append]
  have hclosed : Notice.totalClosed (Effect.notices t.effects) =
      Notice.totalClosed (Effect.notices s.effects) + Notice.totalClosed (Effect.notices told) := by
    rw [heffects, Effect.notices_append, Notice.totalClosed_append]
  have htotal : t.taken.length = s.taken.length + taken.length := by
    rw [htaken, List.length_append]
  have := hb.tracked
  have := hb.registered
  have := hb.opened
  have := hb.protocol
  constructor
  case tracked => omega
  case registered =>
    rw [hcount]
    omega
  case opened =>
    rw [hcount]
    omega
  case protocol =>
    rw [hcount, hcount]
    omega

/-- A step that is of no interest to the books. -/
theorem Books.quiet (hb : s.Books) {t : Interplay} {told : List Effect}
    (htaken : t.taken = s.taken) (heffects : t.effects = s.effects ++ told)
    (htold : Effect.Quiet told) (htracker : t.hub.tracker = s.hub.tracker)
    (hblamed : t.blamed = s.blamed) : t.Books := by
  refine hb.step [] ?_ heffects (congrArg _ htracker) ?_ ?_ ?_
  · rw [htaken, List.append_nil]
  · rw [htold.total .sessionsOpened rfl]
    rfl
  · rw [htold.total .sessionsOpened rfl, Notice.totalClosed_of_quiet htold, htracker]
  · rw [htold.total .protocolErrors rfl, htold.total (.sessionsClosed .protocolError) rfl, hblamed]

/-- A step that tells nothing. -/
theorem Books.silent (hb : s.Books) {t : Interplay} (htaken : t.taken = s.taken)
    (heffects : t.effects = s.effects) (htracker : t.hub.tracker = s.hub.tracker)
    (hblamed : t.blamed = s.blamed) : t.Books :=
  hb.quiet htaken (heffects.trans (List.append_nil _).symm) Effect.quiet_nil htracker hblamed

theorem Books.signal (hb : s.Books) (serial : Nat) (f : Socket → Socket) :
    (s.signal serial f).Books := by
  refine hb.silent rfl rfl rfl ?_
  show (s.leaving.map _).toList.countP _ = _
  unfold blamed
  cases s.leaving <;> rfl

/-- **A connection that is registered is counted as opened, and one that cannot be is not.** -/
theorem Books.registerNext (hb : s.Books) (hw : s.hub.waiting ≠ []) : s.registerNext.Books := by
  obtain ⟨c, waiting, hwaiting⟩ := List.exists_cons_of_ne_nil hw
  have htake : s.hub.waiting.take 1 = [c] := by rw [hwaiting]; rfl
  unfold Interplay.registerNext
  rw [htake]
  cases hrefusal : c.refusal with
  | some detail =>
    have hone : refused [c] = [c] := by simp [refused, hrefusal]
    rw [registerNext_of_refused hwaiting hrefusal]
    refine hb.step [c] rfl rfl rfl ?_ ?_ rfl
    · rw [hone]
      rfl
    · exact (Nat.add_sub_cancel s.hub.tracker.active 1).symm
  | none =>
    have hnone : refused [c] = [] := by simp [refused, hrefusal]
    obtain ⟨session, ready, -, -, hturn⟩ := registerNext_of_fit hwaiting hrefusal
    rw [hturn]
    refine hb.step [c] rfl rfl rfl ?_ ?_ rfl
    · rw [hnone]
      rfl
    · rw [show Notice.totalClosed _ = 0 from Finset.sum_eq_zero fun _ _ => rfl]
      rfl

/-- A session that is taken out of the hub is still counted by the tracker, and was not closed. -/
theorem Books.remove (hb : s.Books) (hl : s.leaving = none) (e : Entry) (cause : CloseCause) :
    (s.remove e cause).Books := by
  have hsilent : ∀ c, c ≠ .protocolErrors → Notice.total c (e.session.farewell cause) = 0 := by
    intro c hc
    rw [Session.total_farewell]
    exact if_neg fun habs => hc habs.1
  have hopened := hsilent .sessionsOpened (by simp)
  have hclosed : ∀ reason, Notice.total (.sessionsClosed reason) (e.session.farewell cause) = 0 :=
    fun reason => hsilent (.sessionsClosed reason) (by simp)
  refine hb.step [] (List.append_nil _).symm rfl rfl ?_ ?_ ?_
  · rw [Effect.notices_notice, hopened]
    rfl
  · rw [Effect.notices_notice, hopened]
    unfold Notice.totalClosed
    rw [Finset.sum_eq_zero fun reason _ => hclosed reason]
    rfl
  · rw [Effect.notices_notice, hclosed, Session.total_farewell, blamed_of_none hl,
      blamed_of_leaving (s := s.remove e cause) rfl]
    simp

/-- **A session that is let go is counted as closed, once, and the tracker counts it no more.** -/
theorem Books.release (hb : s.Books) (hs : s.Sane) {entry : Entry} {cause : CloseCause}
    (hl : s.leaving = some ⟨entry, cause, .release⟩) :
    (s.closeOn ⟨entry, cause, .release⟩).Books := by
  have hactive : s.hub.tracker.active = s.hub.entries.length + 1 := by
    rw [hs.active, hl]
    rfl
  have hclosed : Notice.totalClosed (Effect.notices
      [.notice (.log (.sessionReleased entry.session.id)),
        .notice (.count (.sessionsClosed cause.reason) 1),
        .notice (.gauge .sessionsActive s.hub.tracker.release.active)]) = 1 :=
    Notice.totalClosed_count cause.reason 1
  refine hb.step [] (List.append_nil _).symm rfl rfl rfl ?_ ?_
  · rw [hclosed]
    show s.hub.tracker.active + 0 = s.hub.tracker.active - 1 + 1
    omega
  · rw [blamed_of_leaving hl]
    show 0 + (if cause.reason = _ then 1 else 0) =
      ((if Counter.sessionsClosed cause.reason = _ then 1 else 0) + 0) + 0
    simp

/-- Nothing else that happens while a session is closed is of interest to the books. -/
theorem Books.closeOn (hb : s.Books) (hs : s.Sane) {l : Leaving} (hl : s.leaving = some l) :
    (s.closeOn l).Books := by
  rcases closeOn_cases s l with ⟨entry, cause, rfl⟩ | ⟨session, stage, told, hgoes, heq⟩
  · exact hb.release hs hl
  · rw [heq]
    refine hb.quiet rfl rfl hgoes.quiet rfl ?_
    rw [blamed_of_leaving hl]
    exact blamed_of_leaving (l := l.next session stage) rfl

end Interplay

/-! ### Every step -/

/-- The application at work, if there is one. -/
def Part.Proper : Part → Prop
  | read app | redrive app => app.Proper
  | write | updateInterest => True

/-- The applications at work change a session only through its handle, and do not move the counters
of sessions. -/
def Task.Proper : Task → Prop
  | serveReady app | heartbeat app _ | beat app _ => app.Proper
  | work _ _ parts => ∀ part ∈ parts, part.Proper
  | register _ | closeNoted | close .. | stop _ | drain .. => True

theorem Part.modest_step {part : Part} (hp : part.Proper) {s : Session} {k : Nat}
    (hs : s.Counted k) : (part.step s).Modest s.id k := by
  cases part with
  | read app => exact Session.modest_onReadable hp hs
  | redrive app => exact Session.modest_redrive hp hs
  | write => exact Session.modest_onWritable hs
  | updateInterest => exact Session.modest_updateInterest hs

theorem Part.proper_onReady {app : App} (hp : app.Proper) (readable : Bool) :
    ∀ part ∈ onReady app readable, part.Proper := by
  cases readable <;> simp [onReady, Part.Proper, hp]

theorem Act.proper_tasks {a : Act} (ha : a.Proper) : ∀ t ∈ a.tasks, t.Proper := by
  cases a with
  | serve app readable id =>
    intro t ht
    obtain rfl := List.mem_singleton.1 ht
    exact Part.proper_onReady (ha app rfl) readable
  | heartbeat app tour =>
    intro t ht
    obtain rfl := List.mem_singleton.1 ht
    exact ha app rfl
  | iterate app registrations due =>
    have happ := ha app rfl
    cases due <;> simp [tasks, Task.Proper, happ]
  | register budget | close id cause | stop tour => simp [tasks, Task.Proper]

namespace Interplay

/-- The sessions are sane, the books are right, whoever works is proper, and none of the sessions
`known` is forgotten. -/
structure Kept (known : List ConnectionId) (s : Interplay) : Prop extends Sane s, Books s where
  proper : ∀ t ∈ s.tasks, t.Proper
  remembered : known ⊆ s.ids

theorem kept_new (settings : SessionSettings) : (new settings).Kept [] where
  toSane := sane_new settings
  toBooks := books_new settings
  proper := by simp [new]
  remembered := List.nil_subset _

variable {known : List ConnectionId} {s t : Interplay}

/-- From now on the sessions that there are may not be forgotten. -/
theorem Kept.since (hs : s.Kept known) : s.Kept s.ids :=
  ⟨hs.toSane, hs.toBooks, hs.proper, List.Subset.refl _⟩

/-- A step after which the same sessions stand where they stood, and which is of no interest to the
books. -/
theorem Kept.alike (hs : s.Kept known) (h : s.Alike t) {told : List Effect}
    (htaken : t.taken = s.taken) (heffects : t.effects = s.effects ++ told)
    (htold : Effect.Quiet told) (hproper : ∀ task ∈ t.tasks, task.Proper) : t.Kept known where
  toSane := hs.toSane.alike h
  toBooks := by
    refine hs.toBooks.quiet htaken heffects htold h.tracker ?_
    unfold blamed
    rw [h.leaving]
  proper := hproper
  remembered := h.ids ▸ hs.remembered

/-- Such a step that tells nothing. -/
theorem Kept.silent (hs : s.Kept known) (h : s.Alike t) (htaken : t.taken = s.taken)
    (heffects : t.effects = s.effects) (hproper : ∀ task ∈ t.tasks, task.Proper) : t.Kept known :=
  hs.alike h htaken (heffects.trans (List.append_nil _).symm) Effect.quiet_nil hproper

theorem Kept.push (hs : s.Kept known) {tasks : List Task} (ht : ∀ t ∈ tasks, t.Proper) :
    (s.push tasks).Kept known := by
  refine hs.silent ⟨rfl, rfl, rfl, rfl, rfl⟩ rfl rfl fun t hmem => ?_
  rcases List.mem_append.1 hmem with hnew | hold
  · exact ht t hnew
  · exact hs.proper t hold

theorem Kept.note (hs : s.Kept known) (id : ConnectionId) (cause : CloseCause) :
    (s.note id cause).Kept known :=
  hs.silent ⟨rfl, rfl, rfl, rfl, rfl⟩ rfl rfl hs.proper

/-- A session replaced by itself after some work. -/
theorem Kept.update (hs : s.Kept known) {e : Entry} {α : Type} {st : Session.Step α}
    (hst : st.Modest e.session.id (s.counted e.session.id)) :
    (s.did ⟨s.hub.update e.session.id st.session, st.effects⟩).Kept known where
  toSane := hs.toSane.update hst
  toBooks := hs.toBooks.quiet rfl rfl hst.quiet rfl rfl
  proper := hs.proper
  remembered := (ids_updated s hst.id st.effects) ▸ hs.remembered

theorem Kept.work (hs : s.Kept known) (later : Bool) {e : Entry} (he : e ∈ s.hub.entries)
    {part : Part} {parts : List Part} (hp : ∀ p ∈ part :: parts, p.Proper) :
    (s.work later e part parts).Kept known := by
  obtain ⟨hpart, hparts⟩ := List.forall_mem_cons.1 hp
  have hdone := hs.update (Part.modest_step hpart (hs.there e he))
  unfold Interplay.work
  dsimp only
  cases (part.step e.session).result with
  | ok _ => exact hdone.push (by simpa [Task.Proper] using hparts)
  | error cause =>
    cases later with
    | true => exact hdone.note _ _
    | false => exact hdone.push (by simp [Task.Proper])

theorem Kept.beat (hs : s.Kept known) {app : App} (hp : app.Proper) {e : Entry}
    (he : e ∈ s.hub.entries) : (s.beat app e).Kept known := by
  unfold Interplay.beat
  dsimp only
  cases e.session.handle.closeRequested with
  | true => exact (hs.update (Session.modest_onHeartbeat hp (hs.there e he))).note _ _
  | false => exact hs.push (by simp [Task.Proper, Part.Proper, hp])

theorem Kept.registerNext (hs : s.Kept known) (hw : s.hub.waiting ≠ []) :
    s.registerNext.Kept known where
  toSane := hs.toSane.registerNext hw
  toBooks := hs.toBooks.registerNext hw
  proper := hs.proper
  remembered := List.Subset.trans hs.remembered (subset_ids_registerNext hw)

theorem Kept.remove (hs : s.Kept known) {e : Entry} (hl : s.leaving = none)
    (hf : s.hub.find? e.session.id = some e) (cause : CloseCause) :
    (s.remove e cause).Kept known where
  toSane := hs.toSane.remove hl hf cause
  toBooks := hs.toBooks.remove hl e cause
  proper := hs.proper
  remembered :=
    List.Subset.trans hs.remembered (perm_ids_remove hs.toSane hl hf cause).symm.subset

/-- **The next step towards something that the loop has to do keeps the sessions sane and the books
right.** -/
theorem Kept.perform (hs : s.Kept known) (hl : s.leaving = none) {task : Task} (ht : task.Proper) :
    (s.perform task).Kept known := by
  cases task with
  | register budget =>
    cases budget with
    | zero => exact hs
    | succ budget =>
      unfold Interplay.perform
      dsimp only
      cases hw : s.hub.waiting with
      | nil => exact hs
      | cons c waiting =>
        have hnext := hs.registerNext (hw ▸ List.cons_ne_nil c waiting)
        exact hnext.push (by simp [Task.Proper])
  | serveReady app =>
    have hseen : ({ s with hub := s.hub.seen } : Interplay).Kept known :=
      hs.silent ⟨rfl, rfl, rfl, rfl, rfl⟩ rfl rfl hs.proper
    refine hseen.push fun t hmem => ?_
    obtain ⟨id, -, rfl⟩ := List.mem_map.1 hmem
    exact Part.proper_onReady ht true
  | work later id parts =>
    cases parts with
    | nil => exact hs
    | cons part parts =>
      unfold Interplay.perform
      dsimp only
      cases hf : s.hub.find? id with
      | none => exact hs
      | some e => exact hs.work later (mem_of_find? hf) ht
  | heartbeat app tour =>
    refine hs.push fun t hmem => ?_
    rcases List.mem_append.1 hmem with hbeat | hlast
    · obtain ⟨id, -, rfl⟩ := List.mem_map.1 hbeat
      exact ht
    · obtain rfl := List.mem_singleton.1 hlast
      trivial
  | beat app id =>
    unfold Interplay.perform
    dsimp only
    cases hf : s.hub.find? id with
    | none => exact hs
    | some e => exact hs.beat ht (mem_of_find? hf)
  | closeNoted =>
    have hcleared : ({ s with noted := [] } : Interplay).Kept known :=
      hs.silent ⟨rfl, rfl, rfl, rfl, rfl⟩ rfl rfl hs.proper
    refine hcleared.push fun t hmem => ?_
    obtain ⟨_, -, rfl⟩ := List.mem_map.1 hmem
    trivial
  | close id cause =>
    unfold Interplay.perform
    dsimp only
    cases hf : s.hub.find? id with
    | none => exact hs
    | some e =>
      obtain rfl : e.session.id = id := id_of_find? hf
      exact hs.remove hl hf cause
  | stop tour =>
    refine hs.push fun t hmem => ?_
    rcases List.mem_append.1 hmem with hclose | hlast
    · obtain ⟨id, -, rfl⟩ := List.mem_map.1 hclose
      trivial
    · obtain rfl := List.mem_singleton.1 hlast
      trivial
  | drain closed dropped =>
    unfold Interplay.perform
    dsimp only
    cases s.hub.waiting with
    | nil => exact hs.alike ⟨rfl, rfl, rfl, rfl, rfl⟩ rfl rfl (Effect.quiet_log _) hs.proper
    | cons c waiting =>
      have hdropped : (s.drop c waiting).Kept known :=
        hs.silent ⟨rfl, rfl, rfl, rfl, rfl⟩ rfl rfl hs.proper
      exact hdropped.push (by simp [Task.Proper])

theorem Kept.closeOn (hs : s.Kept known) {l : Leaving} (hl : s.leaving = some l) :
    (s.closeOn l).Kept known where
  toSane := hs.toSane.closeOn hl
  toBooks := hs.toBooks.closeOn hs.toSane hl
  proper := by
    rw [(closeOn_keeps s l).1]
    exact hs.proper
  remembered := List.Subset.trans hs.remembered (perm_ids_closeOn hl).symm.subset

theorem Kept.proceed (hs : s.Kept known) (h : s.proceed = some t) : t.Kept known := by
  unfold Interplay.proceed at h
  split at h
  · next l hl =>
    obtain rfl := Option.some.inj h
    exact hs.closeOn hl
  · simp at h
  · next task tasks hl htasks =>
    obtain rfl := Option.some.inj h
    have hproper := htasks ▸ hs.proper
    obtain ⟨htask, hrest⟩ := List.forall_mem_cons.1 hproper
    have hbegun : ({ s with tasks } : Interplay).Kept known :=
      hs.silent ⟨rfl, rfl, rfl, rfl, rfl⟩ rfl rfl hrest
    exact hbegun.perform hl htask

/-- The handle of a session changed, which is of no interest to the books. -/
theorem Kept.setHandle (hs : s.Kept known) (handle : Handle) (hsane : t.Sane)
    (hledger : t.toLedger = (s.setHandle handle).toLedger)
    (hleaving : t.leaving = (s.setHandle handle).leaving) (htasks : t.tasks = s.tasks) :
    t.Kept known where
  toSane := hsane
  toBooks := by
    have hblamed : t.blamed = s.blamed := by
      unfold blamed
      rw [hleaving]
      show (s.leaving.map _).toList.countP _ = _
      cases s.leaving <;> rfl
    refine hs.toBooks.silent ?_ ?_ ?_ hblamed <;> rw [hledger] <;> rfl
  proper := htasks ▸ hs.proper
  remembered := by
    have hids : t.ids = s.ids := by
      rw [← ids_setHandle s handle]
      unfold ids sessions
      rw [hledger, hleaving]
    exact hids ▸ hs.remembered

/-- **Every step keeps the sessions sane and the books right.**  One case for every move. -/
theorem Kept.step (hs : s.Kept known) {m : Move} (hm : m.Proper) (h : s.step m = some t) :
    t.Kept known := by
  cases m with
  | accept c =>
    obtain rfl := Option.some.inj h
    exact hs.silent ⟨rfl, rfl, rfl, rfl, rfl⟩ rfl rfl hs.proper
  | signal serial f =>
    obtain rfl := Option.some.inj h
    exact ⟨hs.toSane.signal serial f, hs.toBooks.signal serial f, hs.proper,
      ids_signal s serial f ▸ hs.remembered⟩
  | use id u =>
    have hsane := hs.toSane.use h
    obtain ⟨handle, handle', -, rfl, -⟩ := exists_of_use h
    exact hs.setHandle handle' hsane rfl rfl rfl
  | enter id m =>
    have hsane := hs.toSane.enter h
    obtain ⟨handle, -, rfl⟩ := Option.map_eq_some_iff.1 h
    exact ⟨hsane, hs.toBooks.silent rfl rfl rfl rfl, hs.proper, hs.remembered⟩
  | goOn place =>
    have hsane := hs.toSane.goOn h
    obtain ⟨⟨id, q⟩, -, hstep⟩ := Option.bind_eq_some_iff.1 h
    obtain ⟨handle, -, rfl⟩ := Option.map_eq_some_iff.1 hstep
    refine hs.setHandle (q.step handle).1 hsane ?_ ?_ ?_ <;> cases (q.step handle).2 <;> rfl
  | begin a =>
    obtain ⟨-, -, rfl⟩ := begin_eq_some h
    exact hs.silent ⟨rfl, rfl, rfl, rfl, rfl⟩ rfl rfl (Act.proper_tasks hm)
  | proceed => exact hs.proceed h

/-- So does every run.  The induction is on the steps. -/
theorem Kept.run (hs : s.Kept known) {moves : List Move} (hmoves : ∀ m ∈ moves, m.Proper)
    (h : s.run moves = some t) : t.Kept known := by
  induction moves generalizing s with
  | nil =>
    obtain rfl : s = t := Option.some.inj h
    exact hs
  | cons m moves ih =>
    obtain ⟨hm, hrest⟩ := List.forall_mem_cons.1 hmoves
    obtain ⟨next, hnext, hend⟩ := exists_of_run_cons h
    exact ih (hs.step hm hnext) hrest hend

end Interplay

end Hub

end WebSocket
