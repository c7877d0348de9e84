import WebSocket.Proofs.Hub.Happenings

/-!
# How many sessions there are

A tracker counts a session when it is given its number, and takes it off when it is closed.  The
sessions themselves are kept in a list.  Whatever happens to a hub, the two agree: what is closed is
taken off once, since no two sessions have one number and nobody is closed twice.

## Main definitions

* `Hub.Same` — two hubs with the same sessions.
* `Hub.Tallied` — the tracker counts the sessions that are there.

## Main results

* `Hub.tallied_close`, `Hub.tallied_registerNext` — closing and registering keep the tally right.
* `Hub.Happening.tallied_turn` — **so does everything that happens to a hub**, with any application
  that leaves numbers as they are.
* `Hub.tallied_iterate` — so does a turn of the loop.
-/

namespace WebSocket

namespace Hub

/-! ### The same sessions -/

/-- The same sessions are there, and the same are gone. -/
structure Same (h h' : Hub) : Prop where
  ids : h'.ids = h.ids
  goneIds : h'.goneIds = h.goneIds
  tracker : h'.tracker = h.tracker

theorem same_refl (h : Hub) : Same h h := ⟨rfl, rfl, rfl⟩

theorem Same.trans {h h' h'' : Hub} (a : Same h h') (b : Same h' h'') : Same h h'' :=
  ⟨b.ids.trans a.ids, b.goneIds.trans a.goneIds, b.tracker.trans a.tracker⟩

theorem same_update (h : Hub) {id : ConnectionId} {s : Session} (hs : s.id = id) :
    Same h (h.update id s) :=
  ⟨ids_update h hs, rfl, rfl⟩

theorem same_accept (h : Hub) (c : Connection) : Same h (h.accept c) := ⟨rfl, rfl, rfl⟩

theorem same_seen (h : Hub) : Same h h.seen := ⟨rfl, rfl, rfl⟩

theorem same_dropWaiting (closed : Nat) (h : Hub) : Same h (h.dropWaiting closed).hub :=
  ⟨rfl, rfl, rfl⟩

theorem same_abandonWaiting (h : Hub) : Same h h.abandonWaiting := ⟨rfl, rfl, rfl⟩

/-- What clients do leaves the same sessions. -/
theorem same_signal (h : Hub) (serial : Nat) (f : Socket → Socket) :
    Same h (h.signal serial f) := by
  refine ⟨?_, rfl, rfl⟩
  show (h.entries.map _).map _ = h.entries.map _
  rw [List.map_map]
  refine List.map_congr_left fun e _ => ?_
  show (if e.serial = serial then _ else e : Entry).session.id = e.session.id
  split <;> rfl

/-- Using a handle leaves the same sessions. -/
theorem same_setHandle (h : Hub) (handle : Handle) : Same h (h.setHandle handle) := by
  have hids : ∀ entries : List Entry, (entries.map fun e =>
      if e.session.id = handle.id then { e with session := { e.session with handle } }
      else e).map (·.session.id) = entries.map (·.session.id) := by
    intro entries
    rw [List.map_map]
    refine List.map_congr_left fun e _ => ?_
    show (if e.session.id = handle.id then _ else e : Entry).session.id = e.session.id
    split
    · next heq => exact heq.symm
    · rfl
  exact ⟨hids h.entries, hids h.released, rfl⟩

theorem same_touch (id : ConnectionId) (c : Change) (h : Hub) : Same h (h.touch id c) := by
  unfold touch
  split
  · exact same_refl h
  · next e he => exact same_update h ((c.id_apply _).trans (id_of_find? he))

theorem same_beatAll {app : App} (hkeeps : app.Keeps) (ids : List ConnectionId) (h : Hub) :
    Same h (h.beatAll app ids).1.hub := by
  obtain ⟨hids, hgone, -⟩ := ids_beatAll hkeeps ids h
  refine ⟨hids, hgone, ?_⟩
  clear hids hgone
  induction ids generalizing h with
  | nil => rfl
  | cons id ids ih =>
    refine (ih (h.beat app id).1.hub).trans ?_
    unfold beat
    split <;> rfl

/-! ### The tally -/

/-- The tracker counts the sessions that are there. -/
structure Tallied (h : Hub) : Prop where
  sound : h.Sound
  active : h.tracker.active = h.entries.length

theorem tallied_new (settings : SessionSettings) : (new settings).Tallied :=
  ⟨sound_new settings, rfl⟩

theorem length_ids (h : Hub) : h.ids.length = h.entries.length := List.length_map _

theorem Same.tallied {h h' : Hub} (hs : Same h h') (ht : h.Tallied) : h'.Tallied where
  sound := by
    refine ⟨?_, ?_, ?_⟩
    · rw [hs.ids]
      exact ht.sound.nodup
    · rw [hs.ids, hs.goneIds]
      exact ht.sound.gone
    · rw [hs.ids, hs.goneIds, hs.tracker]
      exact ht.sound.bound
  active := by rw [hs.tracker, ht.active, ← length_ids, ← length_ids, hs.ids]

/-- There is one session less. -/
theorem length_ids_close {h : Hub} (hs : h.Sound) {id : ConnectionId} (hid : id ∈ h.ids)
    (cause : CloseCause) : (close id cause h).hub.ids.length + 1 = h.ids.length := by
  have herase : h.ids.filter (· ≠ id) = h.ids.erase id := by
    rw [hs.nodup.erase_eq_filter]
    refine List.filter_congr fun i _ => ?_
    simp [bne, Bool.beq_eq_decide_eq]
  rw [ids_close, herase, List.length_erase_of_mem hid]
  have hpos : 0 < h.ids.length := List.length_pos_of_mem hid
  omega

theorem close_of_none {h : Hub} {id : ConnectionId} (hf : h.find? id = none)
    (cause : CloseCause) : close id cause h = ⟨h, []⟩ := by
  unfold close
  rw [hf]

theorem tracker_close {h : Hub} {id : ConnectionId} {e : Entry} (hf : h.find? id = some e)
    (cause : CloseCause) : (close id cause h).hub.tracker = h.tracker.release := by
  unfold close
  rw [hf]

/-- **A session that is closed is taken off the tally**, and one that is not there is not. -/
theorem tallied_close {h : Hub} (ht : h.Tallied) (id : ConnectionId) (cause : CloseCause) :
    (close id cause h).hub.Tallied where
  sound := (grows_close id cause h).sound ht.sound
  active := by
    cases hf : h.find? id with
    | none =>
      rw [close_of_none hf]
      exact ht.active
    | some e =>
      have hless := length_ids_close ht.sound (mem_ids.2 ⟨e, hf⟩) cause
      have hactive := ht.active
      rw [← length_ids] at hactive ⊢
      rw [tracker_close hf]
      show h.tracker.active - 1 = _
      omega

/-- **A session that is opened is tallied**, and a connection that cannot be registered is not. -/
theorem tallied_registerNext {h : Hub} (ht : h.Tallied) : h.registerNext.hub.Tallied where
  sound := (grows_registerNext h).sound ht.sound
  active := by
    have hactive := ht.active
    unfold registerNext
    split
    · exact hactive
    · next c waiting _ =>
      cases hrefusal : c.refusal with
      | some detail => exact hactive
      | none =>
        show h.tracker.active + 1 = (h.entries ++ [_]).length
        rw [List.length_append, hactive]
        rfl

/-- Work on several items, each of which keeps the tally right. -/
theorem tallied_forEach {α : Type} {work : α → Hub → Turn}
    (hwork : ∀ a h, h.Tallied → (work a h).hub.Tallied) (items : List α) {t : Turn}
    (ht : t.hub.Tallied) : (t.forEach items work).hub.Tallied := by
  induction items generalizing t with
  | nil => exact ht
  | cons a items ih => exact ih (t := t.andThen (work a)) (hwork a t.hub ht)

theorem tallied_stopIn {h : Hub} (ht : h.Tallied) (ids : List ConnectionId) :
    (h.stopIn ids).hub.Tallied := by
  have hclosed : ((Turn.start h).forEach ids fun id => close id .shutdown).hub.Tallied :=
    tallied_forEach (fun id h ht => tallied_close ht id .shutdown) ids ht
  exact (same_dropWaiting ids.length _).tallied hclosed

/-- Sessions that are lost with their loop are taken off the tally, too. -/
theorem tallied_lose {h : Hub} (ht : h.Tallied) : h.lose.hub.Tallied where
  sound := by
    have hids : h.lose.hub.ids = [] := rfl
    have hgone : h.lose.hub.goneIds = h.goneIds ++ h.ids := by
      show (h.released ++ h.entries.map _).map _ = h.released.map _ ++ h.entries.map _
      rw [List.map_append, List.map_map]
      rfl
    refine ⟨hids ▸ .nil, ?_, ?_⟩
    · rw [hids]
      exact fun id _ => List.not_mem_nil
    · rw [hids, hgone]
      intro id hid
      refine ht.sound.bound id ?_
      rw [List.nil_append, List.mem_append] at hid
      exact List.mem_append.2 hid.symm
  active := by
    show h.tracker.active - h.entries.length = 0
    rw [ht.active, Nat.sub_self]

/-- **Whatever happens to a hub, the tally stays right.** -/
theorem Happening.tallied_turn {x : Happening} (hkeeps : ∀ app, x.app? = some app → app.Keeps)
    {h : Hub} (ht : h.Tallied) : (x.turn h).hub.Tallied := by
  cases x with
  | register => exact tallied_registerNext ht
  | ready app readable id =>
    show (h.serve app readable id).hub.Tallied
    cases hf : h.find? id with
    | none =>
      rw [serve_of_none hf]
      exact ht
    | some e =>
      obtain ⟨_, hstep⟩ := Session.exists_renames_serve (hkeeps app rfl) e.session readable
      have hserved := (same_update h (hstep.id.trans (id_of_find? hf))).tallied ht
      cases hr : (e.session.serve app readable).result with
      | ok =>
        rw [serve_of_ok hf hr]
        exact hserved
      | error cause =>
        rw [serve_of_error hf hr]
        exact tallied_close hserved id (.failed cause)
  | heartbeat app tour =>
    have hbeaten := (same_beatAll (hkeeps app rfl) (tour.order h.ids) h).tallied ht
    exact tallied_forEach (fun (a : ConnectionId × CloseCause) h ht => tallied_close ht a.1 a.2) _
      hbeaten
  | change id c => exact (same_touch id c h).tallied ht
  | stop tour => exact tallied_stopIn ht _

/-- So does the tally of a run.  The induction is on what happens. -/
theorem Record.tallied_run {xs : List Happening}
    (hkeeps : ∀ x ∈ xs, ∀ app, x.app? = some app → app.Keeps) {r : Record} (ht : r.hub.Tallied) :
    (r.run xs).hub.Tallied := by
  induction xs generalizing r with
  | nil => exact ht
  | cons x xs ih =>
    obtain ⟨hx, hxs⟩ := List.forall_mem_cons.1 hkeeps
    exact ih hxs (r := r.next x) (x.tallied_turn hx ht)

/-- **So does a turn of the loop.** -/
theorem tallied_iterate {app : App} (hkeeps : app.Keeps) (registrations : Nat) (due : Bool)
    {h : Hub} (ht : h.Tallied) : (h.iterate app registrations due).hub.Tallied := by
  obtain ⟨xs, happ, heq⟩ := exists_run_iterate app registrations due h
  have hrun : (h.run xs).hub.Tallied := by
    refine Record.tallied_run (fun x hx a ha => ?_) ht
    rw [happ x hx a ha]
    exact hkeeps
  rw [heq]
  exact (same_seen _).tallied hrun

end Hub

end WebSocket
