import WebSocket.Hub
import WebSocket.Proofs.Session.Renaming

/-!
# What happens to a hub

Between its turns and within them a hub sees one thing after another: a connection is registered, a
socket is ready, a heartbeat is due, somebody uses the handle of a session, the loop ends.  A
heartbeat visits the sessions in any order, and so does the end.

## Main definitions

* `Hub.Tour`, `Hub.Change`, `Hub.Happening` — what may happen.
* `Hub.Happening.turn`, `Hub.Happening.closings` — what a hub does then, and whom it closes.
* `Hub.Record`, `Hub.run` — all of it, one after the other.
* `Hub.Sound` — no two sessions of a hub have one number, and none has a number still to be given.

## Main results

* `Hub.exists_run_iterate` — a turn of the loop is such a run.
* `Hub.Record.grows_run` — **numbers stay sound.**
* `Hub.Happening.goneIds_turn` — **exactly the sessions that are said to be closed are gone.**
-/

namespace WebSocket

namespace Hub

/-- An order in which sessions are visited. -/
structure Tour where
  order : List ConnectionId → List ConnectionId
  perm (ids : List ConnectionId) : (order ids).Perm ids

/-- The order of registration. -/
def Tour.registered : Tour := ⟨id, fun _ => .refl _⟩

/-- What is done to a session from outside: somebody uses its handle, and its client and the
network do their part.  The number of the session plays no role in this and stays. -/
structure Change where
  handle : Handle → Handle
  socket : Socket → Socket
  blind (h : Handle) (j : ConnectionId) : handle (h.withId j) = (handle h).withId j

/-- The session after a change. -/
def Change.apply (c : Change) (s : Session) : Session :=
  { s with handle := c.handle s.handle, socket := c.socket s.socket }

/-- Something that happens to a hub.  What the application does may be different every time. -/
inductive Happening
  /-- A connection that waits is registered. -/
  | register
  /-- The socket of a session is ready, which may have been closed by now. -/
  | ready (app : App) (readable : Bool) (id : ConnectionId)
  | heartbeat (app : App) (tour : Tour)
  | change (id : ConnectionId) (c : Change)
  /-- The loop ends. -/
  | stop (tour : Tour)

/-- Work on items that were made from others. -/
theorem Turn.forEach_map {α β : Type} (items : List α) (f : α → β) (work : β → Hub → Turn)
    (t : Turn) : t.forEach (items.map f) work = t.forEach items fun a => work (f a) :=
  List.foldl_map

/-- The numbers of the registered sessions. -/
def ids (h : Hub) : List ConnectionId := h.entries.map (·.session.id)

/-- A heartbeat of the sessions in `ids`, after which those that are to be closed are. -/
def heartbeatIn (app : App) (ids : List ConnectionId) (h : Hub) : Turn :=
  Turn.forEach (beatAll app ids h).2 (fun (id, cause) => close id cause) (beatAll app ids h).1

/-- Every connection that waits let go, after `closed` sessions were closed. -/
def dropWaiting (closed : Nat) (h : Hub) : Turn :=
  let gone := h.waiting.map fun c => { c with socket := c.socket.hangUp }
  ⟨{ h with waiting := [], dropped := h.dropped ++ gone },
    [.notice (.log (.hubStopped closed h.waiting.length))]⟩

/-- The end of the loop, with the sessions closed in the order of `ids`. -/
def stopIn (ids : List ConnectionId) (h : Hub) : Turn :=
  (Turn.forEach ids (fun id => close id .shutdown) (.start h)).andThen (dropWaiting ids.length)

theorem stop_eq (h : Hub) : stop h = stopIn h.ids h := rfl

/-- A session changed from outside, if it is still there. -/
def touch (id : ConnectionId) (c : Change) (h : Hub) : Hub :=
  match h.find? id with
  | none => h
  | some e => h.update id (c.apply e.session)

namespace Happening

/-- What the hub does. -/
def turn : Happening → Hub → Turn
  | register, h => h.registerNext
  | ready app readable id, h => h.serve app readable id
  | heartbeat app tour, h => h.heartbeatIn app (tour.order h.ids)
  | change id c, h => ⟨h.touch id c, []⟩
  | stop tour, h => h.stopIn (tour.order h.ids)

/-- The sessions that are closed, and why. -/
def closings : Happening → Hub → List (ConnectionId × CloseCause)
  | ready app readable id, h =>
    match h.find? id with
    | none => []
    | some e =>
      match (e.session.serve app readable).result with
      | .ok () => []
      | .error cause => [(id, .failed cause)]
  | heartbeat app tour, h => (h.beatAll app (tour.order h.ids)).2
  | stop tour, h => (tour.order h.ids).map fun id => (id, .shutdown)
  | register, _ | change .., _ => []

/-- The application at work, if it is. -/
def app? : Happening → Option App
  | ready app .. | heartbeat app _ => some app
  | _ => none

end Happening

/-- A hub after all that happened, with what came out, and which sessions were closed and why. -/
structure Record where
  hub : Hub
  effects : List Effect
  closings : List (ConnectionId × CloseCause)

/-- The record of a hub to which nothing has happened. -/
def Record.start (h : Hub) : Record := ⟨h, [], []⟩

/-- One thing more happened. -/
def Record.next (r : Record) (x : Happening) : Record :=
  ⟨(x.turn r.hub).hub, r.effects ++ (x.turn r.hub).effects, r.closings ++ x.closings r.hub⟩

/-- Several things more happened. -/
def Record.run (r : Record) (xs : List Happening) : Record := xs.foldl Record.next r

/-- Things happened to a hub. -/
def run (h : Hub) (xs : List Happening) : Record := (Record.start h).run xs

/-! ### Finding sessions -/

theorem id_of_find? {h : Hub} {id : ConnectionId} {e : Entry} (he : h.find? id = some e) :
    e.session.id = id := by
  simpa using List.find?_some he

theorem find?_eq_none {h : Hub} {id : ConnectionId} : h.find? id = none ↔ id ∉ h.ids := by
  simp [find?, ids]

theorem mem_ids {h : Hub} {id : ConnectionId} : id ∈ h.ids ↔ ∃ e, h.find? id = some e := by
  rw [← Option.isSome_iff_exists, Option.isSome_iff_ne_none, ne_eq, find?_eq_none,
    Classical.not_not]

/-! ### Serving, case by case -/

section

variable {app : App} {readable : Bool} {id : ConnectionId} {h : Hub} {e : Entry}

theorem serve_of_none (hf : h.find? id = none) : h.serve app readable id = ⟨h, []⟩ := by
  unfold serve
  rw [hf]

theorem serve_of_ok (hf : h.find? id = some e)
    (hr : (e.session.serve app readable).result = .ok ()) :
    h.serve app readable id =
      ⟨h.update id (e.session.serve app readable).session,
        (e.session.serve app readable).effects⟩ := by
  unfold serve
  rw [hf]
  simp only [hr]

theorem serve_of_error {cause : SessionError} (hf : h.find? id = some e)
    (hr : (e.session.serve app readable).result = .error cause) :
    h.serve app readable id =
      (⟨h.update id (e.session.serve app readable).session,
        (e.session.serve app readable).effects⟩ : Turn).andThen (close id (.failed cause)) := by
  unfold serve
  rw [hf]
  simp only [hr]

theorem closings_ready_of_none (hf : h.find? id = none) :
    (Happening.ready app readable id).closings h = [] := by
  simp only [Happening.closings, hf]

theorem closings_ready_of_ok (hf : h.find? id = some e)
    (hr : (e.session.serve app readable).result = .ok ()) :
    (Happening.ready app readable id).closings h = [] := by
  simp only [Happening.closings, hf, hr]

theorem closings_ready_of_error {cause : SessionError} (hf : h.find? id = some e)
    (hr : (e.session.serve app readable).result = .error cause) :
    (Happening.ready app readable id).closings h = [(id, .failed cause)] := by
  simp only [Happening.closings, hf, hr]

end

/-! ### Replacing and closing sessions -/

/-- A replaced session is found in the place of the old one. -/
theorem find?_update (h : Hub) {id : ConnectionId} {s : Session} (hs : s.id = id)
    (i : ConnectionId) :
    (h.update id s).find? i =
      if i = id then (h.find? id).map fun e => { e with session := s } else h.find? i := by
  have hfound : ∀ e : Entry, decide ((if e.session.id = id then { e with session := s }
      else e).session.id = i) = decide (e.session.id = i) := by
    intro e
    split
    · next he => rw [he, hs]
    · rfl
  have hfind : (h.update id s).find? i =
      (h.find? i).map fun e => if e.session.id = id then { e with session := s } else e := by
    rw [find?, update, List.find?_map, find?]
    congr 2
    funext e
    exact hfound e
  rw [hfind]
  split
  · next heq =>
    rw [heq]
    cases hf : h.find? id with
    | none => rfl
    | some e => simp [id_of_find? hf]
  · next hne =>
    cases hf : h.find? i with
    | none => rfl
    | some e => simp [id_of_find? hf, hne]

theorem ids_update (h : Hub) {id : ConnectionId} {s : Session} (hs : s.id = id) :
    (h.update id s).ids = h.ids := by
  rw [ids, update, List.map_map, ids]
  refine List.map_congr_left fun e _ => ?_
  show (if e.session.id = id then _ else e : Entry).session.id = e.session.id
  split
  · next he => rw [he]; exact hs
  · rfl

/-- A closed session is not found any more. -/
theorem find?_close (id : ConnectionId) (cause : CloseCause) (h : Hub) (i : ConnectionId) :
    (close id cause h).hub.find? i = if i = id then none else h.find? i := by
  rw [find?, entries_close, List.find?_filter]
  split
  · next heq =>
    rw [heq]
    simp
  · next hne =>
    rw [find?]
    congr 1
    funext e
    by_cases he : e.session.id = i
    · simp [he, hne]
    · simp [he]

theorem ids_close (id : ConnectionId) (cause : CloseCause) (h : Hub) :
    (close id cause h).hub.ids = h.ids.filter (· ≠ id) := by
  rw [ids, entries_close, ids, List.filter_map]
  rfl

/-- A closed session is given up. -/
theorem released_close (id : ConnectionId) (cause : CloseCause) (h : Hub) :
    (close id cause h).hub.released = h.released ++
      ((h.find? id).map fun e => { e with session := e.session.finalize.1 }).toList := by
  unfold close
  split
  · next hf => simp [hf]
  · next e hf => simp [hf]

theorem next_close (id : ConnectionId) (cause : CloseCause) (h : Hub) :
    (close id cause h).hub.tracker.next = h.tracker.next := by
  unfold close
  split <;> rfl

/-- Nothing is handed over when a session is closed. -/
theorem handed_close (id : ConnectionId) (cause : CloseCause) (h : Hub) :
    Effect.handed (close id cause h).effects = [] := by
  unfold close
  split
  · rfl
  · simp only [Effect.handed_append, Effect.handed_notices, Session.handed_finalize]
    rfl

theorem handed_forEach {α : Type} {work : α → Hub → Turn}
    (hwork : ∀ a h, Effect.handed (work a h).effects = []) (items : List α) (t : Turn) :
    Effect.handed (t.forEach items work).effects = Effect.handed t.effects := by
  induction items generalizing t with
  | nil => rfl
  | cons a items ih =>
    refine (ih (t.andThen (work a))).trans ?_
    rw [Turn.andThen, Effect.handed_append, hwork, List.append_nil]

/-- Nothing is handed over when the loop ends. -/
theorem handed_stop (h : Hub) : Effect.handed h.stop.effects = [] := by
  have hclosed := handed_forEach (fun id h => handed_close id .shutdown h) h.ids (.start h)
  rw [stop_eq, stopIn, Turn.andThen, Effect.handed_append, hclosed]
  rfl

/-- Nothing is handed over when the loop is lost. -/
theorem handed_lose (h : Hub) : Effect.handed h.lose.effects = [] := by
  have hnotices : h.lose.effects =
      (h.entries.map fun e => Notice.log (.sessionReleased e.session.id)).map .notice :=
    (List.map_map ..).symm
  rw [hnotices, Effect.handed_notices]

/-! ### Numbers -/

/-- The numbers of the sessions that were closed. -/
def goneIds (h : Hub) : List ConnectionId := h.released.map (·.session.id)

/-- No two sessions have one number, and none has a number that is still to be given. -/
structure Sound (h : Hub) : Prop where
  nodup : h.ids.Nodup
  gone : ∀ id ∈ h.goneIds, id ∉ h.ids
  bound : ∀ id ∈ h.ids ++ h.goneIds, id.number < h.tracker.next

theorem sound_new (settings : SessionSettings) : (new settings).Sound where
  nodup := .nil
  gone := by simp [goneIds, new]
  bound := by simp [ids, goneIds, new]

/-- Work on a hub keeps its numbers sound and takes none back. -/
structure Grows (h h' : Hub) : Prop where
  next : h.tracker.next ≤ h'.tracker.next
  sound : h.Sound → h'.Sound

theorem Grows.refl (h : Hub) : Grows h h := ⟨Nat.le_refl _, fun hs => hs⟩

theorem Grows.trans {h h' h'' : Hub} (a : Grows h h') (b : Grows h' h'') : Grows h h'' :=
  ⟨Nat.le_trans a.next b.next, fun hs => b.sound (a.sound hs)⟩

theorem grows_update (h : Hub) {id : ConnectionId} {s : Session} (hs : s.id = id) :
    Grows h (h.update id s) where
  next := Nat.le_refl _
  sound hsound := by
    refine ⟨?_, ?_, ?_⟩
    · rw [ids_update h hs]
      exact hsound.nodup
    · rw [ids_update h hs]
      exact hsound.gone
    · rw [ids_update h hs]
      exact hsound.bound

theorem goneIds_close (id : ConnectionId) (cause : CloseCause) (h : Hub) :
    (close id cause h).hub.goneIds = h.goneIds ++ if id ∈ h.ids then [id] else [] := by
  rw [goneIds, released_close, List.map_append, goneIds]
  congr 1
  cases hf : h.find? id with
  | none => rw [if_neg (find?_eq_none.1 hf)]; rfl
  | some e =>
    rw [if_pos (mem_ids.2 ⟨e, hf⟩), ← id_of_find? hf]
    rfl

theorem grows_close (id : ConnectionId) (cause : CloseCause) (h : Hub) :
    Grows h (close id cause h).hub where
  next := Nat.le_of_eq (next_close id cause h).symm
  sound hsound := by
    refine ⟨?_, ?_, ?_⟩
    · rw [ids_close]
      exact hsound.nodup.filter _
    · rw [ids_close, goneIds_close]
      intro i hi hmem
      obtain ⟨hin, hne⟩ := List.mem_filter.1 hmem
      rcases List.mem_append.1 hi with hgone | hnew
      · exact hsound.gone i hgone hin
      · split at hnew
        · obtain rfl := List.mem_singleton.1 hnew
          simp at hne
        · simp at hnew
    · rw [ids_close, goneIds_close, next_close]
      intro i hi
      refine hsound.bound i ?_
      rw [List.mem_append] at hi ⊢
      rcases hi with hin | hgone
      · exact .inl (List.mem_filter.1 hin).1
      · rcases List.mem_append.1 hgone with hgone | hnew
        · exact .inr hgone
        · split at hnew
          · next hid =>
            obtain rfl := List.mem_singleton.1 hnew
            exact .inl hid
          · simp at hnew

/-- Registering a connection takes the next number, for a session or for none. -/
theorem ids_registerNext (h : Hub) :
    h.registerNext.hub.ids = h.ids ∨
      h.registerNext.hub.ids = h.ids ++ [⟨h.tracker.next⟩] ∧
        h.registerNext.hub.tracker.next = h.tracker.next + 1 := by
  unfold registerNext
  split
  · exact .inl rfl
  · next c waiting _ =>
    cases hrefusal : c.refusal with
    | some detail => exact .inl rfl
    | none =>
      refine .inr ⟨?_, rfl⟩
      exact List.map_append

theorem released_registerNext (h : Hub) : h.registerNext.hub.released = h.released := by
  unfold registerNext
  split
  · rfl
  · next c _ _ => cases c.refusal <;> rfl

theorem waiting_registerNext (h : Hub) : h.registerNext.hub.waiting = h.waiting.drop 1 := by
  unfold registerNext
  cases hwaiting : h.waiting with
  | nil => exact hwaiting
  | cons c waiting => cases hrefusal : c.refusal <;> simp only [hrefusal] <;> rfl

theorem next_registerNext (h : Hub) : h.tracker.next ≤ h.registerNext.hub.tracker.next := by
  unfold registerNext
  split
  · exact Nat.le_refl _
  · next c _ _ => cases c.refusal <;> exact Nat.le_succ _

theorem grows_registerNext (h : Hub) : Grows h h.registerNext.hub where
  next := next_registerNext h
  sound hsound := by
    have hgone : h.registerNext.hub.goneIds = h.goneIds := by
      rw [goneIds, released_registerNext, goneIds]
    rcases ids_registerNext h with hids | ⟨hids, hnext⟩
    · refine ⟨hids ▸ hsound.nodup, ?_, fun i hi => ?_⟩
      · rw [hgone, hids]
        exact hsound.gone
      · rw [hgone, hids] at hi
        exact Nat.lt_of_lt_of_le (hsound.bound i hi) (next_registerNext h)
    · -- A number that is still to be given is new.
      have hfresh : ∀ i ∈ h.ids ++ h.goneIds, i ≠ ⟨h.tracker.next⟩ := by
        rintro _ hi rfl
        exact Nat.lt_irrefl _ (hsound.bound _ hi)
      refine ⟨?_, ?_, ?_⟩
      · rw [hids]
        refine List.nodup_append.2 ⟨hsound.nodup, by simp, ?_⟩
        rintro i hi _ hnew rfl
        exact hfresh i (List.mem_append_left _ hi) (List.mem_singleton.1 hnew)
      · rw [hgone, hids]
        intro i hi hmem
        rcases List.mem_append.1 hmem with hin | hnew
        · exact hsound.gone i hi hin
        · exact hfresh i (List.mem_append_right _ hi) (List.mem_singleton.1 hnew)
      · rw [hgone, hids, hnext]
        intro i hi
        rw [List.append_assoc, List.mem_append, List.mem_append] at hi
        rcases hi with hin | hnew | hi
        · exact Nat.lt_succ_of_lt (hsound.bound i (List.mem_append_left _ hin))
        · rw [List.mem_singleton.1 hnew]
          exact Nat.lt_succ_self _
        · exact Nat.lt_succ_of_lt (hsound.bound i (List.mem_append_right _ hi))

theorem Grows.forEach {α : Type} {work : α → Hub → Turn} (hwork : ∀ a h, Grows h (work a h).hub)
    (items : List α) (t : Turn) : Grows t.hub (t.forEach items work).hub := by
  induction items generalizing t with
  | nil => exact .refl _
  | cons a items ih => exact (hwork a t.hub).trans (ih (t.andThen (work a)))

theorem grows_serve {app : App} (hkeeps : app.Keeps) (readable : Bool) (id : ConnectionId)
    (h : Hub) : Grows h (h.serve app readable id).hub := by
  cases hf : h.find? id with
  | none =>
    rw [serve_of_none hf]
    exact .refl h
  | some e =>
    obtain ⟨_, hstep⟩ := Session.exists_renames_serve hkeeps e.session readable
    have hupdate := grows_update h (hstep.id.trans (id_of_find? hf))
    cases hr : (e.session.serve app readable).result with
    | ok =>
      rw [serve_of_ok hf hr]
      exact hupdate
    | error cause =>
      rw [serve_of_error hf hr]
      exact hupdate.trans (grows_close id _ _)

theorem grows_beat {app : App} (hkeeps : app.Keeps) (id : ConnectionId) (h : Hub) :
    Grows h (h.beat app id).1.hub := by
  unfold beat
  split
  · exact .refl h
  · next e he =>
    obtain ⟨_, hstep⟩ := Session.exists_renames_beat hkeeps e.session
    exact grows_update h (hstep.id.trans (id_of_find? he))

theorem grows_beatAll {app : App} (hkeeps : app.Keeps) (ids : List ConnectionId) (h : Hub) :
    Grows h (h.beatAll app ids).1.hub := by
  induction ids generalizing h with
  | nil => exact .refl h
  | cons id ids ih => exact (grows_beat hkeeps id h).trans (ih _)

theorem Change.id_apply (c : Change) (s : Session) : (c.apply s).id = s.id := by
  have hsame := c.blind s.handle s.handle.id
  rw [Handle.withId_id] at hsame
  show (c.handle s.handle).id = s.id
  rw [hsame]
  rfl

theorem grows_touch (id : ConnectionId) (c : Change) (h : Hub) : Grows h (h.touch id c) := by
  unfold touch
  split
  · exact .refl h
  · next e he => exact grows_update h ((c.id_apply _).trans (id_of_find? he))

/-- Whatever happens, the numbers stay sound. -/
theorem Happening.grows_turn {x : Happening} (hkeeps : ∀ app, x.app? = some app → app.Keeps)
    (h : Hub) : Grows h (x.turn h).hub := by
  cases x with
  | register => exact grows_registerNext h
  | ready app readable id => exact grows_serve (hkeeps app rfl) readable id h
  | heartbeat app tour =>
    refine (grows_beatAll (hkeeps app rfl) (tour.order h.ids) h).trans ?_
    exact Grows.forEach (fun (a : ConnectionId × CloseCause) h => grows_close a.1 a.2 h) _ _
  | change id c => exact grows_touch id c h
  | stop tour =>
    have hclosed := Grows.forEach (fun id h => grows_close id .shutdown h) (tour.order h.ids)
      (.start h)
    exact hclosed.trans ⟨Nat.le_refl _, fun hs => ⟨hs.nodup, hs.gone, hs.bound⟩⟩

/-- **Numbers stay sound in every run.** -/
theorem Record.grows_run {xs : List Happening}
    (hkeeps : ∀ x ∈ xs, ∀ app, x.app? = some app → app.Keeps) (r : Record) :
    Grows r.hub (r.run xs).hub := by
  induction xs generalizing r with
  | nil => exact .refl _
  | cons x xs ih =>
    obtain ⟨hx, hxs⟩ := List.forall_mem_cons.1 hkeeps
    exact (x.grows_turn hx r.hub).trans (ih hxs (r.next x))

/-! ### Who is closed -/

theorem ids_beat {app : App} (hkeeps : app.Keeps) (id : ConnectionId) (h : Hub) :
    (h.beat app id).1.hub.ids = h.ids ∧ (h.beat app id).1.hub.goneIds = h.goneIds := by
  unfold beat
  split
  · exact ⟨rfl, rfl⟩
  · next e he =>
    obtain ⟨_, hstep⟩ := Session.exists_renames_beat hkeeps e.session
    exact ⟨ids_update h (hstep.id.trans (id_of_find? he)), rfl⟩

/-- A heartbeat leaves the sessions in place, and asks to close some of those that it visits. -/
theorem ids_beatAll {app : App} (hkeeps : app.Keeps) (ids : List ConnectionId) (h : Hub) :
    (h.beatAll app ids).1.hub.ids = h.ids ∧ (h.beatAll app ids).1.hub.goneIds = h.goneIds ∧
      ((h.beatAll app ids).2.map Prod.fst).Sublist ids := by
  induction ids generalizing h with
  | nil => exact ⟨rfl, rfl, .slnil⟩
  | cons id ids ih =>
    obtain ⟨hids, hgone⟩ := ids_beat hkeeps id h
    obtain ⟨hids', hgone', hcauses⟩ := ih (h.beat app id).1.hub
    refine ⟨hids'.trans hids, hgone'.trans hgone, ?_⟩
    show (((h.beat app id).2.map (id, ·)).toList ++ _).map Prod.fst |>.Sublist _
    rw [List.map_append]
    cases (h.beat app id).2 with
    | none => exact hcauses.cons id
    | some cause => exact hcauses.cons_cons id

theorem goneIds_forEach_close (closings : List (ConnectionId × CloseCause)) (t : Turn)
    (hnodup : (closings.map Prod.fst).Nodup) (hin : ∀ x ∈ closings, x.1 ∈ t.hub.ids) :
    (t.forEach closings fun (id, cause) => close id cause).hub.goneIds =
      t.hub.goneIds ++ closings.map Prod.fst := by
  induction closings generalizing t with
  | nil => exact (List.append_nil _).symm
  | cons x closings ih =>
    obtain ⟨hfirst, hrest⟩ := List.forall_mem_cons.1 hin
    obtain ⟨hnew, hnodup⟩ := List.nodup_cons.1 hnodup
    have hlater := ih (t.andThen (close x.1 x.2)) hnodup (by
      intro y hy
      have hne : y.1 ≠ x.1 := fun heq => hnew (heq ▸ List.mem_map_of_mem hy)
      show y.1 ∈ (close x.1 x.2 t.hub).hub.ids
      rw [ids_close]
      exact List.mem_filter.2 ⟨hrest y hy, by simpa using hne⟩)
    refine hlater.trans ?_
    show (close x.1 x.2 t.hub).hub.goneIds ++ _ = _
    rw [goneIds_close, if_pos hfirst, List.append_assoc]
    rfl

/-- **Exactly the sessions that are said to be closed are gone.** -/
theorem Happening.goneIds_turn {x : Happening} (hkeeps : ∀ app, x.app? = some app → app.Keeps)
    {h : Hub} (hs : h.Sound) :
    (x.turn h).hub.goneIds = h.goneIds ++ (x.closings h).map Prod.fst := by
  cases x with
  | register =>
    show h.registerNext.hub.goneIds = h.goneIds ++ []
    rw [goneIds, released_registerNext, goneIds, List.append_nil]
  | ready app readable id =>
    show (h.serve app readable id).hub.goneIds = _
    cases hf : h.find? id with
    | none =>
      rw [serve_of_none hf, closings_ready_of_none hf]
      exact (List.append_nil _).symm
    | some e =>
      obtain ⟨_, hstep⟩ := Session.exists_renames_serve (hkeeps app rfl) e.session readable
      have hid := hstep.id.trans (id_of_find? hf)
      cases hr : (e.session.serve app readable).result with
      | ok =>
        rw [serve_of_ok hf hr, closings_ready_of_ok hf hr]
        exact (List.append_nil _).symm
      | error cause =>
        have hmem : id ∈ (h.update id (e.session.serve app readable).session).ids := by
          rw [ids_update h hid]
          exact mem_ids.2 ⟨e, hf⟩
        rw [serve_of_error hf hr, closings_ready_of_error hf hr]
        refine (goneIds_close id _ _).trans ?_
        rw [if_pos hmem]
        rfl
  | heartbeat app tour =>
    obtain ⟨hids, hgone, hsub⟩ := ids_beatAll (hkeeps app rfl) (tour.order h.ids) h
    have hnodup := (tour.perm h.ids).nodup_iff.2 hs.nodup
    have hclosed := goneIds_forEach_close _ _ (hnodup.sublist hsub) fun x hx => by
      rw [hids]
      exact (tour.perm h.ids).mem_iff.1 (hsub.subset (List.mem_map_of_mem hx))
    rw [hgone] at hclosed
    exact hclosed
  | change id c =>
    show (h.touch id c).goneIds = _
    unfold touch
    split <;> exact (List.append_nil _).symm
  | stop tour =>
    have hfst : ((tour.order h.ids).map fun id => (id, CloseCause.shutdown)).map Prod.fst =
        tour.order h.ids := by
      rw [List.map_map]
      exact List.map_id _
    have hclosed := goneIds_forEach_close ((tour.order h.ids).map fun id => (id, .shutdown))
      (.start h) (by rw [hfst]; exact (tour.perm h.ids).nodup_iff.2 hs.nodup) (by
        intro x hx
        obtain ⟨id, hid, rfl⟩ := List.mem_map.1 hx
        exact (tour.perm h.ids).mem_iff.1 hid)
    rw [Turn.forEach_map] at hclosed
    exact hclosed

/-! ### A turn of the loop -/

/-- The hub that has looked at what is ready. -/
def seen (h : Hub) : Hub := { h with ready := [] }

theorem close_seen (id : ConnectionId) (cause : CloseCause) (h : Hub) :
    close id cause h.seen = ⟨(close id cause h).hub.seen, (close id cause h).effects⟩ := by
  unfold close
  show (match h.find? id with | none => _ | some e => _) = _
  cases h.find? id <;> rfl

theorem serve_seen (app : App) (readable : Bool) (id : ConnectionId) (h : Hub) :
    h.seen.serve app readable id =
      ⟨(h.serve app readable id).hub.seen, (h.serve app readable id).effects⟩ := by
  cases hf : h.find? id with
  | none =>
    rw [serve_of_none hf, serve_of_none (h := h.seen) hf]
  | some e =>
    cases hr : (e.session.serve app readable).result with
    | ok =>
      rw [serve_of_ok hf hr, serve_of_ok (h := h.seen) hf hr]
      rfl
    | error cause =>
      have hclose := close_seen id (.failed cause)
        (h.update id (e.session.serve app readable).session)
      rw [serve_of_error hf hr, serve_of_error (h := h.seen) hf hr]
      unfold Turn.andThen
      exact congrArg (fun t : Turn => Turn.mk t.hub (_ ++ t.effects)) hclose

theorem beatAll_seen (app : App) (ids : List ConnectionId) (h : Hub) :
    h.seen.beatAll app ids = (⟨(h.beatAll app ids).1.hub.seen, (h.beatAll app ids).1.effects⟩,
      (h.beatAll app ids).2) := by
  induction ids generalizing h with
  | nil => rfl
  | cons id ids ih =>
    have hbeat : h.seen.beat app id =
        (⟨(h.beat app id).1.hub.seen, (h.beat app id).1.effects⟩, (h.beat app id).2) := by
      unfold beat
      show (match h.find? id with | none => _ | some e => _) = _
      cases h.find? id <;> rfl
    simp only [beatAll, hbeat, ih]

theorem forEach_seen {α : Type} {work : α → Hub → Turn}
    (hwork : ∀ a h, work a h.seen = ⟨(work a h).hub.seen, (work a h).effects⟩) (items : List α)
    (t : Turn) :
    (⟨t.hub.seen, t.effects⟩ : Turn).forEach items work =
      ⟨(t.forEach items work).hub.seen, (t.forEach items work).effects⟩ := by
  induction items generalizing t with
  | nil => rfl
  | cons a items ih =>
    have hfirst : (⟨t.hub.seen, t.effects⟩ : Turn).andThen (work a) =
        ⟨(t.andThen (work a)).hub.seen, (t.andThen (work a)).effects⟩ := by
      unfold Turn.andThen
      simp only [hwork]
    simp only [Turn.forEach, List.foldl_cons] at ih ⊢
    rw [hfirst]
    exact ih _

theorem heartbeatIn_seen (app : App) (ids : List ConnectionId) (h : Hub) :
    h.seen.heartbeatIn app ids =
      ⟨(h.heartbeatIn app ids).hub.seen, (h.heartbeatIn app ids).effects⟩ := by
  unfold heartbeatIn
  rw [beatAll_seen]
  exact forEach_seen (fun (a : ConnectionId × CloseCause) h => close_seen a.1 a.2 h) _ _

theorem Turn.andThen_assoc (t : Turn) (f g : Hub → Turn) :
    (t.andThen f).andThen g = t.andThen fun h => (f h).andThen g :=
  congrArg (Turn.mk _) (List.append_assoc ..)

theorem Turn.start_andThen (h : Hub) (f : Hub → Turn) : (Turn.start h).andThen f = f h := rfl

/-- Work on several items, told apart from what was done before. -/
theorem Turn.forEach_eq {α : Type} (items : List α) (work : α → Hub → Turn) (t : Turn) :
    t.forEach items work = t.andThen fun h => (Turn.start h).forEach items work := by
  induction items generalizing t with
  | nil => exact congrArg (Turn.mk t.hub) (List.append_nil _).symm
  | cons a items ih =>
    calc (t.andThen (work a)).forEach items work
        = (t.andThen (work a)).andThen fun h => (Turn.start h).forEach items work := ih _
      _ = t.andThen fun h => (work a h).andThen fun h => (Turn.start h).forEach items work :=
          Turn.andThen_assoc ..
      _ = t.andThen fun h => ((Turn.start h).andThen (work a)).forEach items work := by
          congr 1
          funext h
          rw [Turn.start_andThen, ih (work a h)]

theorem Record.run_append (r : Record) (xs ys : List Happening) :
    r.run (xs ++ ys) = (r.run xs).run ys :=
  List.foldl_append

/-- Work on several items is a run, if the work on one is what the hub does when something
happens. -/
theorem forEach_eq_run {α : Type} (f : α → Happening) (items : List α) (r : Record) :
    (⟨r.hub, r.effects⟩ : Turn).forEach items (fun a => (f a).turn) =
      ⟨(r.run (items.map f)).hub, (r.run (items.map f)).effects⟩ := by
  induction items generalizing r with
  | nil => rfl
  | cons a items ih => exact ih (r.next (f a))

/-- Serving what is ready, told as a run. -/
theorem andThen_serveReady (app : App) (r : Record) :
    let served := r.run (r.hub.ready.map fun id => .ready app true id)
    (⟨r.hub, r.effects⟩ : Turn).andThen (serveReady app) = ⟨served.hub.seen, served.effects⟩ := by
  have hseen := forEach_seen (serve_seen app true) r.hub.ready ⟨r.hub, r.effects⟩
  have hrun := forEach_eq_run (fun id => .ready app true id) r.hub.ready r
  calc (⟨r.hub, r.effects⟩ : Turn).andThen (serveReady app)
      = (⟨r.hub.seen, r.effects⟩ : Turn).andThen fun h =>
          (Turn.start h).forEach r.hub.ready (serve app true) := rfl
    _ = (⟨r.hub.seen, r.effects⟩ : Turn).forEach r.hub.ready (serve app true) :=
        (Turn.forEach_eq ..).symm
    _ = _ := hseen.trans (congrArg (fun t : Turn => Turn.mk t.hub.seen t.effects) hrun)

/-- A heartbeat, told as a run. -/
theorem andThen_heartbeat (app : App) (r : Record) :
    let beaten := r.next (.heartbeat app .registered)
    (⟨r.hub.seen, r.effects⟩ : Turn).andThen (heartbeat app) =
      ⟨beaten.hub.seen, beaten.effects⟩ := by
  have hseen := heartbeatIn_seen app r.hub.ids r.hub
  exact congrArg (fun t : Turn => Turn.mk t.hub (r.effects ++ t.effects)) hseen

/-- **A turn of the loop is such a run**: connections are registered, the sessions that are ready
are served, and if it is due every session gets a heartbeat. -/
theorem exists_run_iterate (app : App) (registrations : Nat) (due : Bool) (h : Hub) :
    ∃ xs : List Happening, (∀ x ∈ xs, ∀ a, x.app? = some a → a = app) ∧
      h.iterate app registrations due = ⟨(h.run xs).hub.seen, (h.run xs).effects⟩ := by
  let opened := (List.range (min registrations h.waiting.length)).map fun _ => Happening.register
  let served := (h.run opened).hub.ready.map fun id => Happening.ready app true id
  have hopened : registerNew registrations h = ⟨(h.run opened).hub, (h.run opened).effects⟩ :=
    forEach_eq_run (fun _ => .register) _ (.start h)
  have hserved : (registerNew registrations h).andThen (serveReady app) =
      ⟨(h.run (opened ++ served)).hub.seen, (h.run (opened ++ served)).effects⟩ := by
    have hboth : h.run (opened ++ served) = (h.run opened).run served := Record.run_append ..
    rw [hopened, hboth]
    exact andThen_serveReady app (h.run opened)
  have happ : ∀ x ∈ opened ++ served, ∀ a, x.app? = some a → a = app := by
    intro x hx a ha
    rcases List.mem_append.1 hx with hopen | hserve
    · obtain ⟨_, -, rfl⟩ := List.mem_map.1 hopen
      simp [Happening.app?] at ha
    · obtain ⟨_, -, rfl⟩ := List.mem_map.1 hserve
      exact (Option.some.inj ha).symm
  cases due with
  | false => exact ⟨opened ++ served, happ, hserved⟩
  | true =>
    refine ⟨opened ++ served ++ [.heartbeat app .registered], ?_, ?_⟩
    · intro x hx a ha
      rcases List.mem_append.1 hx with hfirst | hlast
      · exact happ x hfirst a ha
      · obtain rfl := List.mem_singleton.1 hlast
        exact (Option.some.inj ha).symm
    · have hall : h.run (opened ++ served ++ [.heartbeat app .registered]) =
          (h.run (opened ++ served)).next (.heartbeat app .registered) := Record.run_append ..
      rw [hall]
      refine Eq.trans ?_ (andThen_heartbeat app (h.run (opened ++ served)))
      exact congrArg (fun t : Turn => t.andThen (heartbeat app)) hserved

end Hub

end WebSocket
