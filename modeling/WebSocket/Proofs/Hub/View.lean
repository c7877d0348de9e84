import WebSocket.Proofs.Hub.Happenings

/-!
# One session of a hub

What is seen of one session in a hub to which all sorts of things happen: its state, the messages
that it handed over, how it was given up and why.  It turns out that this can be told without the
hub, as long as the application leaves the numbers of sessions alone and does the same to the
messages of this one every time.

## Main definitions

* `View`, `Record.view` — what is seen of a session.
* `Own`, `View.step` — what can happen to a session, and what it does then, without a hub.
* `Happening.on` — what an event is for one session.
* `Happening.Serves` — what is asked of the application.

## Main results

* `view_next` — **what happens, seen from one session.**
* `Record.view_run` — the same for a run.
-/

namespace WebSocket

namespace Hub

/-- A session without its number. -/
def nameless (s : Session) : Session := s.withId ⟨0⟩

/-- The messages that session `i` handed over, and whether the application panicked over them. -/
def handedBy (i : ConnectionId) (effects : List Effect) : List (Message × Bool) :=
  (Effect.handed effects).filterMap fun x => if x.1 = i then some x.2 else none

/-- The causes for which session `i` was closed. -/
def causesOf (i : ConnectionId) (closings : List (ConnectionId × CloseCause)) : List CloseCause :=
  closings.filterMap fun x => if x.1 = i then some x.2 else none

@[simp] theorem handedBy_append (i : ConnectionId) (effects more : List Effect) :
    handedBy i (effects ++ more) = handedBy i effects ++ handedBy i more := by
  simp [handedBy]

@[simp] theorem causesOf_append (i : ConnectionId)
    (closings more : List (ConnectionId × CloseCause)) :
    causesOf i (closings ++ more) = causesOf i closings ++ causesOf i more :=
  List.filterMap_append

theorem head?_causesOf_map (i : ConnectionId) (cause : CloseCause) (ids : List ConnectionId) :
    (causesOf i (ids.map (·, cause))).head? = if i ∈ ids then some cause else none := by
  induction ids with
  | nil => rfl
  | cons id ids ih =>
    have hcons := causesOf_append i [(id, cause)] (ids.map (·, cause))
    rw [List.singleton_append] at hcons
    rw [List.map_cons, hcons]
    by_cases hid : id = i
    · simp [causesOf, hid]
    · simpa [causesOf, hid, Ne.symm hid] using ih

theorem handedBy_of_nil {i : ConnectionId} {effects : List Effect}
    (h : Effect.handed effects = []) : handedBy i effects = [] := by
  simp [handedBy, h]

/-- A step of a session hands over its own messages. -/
theorem handedBy_step {α : Type} {i j : ConnectionId} {a b : Session.Step α}
    (h : a.Renames i j b) : handedBy i a.effects = handedBy j b.effects := by
  obtain ⟨ms, ha, hb⟩ := h.effects
  have hall : ∀ (k : ConnectionId) (ms : List (Message × Bool)),
      (ms.map (Prod.mk k)).filterMap (fun x => if x.1 = k then some x.2 else none) = ms := by
    intro k ms
    induction ms with
    | nil => rfl
    | cons m ms ih => simp only [List.map_cons, List.filterMap_cons, reduceIte, ih]
  rw [handedBy, ha, hall, handedBy, hb, hall]

/-- A step of a session hands over no message of another. -/
theorem handedBy_step_of_ne {α : Type} {i id j : ConnectionId} {a b : Session.Step α}
    (h : a.Renames id j b) (hne : i ≠ id) : handedBy i a.effects = [] := by
  refine List.filterMap_eq_nil_iff.2 fun x hx => ?_
  rw [h.eq_of_mem_handed hx, if_neg (Ne.symm hne)]

/-! ### What is seen of a session -/

/-- What is seen of one session, all without its number.  The bytes that it has written are those
that its socket took, so they are part of its state. -/
@[ext] structure View where
  /-- The session, while it is registered. -/
  session : Option Session
  /-- The session as it was given up. -/
  released : List Session
  handed : List (Message × Bool)
  causes : List CloseCause

/-- What is seen of session `i`. -/
def Record.view (i : ConnectionId) (r : Record) : View where
  session := (r.hub.find? i).map (nameless ·.session)
  released := (r.hub.released.filter (·.session.id = i)).map (nameless ·.session)
  handed := handedBy i r.effects
  causes := causesOf i r.closings

namespace View

/-- The session is closed. -/
def close (cause : CloseCause) (v : View) : View where
  session := none
  released := v.released ++ (v.session.map (·.finalize.1)).toList
  handed := v.handed
  causes := v.causes ++ [cause]

/-- A step of the session. -/
def after {α : Type} (st : Session.Step α) (v : View) : View :=
  { v with session := some st.session, handed := v.handed ++ handedBy ⟨0⟩ st.effects }

/-- The session is closed if there is a cause. -/
def closeFor (cause : Option CloseCause) (v : View) : View :=
  match cause with
  | none => v
  | some cause => v.close cause

/-- The socket of the session is ready. -/
def serve (react : App) (readable : Bool) (v : View) : View :=
  match v.session with
  | none => v
  | some s =>
    match (s.serve react readable).result with
    | .ok () => v.after (s.serve react readable)
    | .error cause => (v.after (s.serve react readable)).close (.failed cause)

section

variable {react : App} {readable : Bool} {v : View} {s : Session}

theorem serve_of_none (hv : v.session = none) : v.serve react readable = v := by
  simp only [serve, hv]

theorem serve_of_ok (hv : v.session = some s) (hr : (s.serve react readable).result = .ok ()) :
    v.serve react readable = v.after (s.serve react readable) := by
  simp only [serve, hv, hr]

theorem serve_of_error {cause : SessionError} (hv : v.session = some s)
    (hr : (s.serve react readable).result = .error cause) :
    v.serve react readable = (v.after (s.serve react readable)).close (.failed cause) := by
  simp only [serve, hv, hr]

end

/-- The session gets a heartbeat. -/
def beat (react : App) (v : View) : View :=
  match v.session with
  | none => v
  | some s => (v.after (s.beat react)).closeFor (s.beat react).closeCause?

theorem beat_of_none {react : App} {v : View} (hv : v.session = none) : v.beat react = v := by
  simp only [beat, hv]

theorem beat_of_some {react : App} {v : View} {s : Session} (hv : v.session = some s) :
    v.beat react = (v.after (s.beat react)).closeFor (s.beat react).closeCause? := by
  simp only [beat, hv]

/-- The session is changed from outside. -/
def change (c : Change) (v : View) : View := { v with session := v.session.map c.apply }

/-- The loop ends. -/
def stop (v : View) : View :=
  match v.session with
  | none => v
  | some _ => v.close .shutdown

end View

/-- What can happen to a session. -/
inductive Own
  | ready (readable : Bool)
  | beat
  | change (c : Change)
  | stop

/-- What a session does when something happens to it.  There is no hub in this. -/
def View.step (react : App) (v : View) : Own → View
  | .ready readable => v.serve react readable
  | .beat => v.beat react
  | .change c => v.change c
  | .stop => v.stop

namespace Happening

/-- What an event is for session `i`, if it is anything. -/
def on (i : ConnectionId) : Happening → Option Own
  | register => none
  | ready _ readable id => if id = i then some (.ready readable) else none
  | heartbeat .. => some .beat
  | change id c => if id = i then some (.change c) else none
  | stop _ => some .stop

/-- The application leaves the numbers of sessions as they are, and does to the messages of session
`i` what `react` does. -/
def Serves (i : ConnectionId) (react : App) (x : Happening) : Prop :=
  ∀ app, x.app? = some app → app.Keeps ∧ app.Answers i react

end Happening

/-! ### Records -/

/-- A record with one more turn and the sessions closed in it. -/
def Record.add (r : Record) (t : Turn) (closings : List (ConnectionId × CloseCause)) : Record :=
  ⟨t.hub, r.effects ++ t.effects, r.closings ++ closings⟩

theorem Record.next_eq (r : Record) (x : Happening) :
    r.next x = r.add (x.turn r.hub) (x.closings r.hub) := rfl

theorem Record.add_andThen (r : Record) (t : Turn) (work : Hub → Turn)
    (closings more : List (ConnectionId × CloseCause)) :
    r.add (t.andThen work) (closings ++ more) = (r.add t closings).add (work t.hub) more := by
  simp only [add, Turn.andThen, List.append_assoc]

theorem Record.add_start (r : Record) : r.add (.start r.hub) [] = r := by
  simp only [add, Turn.start, List.append_nil]

/-- Several sessions closed one after the other. -/
theorem Record.add_forEach_close (r : Record) (t : Turn)
    (done closings : List (ConnectionId × CloseCause)) :
    r.add (t.forEach closings fun x => close x.1 x.2) (done ++ closings) =
      closings.foldl (fun r x => r.add (close x.1 x.2 r.hub) [x]) (r.add t done) := by
  induction closings generalizing t done with
  | nil => rw [List.append_nil]; rfl
  | cons x closings ih =>
    have hfirst := r.add_andThen t (close x.1 x.2) done [x]
    have hrest := ih (t.andThen (close x.1 x.2)) (done ++ [x])
    rw [List.append_assoc, hfirst] at hrest
    exact hrest

/-! ### Seen from one session -/

section

variable {i id : ConnectionId} {r : Record} {e : Entry} {app react : App}

theorem view_session_of_find? (he : r.hub.find? i = some e) :
    (r.view i).session = some (nameless e.session) := by
  rw [Record.view, he]
  rfl

theorem view_session_of_none (hf : r.hub.find? i = none) : (r.view i).session = none := by
  rw [Record.view, hf]
  rfl

/-- A turn that leaves the session where it is and hands over nothing of it. -/
theorem view_add_of_quiet {t : Turn} (hfind : t.hub.find? i = r.hub.find? i)
    (hreleased : t.hub.released = r.hub.released) (hquiet : handedBy i t.effects = []) :
    (r.add t []).view i = r.view i := by
  simp only [Record.view, Record.add, hfind, hreleased, handedBy_append, hquiet, List.append_nil]

/-- A step of another session. -/
theorem view_update_of_ne {s : Session} {effects : List Effect} (hne : i ≠ id) (hs : s.id = id)
    (hquiet : handedBy i effects = []) :
    (r.add ⟨r.hub.update id s, effects⟩ []).view i = r.view i := by
  refine view_add_of_quiet ?_ rfl hquiet
  rw [find?_update r.hub hs, if_neg hne]

/-- A step of the session itself. -/
theorem view_step {α : Type} {a b : Session.Step α} (he : r.hub.find? i = some e)
    (hstep : a.Renames i ⟨0⟩ b) :
    (r.add ⟨r.hub.update i a.session, a.effects⟩ []).view i = (r.view i).after b := by
  have hfind : (r.hub.update i a.session).find? i = some { e with session := a.session } := by
    rw [find?_update r.hub hstep.id, if_pos rfl, he]
    rfl
  simp only [Record.view, Record.add, hfind, View.after, handedBy_append, List.append_nil,
    handedBy_step hstep, hstep.session]
  rfl

/-- Another session is closed. -/
theorem view_close_of_ne {cause : CloseCause} (hne : i ≠ id) :
    (r.add (close id cause r.hub) [(id, cause)]).view i = r.view i := by
  have hfind : (close id cause r.hub).hub.find? i = r.hub.find? i := by
    rw [find?_close, if_neg hne]
  have hcauses : causesOf i [(id, cause)] = [] := by
    simp [causesOf, Ne.symm hne]
  have hgone : ((close id cause r.hub).hub.released.filter (·.session.id = i)) =
      r.hub.released.filter (·.session.id = i) := by
    rw [released_close, List.filter_append]
    cases hf : r.hub.find? id with
    | none => simp
    | some e =>
      have hid : e.session.finalize.1.id = id := id_of_find? hf
      simp [hid, Ne.symm hne]
  simp only [Record.view, Record.add, hfind, hgone, handedBy_append, causesOf_append, hcauses,
    handedBy_of_nil (handed_close id cause r.hub), List.append_nil]

/-- The session itself is closed. -/
theorem view_close {cause : CloseCause} (he : r.hub.find? i = some e) :
    (r.add (close i cause r.hub) [(i, cause)]).view i = (r.view i).close cause := by
  have hfind : (close i cause r.hub).hub.find? i = none := by
    rw [find?_close, if_pos rfl]
  have hcauses : causesOf i [(i, cause)] = [cause] := by
    simp [causesOf]
  have hgone : ((close i cause r.hub).hub.released.filter (·.session.id = i)) =
      r.hub.released.filter (·.session.id = i) ++ [{ e with session := e.session.finalize.1 }] := by
    have hid : e.session.finalize.1.id = i := id_of_find? he
    rw [released_close, List.filter_append, he]
    simp [hid]
  have hnameless : nameless e.session.finalize.1 = (nameless e.session).finalize.1 :=
    (Session.finalize_withId e.session ⟨0⟩).symm
  simp only [Record.view, Record.add, View.close, hfind, hgone, he, handedBy_append,
    causesOf_append, hcauses, handedBy_of_nil (handed_close i cause r.hub), List.append_nil,
    List.map_append, List.map_cons, List.map_nil, hnameless, Option.map_none, Option.map_some,
    Option.toList_some]

/-- Several sessions are closed, each of them once. -/
theorem view_closeAll {closings : List (ConnectionId × CloseCause)}
    (hnodup : (closings.map Prod.fst).Nodup)
    (hin : i ∈ closings.map Prod.fst → ∃ e, r.hub.find? i = some e) :
    (closings.foldl (fun r x => r.add (close x.1 x.2 r.hub) [x]) r).view i =
      (r.view i).closeFor (causesOf i closings).head? := by
  induction closings generalizing r with
  | nil => rfl
  | cons x closings ih =>
    obtain ⟨id, cause⟩ := x
    obtain ⟨hnew, hrestNodup⟩ : id ∉ closings.map Prod.fst ∧ (closings.map Prod.fst).Nodup :=
      List.nodup_cons.1 hnodup
    by_cases hid : i = id
    · -- The others do not matter any more.
      subst hid
      obtain ⟨e, he⟩ := hin List.mem_cons_self
      have hrest : causesOf i closings = [] := by
        refine List.filterMap_eq_nil_iff.2 fun y hy => if_neg fun heq => hnew ?_
        rw [← heq]
        exact List.mem_map_of_mem hy
      have hcauses : causesOf i ((i, cause) :: closings) = [cause] := by
        have happ := causesOf_append i [(i, cause)] closings
        rw [hrest] at happ
        simpa [causesOf] using happ
      rw [List.foldl_cons, ih hrestNodup fun hmem => absurd hmem hnew, hrest, view_close he,
        hcauses]
      rfl
    · have hcauses : causesOf i ((id, cause) :: closings) = causesOf i closings := by
        simp [causesOf, Ne.symm hid]
      rw [List.foldl_cons, ih hrestNodup ?_, view_close_of_ne hid, hcauses]
      intro hmem
      obtain ⟨e, he⟩ := hin (List.mem_cons_of_mem _ hmem)
      refine ⟨e, ?_⟩
      show (close id cause r.hub).hub.find? i = some e
      rw [find?_close, if_neg hid, he]

/-! ### One event -/

/-- The socket of another session is ready. -/
theorem view_serve_of_ne (hkeeps : app.Keeps) (hne : i ≠ id) (readable : Bool) :
    (r.next (.ready app readable id)).view i = r.view i := by
  rw [Record.next_eq]
  show (r.add (r.hub.serve app readable id) _).view i = _
  cases hf : r.hub.find? id with
  | none =>
    rw [serve_of_none hf, closings_ready_of_none hf]
    exact congrArg (Record.view i) r.add_start
  | some e =>
    obtain ⟨_, hstep⟩ := Session.exists_renames_serve hkeeps e.session readable
    rw [id_of_find? hf] at hstep
    have hupdated := view_update_of_ne (r := r) hne hstep.id (handedBy_step_of_ne hstep hne)
    cases hr : (e.session.serve app readable).result with
    | ok =>
      rw [serve_of_ok hf hr, closings_ready_of_ok hf hr]
      exact hupdated
    | error cause =>
      rw [serve_of_error hf hr, closings_ready_of_error hf hr, ← List.nil_append [_],
        Record.add_andThen]
      exact (view_close_of_ne hne).trans hupdated

/-- The socket of the session is ready. -/
theorem view_serve (hblind : react.Blind) (hans : app.Answers i react) (readable : Bool) :
    (r.next (.ready app readable i)).view i = (r.view i).serve react readable := by
  rw [Record.next_eq]
  show (r.add (r.hub.serve app readable i) _).view i = _
  cases hf : r.hub.find? i with
  | none =>
    rw [serve_of_none hf, closings_ready_of_none hf, View.serve_of_none (view_session_of_none hf)]
    exact congrArg (Record.view i) r.add_start
  | some e =>
    have hstep : (e.session.serve app readable).Renames i ⟨0⟩
        ((nameless e.session).serve react readable) :=
      Session.renames_serve hblind hans readable (id_of_find? hf)
    have hupdated := view_step hf hstep
    have hsession := view_session_of_find? hf
    cases hr : (e.session.serve app readable).result with
    | ok =>
      rw [serve_of_ok hf hr, closings_ready_of_ok hf hr,
        View.serve_of_ok hsession (hstep.result.trans hr)]
      exact hupdated
    | error cause =>
      have hfound : (r.hub.update i (e.session.serve app readable).session).find? i =
          some { e with session := (e.session.serve app readable).session } := by
        rw [find?_update r.hub hstep.id, if_pos rfl, hf]
        rfl
      rw [serve_of_error hf hr, closings_ready_of_error hf hr, ← List.nil_append [_],
        Record.add_andThen, View.serve_of_error hsession (hstep.result.trans hr)]
      exact (view_close hfound).trans (congrArg (View.close _) hupdated)

/-- A heartbeat of another session. -/
theorem view_beat_of_ne (hkeeps : app.Keeps) (hne : i ≠ id) :
    (r.add (r.hub.beat app id).1 []).view i = r.view i ∧
      (r.hub.beat app id).1.hub.find? i = r.hub.find? i := by
  unfold beat
  split
  · exact ⟨congrArg (Record.view i) r.add_start, rfl⟩
  · next e he =>
    obtain ⟨_, hstep⟩ := Session.exists_renames_beat hkeeps e.session
    rw [id_of_find? he] at hstep
    refine ⟨view_update_of_ne hne hstep.id (handedBy_step_of_ne hstep hne), ?_⟩
    rw [find?_update r.hub hstep.id, if_neg hne]

/-- A heartbeat of the session. -/
theorem view_beat (hblind : react.Blind) (hans : app.Answers i react)
    (he : r.hub.find? i = some e) :
    (r.add (r.hub.beat app i).1 []).view i =
        (r.view i).after ((nameless e.session).beat react) ∧
      (r.hub.beat app i).2 = ((nameless e.session).beat react).closeCause? := by
  have hstep : (e.session.beat app).Renames i ⟨0⟩ ((nameless e.session).beat react) :=
    Session.renames_beat hblind hans (id_of_find? he)
  unfold beat
  rw [he]
  exact ⟨view_step he hstep, hstep.closeCause?.symm⟩

/-- Heartbeats are told one after the other. -/
theorem add_beatAll (r : Record) (app : App) (id : ConnectionId) (ids : List ConnectionId) :
    let next := r.add (r.hub.beat app id).1 []
    r.add (r.hub.beatAll app (id :: ids)).1 [] = next.add (next.hub.beatAll app ids).1 [] :=
  r.add_andThen (r.hub.beat app id).1 (fun h => (h.beatAll app ids).1) [] []

theorem causesOf_beatAll (i id : ConnectionId) (ids : List ConnectionId) (app : App) (h : Hub) :
    causesOf i (h.beatAll app (id :: ids)).2 =
      (if id = i then (h.beat app id).2.toList else []) ++
        causesOf i ((h.beat app id).1.hub.beatAll app ids).2 := by
  show causesOf i (((h.beat app id).2.map (id, ·)).toList ++ _) = _
  rw [causesOf_append]
  congr 1
  cases (h.beat app id).2 with
  | none => simp [causesOf]
  | some cause => split <;> simp_all [causesOf]

/-- The heartbeats of others. -/
theorem view_beatAll_of_not_mem (hkeeps : app.Keeps) {ids : List ConnectionId} (hi : i ∉ ids) :
    (r.add (r.hub.beatAll app ids).1 []).view i = r.view i ∧
      causesOf i (r.hub.beatAll app ids).2 = [] := by
  induction ids generalizing r with
  | nil => exact ⟨congrArg (Record.view i) r.add_start, rfl⟩
  | cons id ids ih =>
    obtain ⟨hne, hrest⟩ := List.ne_and_not_mem_of_not_mem_cons hi
    obtain ⟨hview, hcauses⟩ := ih (r := r.add (r.hub.beat app id).1 []) hrest
    refine ⟨?_, ?_⟩
    · rw [add_beatAll, hview]
      exact (view_beat_of_ne hkeeps hne).1
    · rw [causesOf_beatAll, if_neg (Ne.symm hne)]
      exact hcauses

/-- A heartbeat of several sessions, this one among them.  Those before it and those behind it leave
it as it is. -/
theorem view_beatAll (hblind : react.Blind) (hkeeps : app.Keeps) (hans : app.Answers i react)
    {ids : List ConnectionId} (hnodup : ids.Nodup) (hi : i ∈ ids)
    (he : r.hub.find? i = some e) :
    (r.add (r.hub.beatAll app ids).1 []).view i =
        (r.view i).after ((nameless e.session).beat react) ∧
      causesOf i (r.hub.beatAll app ids).2 =
        ((nameless e.session).beat react).closeCause?.toList := by
  induction ids generalizing r with
  | nil => simp at hi
  | cons id ids ih =>
    obtain ⟨hnew, hrestNodup⟩ := List.nodup_cons.1 hnodup
    by_cases hid : i = id
    · subst hid
      obtain ⟨hview, hcause⟩ := view_beat hblind hans he
      obtain ⟨hrest, hnone⟩ :=
        view_beatAll_of_not_mem (r := r.add (r.hub.beat app i).1 []) hkeeps hnew
      refine ⟨?_, ?_⟩
      · rw [add_beatAll, hrest]
        exact hview
      · rw [causesOf_beatAll, if_pos rfl, hcause]
        exact (congrArg (_ ++ ·) hnone).trans (List.append_nil _)
    · have hmem : i ∈ ids := (List.mem_cons.1 hi).resolve_left hid
      obtain ⟨hview, hfind⟩ := view_beat_of_ne (r := r) hkeeps hid
      obtain ⟨hrest, hcauses⟩ :=
        ih (r := r.add (r.hub.beat app id).1 []) hrestNodup hmem (hfind.trans he)
      refine ⟨?_, ?_⟩
      · rw [add_beatAll, hrest, hview]
      · rw [causesOf_beatAll, if_neg (Ne.symm hid)]
        exact hcauses

/-- A heartbeat, in any order of the sessions. -/
theorem view_heartbeat (hblind : react.Blind) (hkeeps : app.Keeps) (hans : app.Answers i react)
    (hs : r.hub.Sound) (tour : Tour) :
    (r.next (.heartbeat app tour)).view i = (r.view i).beat react := by
  have hnodup := (tour.perm r.hub.ids).nodup_iff.2 hs.nodup
  have hmem : i ∈ tour.order r.hub.ids ↔ i ∈ r.hub.ids := (tour.perm r.hub.ids).mem_iff
  obtain ⟨hids, -, hsub⟩ := ids_beatAll hkeeps (tour.order r.hub.ids) r.hub
  -- First everybody gets the heartbeat, then those that are to be closed are.
  let beaten := r.add (r.hub.beatAll app (tour.order r.hub.ids)).1 []
  have hclosed : (r.next (.heartbeat app tour)).view i =
      (beaten.view i).closeFor (causesOf i (r.hub.beatAll app (tour.order r.hub.ids)).2).head? := by
    refine (congrArg (Record.view i) (r.add_forEach_close _ [] _)).trans ?_
    refine view_closeAll (hnodup.sublist hsub) fun hin => mem_ids.1 ?_
    show i ∈ (r.hub.beatAll app (tour.order r.hub.ids)).1.hub.ids
    rw [hids, ← hmem]
    exact hsub.subset hin
  rw [hclosed]
  cases hf : r.hub.find? i with
  | none =>
    have hout : i ∉ tour.order r.hub.ids := fun hin => find?_eq_none.1 hf (hmem.1 hin)
    obtain ⟨hview, hcauses⟩ := view_beatAll_of_not_mem (r := r) hkeeps hout
    rw [hcauses, View.beat_of_none (view_session_of_none hf)]
    exact hview
  | some e =>
    have hin : i ∈ tour.order r.hub.ids := hmem.2 (mem_ids.2 ⟨e, hf⟩)
    obtain ⟨hview, hcauses⟩ := view_beatAll hblind hkeeps hans hnodup hin hf
    rw [hcauses, View.beat_of_some (view_session_of_find? hf), Option.head?_toList]
    exact congrArg (View.closeFor _) hview

/-- The end of the loop, in any order of the sessions. -/
theorem view_stop (hs : r.hub.Sound) (tour : Tour) :
    (r.next (.stop tour)).view i = (r.view i).stop := by
  have hnodup := (tour.perm r.hub.ids).nodup_iff.2 hs.nodup
  have hmem : i ∈ tour.order r.hub.ids ↔ i ∈ r.hub.ids := (tour.perm r.hub.ids).mem_iff
  let closings := (tour.order r.hub.ids).map fun id => (id, CloseCause.shutdown)
  have hfst : closings.map Prod.fst = tour.order r.hub.ids := by
    rw [List.map_map]
    exact List.map_id _
  let closed := (Turn.start r.hub).forEach closings fun x => close x.1 x.2
  have hturn : r.next (.stop tour) =
      (r.add closed closings).add (dropWaiting (tour.order r.hub.ids).length closed.hub) [] := by
    have hmap : closed = (Turn.start r.hub).forEach (tour.order r.hub.ids)
        (fun id => close id .shutdown) := Turn.forEach_map ..
    rw [← Record.add_andThen, List.append_nil, hmap]
    rfl
  have hclosed : (r.next (.stop tour)).view i =
      (r.view i).closeFor (causesOf i closings).head? := by
    rw [hturn]
    refine (view_add_of_quiet rfl rfl rfl).trans ?_
    refine (congrArg (Record.view i) (r.add_forEach_close _ [] closings)).trans ?_
    rw [r.add_start]
    refine view_closeAll (hfst ▸ hnodup) fun hin => mem_ids.1 (hmem.1 ?_)
    rwa [← hfst]
  rw [hclosed, head?_causesOf_map]
  cases hf : r.hub.find? i with
  | none =>
    rw [if_neg fun hin => find?_eq_none.1 hf (hmem.1 hin), View.stop, view_session_of_none hf]
    rfl
  | some e =>
    rw [if_pos (hmem.2 (mem_ids.2 ⟨e, hf⟩)), View.stop, view_session_of_find? hf]
    rfl

/-- A connection is registered. -/
theorem view_registerNext (hbound : i.number < r.hub.tracker.next) :
    (r.next .register).view i = r.view i := by
  refine view_add_of_quiet ?_ (released_registerNext r.hub) ?_
  · show r.hub.registerNext.hub.find? i = _
    unfold registerNext
    split
    · rfl
    · next c waiting _ =>
      cases hrefusal : c.refusal with
      | some detail => rfl
      | none =>
        have hnew : (⟨r.hub.tracker.next⟩ : ConnectionId) ≠ i := by
          rintro rfl
          exact Nat.lt_irrefl _ hbound
        refine (List.find?_append ..).trans ?_
        have hnone : List.find? (fun e : Entry => decide (e.session.id = i))
            [⟨c.serial, (Session.new ⟨r.hub.tracker.next⟩ c.peer c.socket
              r.hub.settings).register.session⟩] = none := by
          rw [List.find?_singleton, if_neg]
          exact fun hid => hnew (of_decide_eq_true hid)
        exact (congrArg (Option.or _) hnone).trans (Option.or_none)
  · show handedBy i r.hub.registerNext.effects = []
    unfold registerNext
    split
    · rfl
    · next c waiting _ => cases hrefusal : c.refusal <;> rfl

/-- Another session is changed from outside. -/
theorem view_change_of_ne (hne : i ≠ id) (c : Change) :
    (r.next (.change id c)).view i = r.view i := by
  show (r.add ⟨r.hub.touch id c, []⟩ []).view i = _
  unfold touch
  split
  · exact congrArg (Record.view i) r.add_start
  · next e he =>
    have hid := (c.id_apply e.session).trans (id_of_find? he)
    exact view_update_of_ne hne hid rfl

/-- The session is changed from outside. -/
theorem view_change (c : Change) : (r.next (.change i c)).view i = (r.view i).change c := by
  show (r.add ⟨r.hub.touch i c, []⟩ []).view i = _
  unfold touch
  cases hf : r.hub.find? i with
  | none =>
    have hview : (r.view i).change c = r.view i := by
      ext1
      · show (r.view i).session.map c.apply = (r.view i).session
        rw [view_session_of_none hf]
        rfl
      all_goals rfl
    rw [hview]
    exact congrArg (Record.view i) r.add_start
  | some e =>
    have hid := (c.id_apply e.session).trans (id_of_find? hf)
    have hsame : nameless (c.apply e.session) = c.apply (nameless e.session) := by
      have hhandle := c.blind e.session.handle ⟨0⟩
      simp only [nameless, Session.withId, Change.apply, hhandle]
    have hfind : (r.hub.update i (c.apply e.session)).find? i =
        some { e with session := c.apply e.session } := by
      rw [find?_update r.hub hid, if_pos rfl, hf]
      rfl
    simp only [Record.view, Record.add, View.change, hfind, hf, List.append_nil, Option.map_some,
      hsame]
    rfl

/-- **What happens, seen from one session.** -/
theorem view_next (hblind : react.Blind) (hs : r.hub.Sound)
    (hbound : i.number < r.hub.tracker.next) {x : Happening} (hserves : x.Serves i react) :
    (r.next x).view i = (x.on i).elim (r.view i) ((r.view i).step react) := by
  cases x with
  | register => exact view_registerNext hbound
  | ready app readable id =>
    obtain ⟨hkeeps, hans⟩ := hserves app rfl
    by_cases hid : id = i
    · subst hid
      rw [Happening.on, if_pos rfl]
      exact view_serve hblind hans readable
    · rw [Happening.on, if_neg hid]
      exact view_serve_of_ne hkeeps (Ne.symm hid) readable
  | heartbeat app tour =>
    obtain ⟨hkeeps, hans⟩ := hserves app rfl
    exact view_heartbeat hblind hkeeps hans hs tour
  | change id c =>
    by_cases hid : id = i
    · subst hid
      rw [Happening.on, if_pos rfl]
      exact view_change c
    · rw [Happening.on, if_neg hid]
      exact view_change_of_ne (Ne.symm hid) c
  | stop tour => exact view_stop hs tour

/-- **A run, seen from one session.** -/
theorem Record.view_run (hblind : react.Blind) {xs : List Happening} (r : Record)
    (hs : r.hub.Sound) (hbound : i.number < r.hub.tracker.next)
    (hserves : ∀ x ∈ xs, x.Serves i react) :
    (r.run xs).view i = (xs.filterMap (·.on i)).foldl (View.step react) (r.view i) := by
  induction xs generalizing r with
  | nil => rfl
  | cons x xs ih =>
    obtain ⟨hx, hxs⟩ := List.forall_mem_cons.1 hserves
    have hgrows := x.grows_turn (fun app happ => (hx app happ).1) r.hub
    have hrest := ih (r.next x) (hgrows.sound hs) (Nat.lt_of_lt_of_le hbound hgrows.next) hxs
    refine hrest.trans ?_
    rw [view_next hblind hs hbound hx, List.filterMap_cons]
    cases x.on i <;> rfl

end

end Hub

end WebSocket
