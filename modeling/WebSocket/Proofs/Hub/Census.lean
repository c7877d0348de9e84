import WebSocket.Proofs.Hub.Emptied

/-!
# The census of a hub

Whatever happens to a hub, and in whatever order its loop and the other threads take their steps,
the books agree whenever no session is half closed: the tracker with the sessions, what was taken
from those that waited with what was opened and what could not be, what was opened with what is
there and what was closed.  Whoever looks at the handle of a session that was closed can do nothing
with it any more.  But a packet of somebody who looked in time may still wait there.

## Main definitions

* `Hub.Ledger.Right` — the books agree.
* `Hub.Interplay.Stopping` — how far the end of the loop has come.
* `Hub.Interplay.Cleared` — when the loop is there, nothing is left.

## Main results

* `Hub.Interplay.Kept.right` — when no session is half closed, the books agree.
* `Hub.Interplay.Stopping.proceed`, `Hub.Interplay.Stopping.run` — what is left when the loop ends.
* `Hub.Interplay.census_in_every_order` — **in every order of the steps the books agree, and the
  handles of closed sessions refuse.**
* `Hub.Interplay.not_emptied_by_close` — **something may wait for a session that was closed.**
-/

namespace WebSocket

namespace Hub

/-- The books agree. -/
structure Ledger.Right (l : Ledger) : Prop where
  /-- The tracker counts the sessions that are there. -/
  active : l.hub.tracker.active = l.hub.entries.length
  /-- The tracker has counted the connections that were taken. -/
  tracked : l.taken.length = l.hub.tracker.opened
  /-- Each of them was opened or could not be registered. -/
  registered : l.taken.length = l.count .sessionsOpened + (refused l.taken).length
  /-- Each session that was opened is there or was closed, for one reason. -/
  opened : l.count .sessionsOpened =
    l.hub.tracker.active + ∑ reason : CloseReason, l.count (.sessionsClosed reason)
  /-- Broken protocols are counted as they are counted among the reasons. -/
  protocol : l.count .protocolErrors = l.count (.sessionsClosed .protocolError)

namespace Interplay

variable {known : List ConnectionId} {id : ConnectionId} {s t : Interplay}

/-- When no session is half closed, the books agree. -/
theorem Kept.right (hs : s.Kept known) (hl : s.leaving = none) : s.Right where
  active := by
    rw [hs.active, hl]
    rfl
  tracked := hs.tracked
  registered := hs.registered
  opened := hs.opened
  protocol := by
    rw [hs.protocol, blamed_of_none hl]
    rfl

/-! ### The end of the loop -/

/-- How far the end of the loop has come. -/
inductive Stopping (s : Interplay) : Prop
  | begun (tour : Tour) (hl : s.leaving = none) (htasks : s.tasks = [.stop tour])
  /-- The sessions `rest` are still to be closed, and after them the connections that wait are let
  go. -/
  | closing (rest : List ConnectionId) (closed dropped : Nat)
    (htasks : s.tasks = rest.map (.close · .shutdown) ++ [.drain closed dropped])
    (hrest : s.hub.ids ⊆ rest)
  | ended (hrest : s.AtRest)

/-- What others do meanwhile. -/
theorem Stopping.outside (h : s.Stopping) (hl : s.leaving = none → t.leaving = none)
    (htasks : t.tasks = s.tasks) (hids : t.hub.ids = s.hub.ids) : t.Stopping := by
  cases h with
  | begun tour hnone hs => exact .begun tour (hl hnone) (htasks.trans hs)
  | closing rest closed dropped hs hrest =>
    exact .closing rest closed dropped (htasks.trans hs) (hids ▸ hrest)
  | ended hs => exact .ended ⟨htasks.trans hs.1, hl hs.2⟩

/-- Others neither begin nor end a session. -/
theorem outside_step {m : Move} (hm : m ≠ .proceed) (hbegin : ∀ a, m ≠ .begin a)
    (h : s.step m = some t) :
    (s.leaving = none → t.leaving = none) ∧ t.tasks = s.tasks ∧ t.hub.ids = s.hub.ids := by
  have hset : ∀ handle, (s.hub.setHandle handle).ids = s.hub.ids := by
    intro handle
    show (s.hub.entries.map (touched handle)).map (·.session.id) = _
    rw [List.map_map]
    exact List.map_congr_left fun e _ => id_touched handle e
  have hmap : ∀ f : Leaving → Leaving, s.leaving = none → s.leaving.map f = none := by
    intro f hnone
    rw [hnone]
    rfl
  cases m with
  | accept c =>
    obtain rfl := Option.some.inj h
    exact ⟨id, rfl, rfl⟩
  | signal serial f =>
    obtain rfl := Option.some.inj h
    refine ⟨hmap _, rfl, ?_⟩
    show (s.hub.entries.map (signalled serial f)).map (·.session.id) = _
    rw [List.map_map]
    exact List.map_congr_left fun e _ => id_signalled serial f e
  | use i u =>
    obtain ⟨handle, handle', -, rfl, -⟩ := exists_of_use h
    exact ⟨hmap _, rfl, hset handle'⟩
  | enter i m =>
    obtain ⟨handle, -, rfl⟩ := Option.map_eq_some_iff.1 h
    exact ⟨id, rfl, rfl⟩
  | goOn place =>
    obtain ⟨⟨i, q⟩, -, hstep⟩ := Option.bind_eq_some_iff.1 h
    obtain ⟨handle, -, rfl⟩ := Option.map_eq_some_iff.1 hstep
    cases (q.step handle).2 <;> exact ⟨hmap _, rfl, hset _⟩
  | begin a => exact absurd rfl (hbegin a)
  | proceed => exact absurd rfl hm

/-- If the loop is there, no session is left, and nobody waits. -/
def Cleared (s : Interplay) : Prop := s.AtRest → s.hub.entries = [] ∧ s.hub.waiting = []

/-- A connection that waits is let go, or none waits any more and the loop ends. -/
theorem stopping_drain (hl : s.leaving = none) (hrest : s.hub.ids ⊆ []) (htasks : s.tasks = [])
    (closed dropped : Nat) :
    (s.perform (.drain closed dropped)).Stopping ∧
      (s.perform (.drain closed dropped)).Cleared := by
  have hempty : s.hub.entries = [] := List.map_eq_nil_iff.1 (List.subset_nil.1 hrest)
  unfold perform
  dsimp only
  split
  · next hwaiting => exact ⟨.ended ⟨htasks, hl⟩, fun _ => ⟨hempty, hwaiting⟩⟩
  · refine ⟨.closing [] closed (dropped + 1) (congrArg (_ :: ·) htasks) hrest, fun hdone => ?_⟩
    exact absurd hdone.1 (by simp [Interplay.push])

/-- The next session is closed, if it is still there. -/
theorem stopping_close {i : ConnectionId} {rest : List ConnectionId} (hrest : s.hub.ids ⊆ i :: rest)
    {closed dropped : Nat}
    (htasks : s.tasks = rest.map (.close · .shutdown) ++ [.drain closed dropped]) :
    (s.perform (.close i .shutdown)).Stopping ∧ ¬(s.perform (.close i .shutdown)).AtRest := by
  have hnot : ∀ u : Interplay, u.tasks = s.tasks → ¬u.AtRest := by
    intro u hu hdone
    rw [AtRest, hu, htasks] at hdone
    exact absurd hdone.1 (by simp)
  unfold perform
  dsimp only
  cases hf : s.hub.find? i with
  | none =>
    refine ⟨.closing rest closed dropped htasks fun j hj => ?_, hnot s rfl⟩
    have hne : j ≠ i := by
      rintro rfl
      obtain ⟨e, he⟩ := mem_ids.1 hj
      rw [hf] at he
      exact nomatch he
    exact (List.mem_cons.1 (hrest hj)).resolve_left hne
  | some e =>
    refine ⟨.closing rest closed dropped htasks fun j hj => ?_, hnot _ rfl⟩
    obtain ⟨f, hmem, rfl⟩ := List.mem_map.1 hj
    obtain ⟨hthere, hne⟩ := List.mem_filter.1 hmem
    have hne : f.session.id ≠ i := by simpa [id_of_find? hf] using hne
    exact (List.mem_cons.1 (hrest (List.mem_map_of_mem hthere))).resolve_left hne

/-- **The loop goes on towards its end.** -/
theorem Stopping.proceed (h : s.Stopping) (hp : s.proceed = some t) : t.Stopping ∧ t.Cleared := by
  cases h with
  | begun tour hl htasks =>
    rw [proceed_of_cons hl htasks] at hp
    obtain rfl := Option.some.inj hp
    refine ⟨.closing (tour.order s.hub.ids) _ 0 (List.append_nil _) ?_, fun hdone => ?_⟩
    · exact fun i hi => (tour.perm s.hub.ids).mem_iff.2 hi
    · exact absurd hdone.1 (by simp [perform, Interplay.push])
  | closing rest closed dropped htasks hrest =>
    cases hl : s.leaving with
    | some l =>
      simp only [Interplay.proceed, hl, Option.some.injEq] at hp
      subst hp
      obtain ⟨hsame, hentries⟩ := closeOn_keeps s l
      have hids : (s.closeOn l).hub.ids = s.hub.ids := congrArg (List.map _) hentries
      refine ⟨.closing rest closed dropped (hsame.trans htasks) (hids ▸ hrest), fun hdone => ?_⟩
      rw [AtRest, hsame, htasks] at hdone
      exact absurd hdone.1 (by simp)
    | none =>
      cases rest with
      | nil =>
        rw [proceed_of_cons hl htasks] at hp
        obtain rfl := Option.some.inj hp
        exact stopping_drain (s := { s with tasks := [] }) hl hrest rfl closed dropped
      | cons i rest =>
        rw [proceed_of_cons hl htasks] at hp
        obtain rfl := Option.some.inj hp
        let tasks := rest.map (Task.close · .shutdown) ++ [.drain closed dropped]
        obtain ⟨hstopping, hnot⟩ := stopping_close (s := { s with tasks }) hrest rfl
        exact ⟨hstopping, fun hdone => absurd hdone hnot⟩
  | ended hs =>
    simp [Interplay.proceed, hs.1, hs.2] at hp

/-- **What is left when the loop ends.**  The induction is on the steps. -/
theorem Stopping.run (h : s.Stopping) {moves : List Move} (hbegin : ∀ m ∈ moves, ∀ a, m ≠ .begin a)
    (hrun : s.run moves = some t) : t.Stopping := by
  induction moves generalizing s with
  | nil =>
    obtain rfl : s = t := Option.some.inj hrun
    exact h
  | cons m moves ih =>
    obtain ⟨hm, hrest⟩ := List.forall_mem_cons.1 hbegin
    obtain ⟨next, hnext, hend⟩ := exists_of_run_cons hrun
    refine ih ?_ hrest hend
    by_cases hproceed : m = .proceed
    · subst hproceed
      exact (h.proceed hnext).1
    · obtain ⟨hl, htasks, hids⟩ := outside_step hproceed hm hnext
      exact h.outside hl htasks hids

/-! ### In every order -/

/-- **In every order of the steps the books agree, and the handles of closed sessions refuse.**  The
loop does whatever it does, one thing after the other, with any applications that use their handles
only and do not move the counters of sessions; in between, connections come in, clients do what they
do, and anybody uses the handle of any session.  Whenever no session is half closed, the tracker
counts the sessions that are there; the connections that were taken to be registered are as many as
the tracker has counted, and each of them was opened or could not be; each session that was opened
is there or was closed, and its reason is counted once.  The handle of a session that is not there
any more is closed, and whoever looks at it now is refused and changes nothing.  Pending on it are
the packets of those who had looked before; if the closing of the session was calm, there are none.
And when the loop has just ended, no session is there and no connection waits. -/
theorem census_in_every_order (settings : SessionSettings) (front back : List Move)
    (hmoves : ∀ m ∈ front ++ back, m.Proper) {early late : Interplay}
    (hearly : (new settings).run front = some early) (hlate : early.run back = some late)
    (hl : late.leaving = none) :
    late.Right ∧
      (∀ id ∈ early.hub.ids, id ∉ late.hub.ids → ∃ handle, late.handle? id = some handle ∧
        handle.closed = true ∧ handle.closeRequested = true ∧
        (∀ place m, late.queueings[place]? = some (id, .entered m) →
          late.step (.goOn place) = some { late with
            queueings := late.queueings.eraseIdx place
            answers := late.answers ++ [(id, .error .closed)] }) ∧
        handle.outbox.pending = handle.outbox.waiting.length + late.counted id ∧
        ((∀ moves s, moves <+: back → early.run moves = some s → s.Calm id) →
          handle.outbox.pending = 0)) ∧
      ∀ tour moves ended, (∀ m ∈ moves, ∀ a, m ≠ .begin a) →
        late.run (.begin (.stop tour) :: (moves ++ [.proceed])) = some ended → ended.AtRest →
          ended.Right ∧ ended.hub.entries = [] ∧ ended.hub.waiting = [] ∧
            ended.hub.tracker.active = 0 := by
  have hfront : ∀ m ∈ front, m.Proper := fun m hm => hmoves m (List.mem_append_left _ hm)
  have hback : ∀ m ∈ back, m.Proper := fun m hm => hmoves m (List.mem_append_right _ hm)
  have hkept : early.Kept early.ids := ((kept_new settings).run hfront hearly).since
  have hend : late.Kept early.ids := hkept.run hback hlate
  refine ⟨hend.right hl, ?_, ?_⟩
  · intro id hthere hnot
    have hknown : id ∈ early.ids := by
      obtain ⟨e, he, rfl⟩ := List.mem_map.1 hthere
      exact List.mem_map_of_mem (mem_sessions.2 (.inl he))
    obtain ⟨e, he, rfl⟩ := hend.exists_released hl hknown hnot
    obtain ⟨hhandle, hclosed, hrequested, hpending⟩ := hend.closed_of_released he
    refine ⟨e.session.handle, hhandle, hclosed, hrequested, ?_, hpending, fun hcalm => ?_⟩
    · exact fun place m hplace => hend.goOn_of_closed hhandle hclosed hplace
    · -- Nothing waits, and whoever had counted a packet had found the session open.
      have hsettled := (hkept.settled hthere).run hkept hback
        (fun moves s hprefix hrun => hcalm moves s hprefix hrun) hlate
      have hwaiting := hsettled.waiting e (mem_emptied.2 (.inr he)) rfl
      have hnone := hsettled.counted_eq_zero he rfl
      rw [hpending, hwaiting, hnone]
      rfl
  · intro tour moves ended hbegin hrun hrest
    obtain ⟨begun, hbegun, hmoved⟩ := exists_of_run_cons hrun
    obtain ⟨last, hlast, hdone⟩ := exists_of_run_concat hmoved
    obtain ⟨-, -, rfl⟩ := begin_eq_some hbegun
    have hstarted : ({ late with tasks := (Act.stop tour).tasks } : Interplay).Stopping :=
      .begun tour hl rfl
    obtain ⟨-, hempty⟩ := (hstarted.run hbegin hlast).proceed hdone
    obtain ⟨hentries, hwaiting⟩ := hempty hrest
    have hproper : ∀ m ∈ Move.begin (.stop tour) :: (moves ++ [.proceed]), m.Proper := by
      intro m hm
      cases m with
      | begin a =>
        have ha : a = .stop tour := by
          rcases List.mem_cons.1 hm with hfirst | hlater
          · exact Move.begin.inj hfirst
          · rcases List.mem_append.1 hlater with hmid | hlast
            · exact absurd rfl (hbegin _ hmid a)
            · exact nomatch List.mem_singleton.1 hlast
        rw [ha]
        intro app happ
        exact nomatch happ
      | accept | signal | use | enter | goOn | proceed => trivial
    have hright := (hend.run hproper hrun).right hrest.2
    refine ⟨hright, hentries, hwaiting, ?_⟩
    rw [hright.active, hentries]
    rfl

/-- Of three connections one cannot be registered, and the client of another hangs up.  Somebody
calls to queue a message for its session before this is closed, and looks when it was.  Then the
loop ends, while another connection waits. -/
theorem census_of_three_in_this_order :
    let peer : SocketAddress := ⟨.v4 127 0 0 1, 5000, 0⟩
    let app : App := fun h _ => ⟨h, [], some "no messages, please"⟩
    let front := [.accept ⟨0, peer, .fresh, none⟩, .accept ⟨1, peer, .fresh, some "no room"⟩,
      .accept ⟨2, peer, Socket.fresh.finish, none⟩, .begin (.register 3)] ++
        List.replicate 4 .proceed
    let back := [.enter ⟨3⟩ .close, .begin (.iterate app 0 none)] ++ List.replicate 9 .proceed
    let ending := .accept ⟨3, peer, .fresh, none⟩ :: List.replicate 8 .proceed
    ∃ early late ended, (new ⟨4, 8, default⟩).run front = some early ∧ early.run back = some late ∧
      late.run (.begin (.stop .registered) :: (ending ++ [.proceed])) = some ended ∧
      early.hub.ids = [⟨1⟩, ⟨3⟩] ∧ late.hub.ids = [⟨1⟩] ∧ late.Right ∧
      (∃ handle, late.handle? ⟨3⟩ = some handle ∧ handle.closed = true ∧
        handle.outbox.pending = 0 ∧ late.step (.goOn 0) = some { late with
          queueings := late.queueings.eraseIdx 0
          answers := late.answers ++ [(⟨3⟩, .error .closed)] }) ∧
      ended.Right ∧ ended.hub.entries = [] ∧ ended.hub.waiting = [] := by
  intro peer app front back ending
  have hrun : (((new ⟨4, 8, default⟩).run front).bind fun early => (early.run back).bind fun late =>
      (late.run (.begin (.stop .registered) :: (ending ++ [.proceed]))).map fun ended => decide <|
        early.hub.ids = [⟨1⟩, ⟨3⟩] ∧ late.hub.ids = [⟨1⟩] ∧ late.leaving.isNone ∧
        late.queueings[0]? = some (⟨3⟩, .entered .close) ∧
        (∀ moves ∈ back.inits, (early.run moves).all fun s =>
          s.queueings.all fun q => !q.2.isPast) ∧
        ended.tasks.isEmpty ∧ ended.leaving.isNone) = some true := by
    decide +kernel
  obtain ⟨early, hearly, hrun⟩ := Option.bind_eq_some_iff.1 hrun
  obtain ⟨late, hlate, hrun⟩ := Option.bind_eq_some_iff.1 hrun
  obtain ⟨ended, hended, hfacts⟩ := Option.map_eq_some_iff.1 hrun
  obtain ⟨hthere, hleft, hleaving, hplace, hpast, htasks, hnone⟩ := of_decide_eq_true hfacts
  have hproper : ∀ m ∈ front ++ back, m.Proper := by
    have happ : app.Proper := ⟨fun _ _ => .refl, fun _ _ => Effect.quiet_nil⟩
    simp [front, back, Move.Proper, Act.Proper, Act.app?, happ]
  have hcalm : ∀ moves s, moves <+: back → early.run moves = some s → s.Calm ⟨3⟩ := by
    intro moves s hprefix hs l _ _ _ q hq _
    have hall := hpast moves ((List.mem_inits moves back).2 hprefix)
    rw [hs] at hall
    simpa using List.all_eq_true.1 hall q hq
  obtain ⟨hright, hgone, hstop⟩ := census_in_every_order ⟨4, 8, default⟩ front back hproper
    hearly hlate (Option.isNone_iff_eq_none.1 hleaving)
  obtain ⟨handle, hhandle, hclosed, -, hrefuses, -, hempty⟩ :=
    hgone ⟨3⟩ (by rw [hthere]; simp) (by rw [hleft]; simp)
  obtain ⟨hend, hentries, hwaiting, -⟩ := hstop .registered ending ended (by simp [ending]) hended
    ⟨List.isEmpty_iff.1 htasks, Option.isNone_iff_eq_none.1 hnone⟩
  exact ⟨early, late, ended, hearly, hlate, hended, hthere, hleft, hright,
    ⟨handle, hhandle, hclosed, hempty hcalm, hrefuses 0 .close hplace⟩, hend, hentries, hwaiting⟩

/-- **Something may wait for a session that was closed.**  A call finds the session open, and there
is room in the queue.  Then the loop ends: it finds the queue empty, the call adds its packet, and
only now the handle is told that its session is closed.  The call comes back as if all were well. -/
theorem not_emptied_by_close :
    let front := [.accept ⟨0, ⟨.v4 127 0 0 1, 5000, 0⟩, .fresh, none⟩, .begin (.register 1),
      .proceed, .proceed]
    let back := [.enter ⟨1⟩ .close, .goOn 0, .goOn 0, .begin (.stop .registered), .proceed,
      .proceed, .proceed, .goOn 0, .goOn 0, .goOn 0, .proceed, .proceed, .proceed, .proceed,
      .proceed]
    ∃ early late handle, (new ⟨4, 8, default⟩).run front = some early ∧
      early.run back = some late ∧ late.AtRest ∧ ⟨1⟩ ∈ early.hub.ids ∧ ⟨1⟩ ∉ late.hub.ids ∧
      late.handle? ⟨1⟩ = some handle ∧ handle.closed = true ∧ handle.outbox.pending = 1 ∧
      late.answers = [(⟨1⟩, .ok ())] := by
  intro front back
  have hrun : (((new ⟨4, 8, default⟩).run front).bind fun early => (early.run back).bind fun late =>
      (late.handle? ⟨1⟩).map fun handle => decide <| late.tasks.isEmpty ∧ late.leaving.isNone ∧
        ⟨1⟩ ∈ early.hub.ids ∧ ⟨1⟩ ∉ late.hub.ids ∧ handle.closed = true ∧
        handle.outbox.pending = 1 ∧ late.answers = [(⟨1⟩, .ok ())]) = some true := by
    decide +kernel
  obtain ⟨early, hearly, hrun⟩ := Option.bind_eq_some_iff.1 hrun
  obtain ⟨late, hlate, hrun⟩ := Option.bind_eq_some_iff.1 hrun
  obtain ⟨handle, hhandle, hfacts⟩ := Option.map_eq_some_iff.1 hrun
  obtain ⟨htasks, hnone, hthere, hleft, hclosed, hpending, hanswers⟩ := of_decide_eq_true hfacts
  exact ⟨early, late, handle, hearly, hlate,
    ⟨List.isEmpty_iff.1 htasks, Option.isNone_iff_eq_none.1 hnone⟩, hthere, hleft, hhandle,
    hclosed, hpending, hanswers⟩

end Interplay

end Hub

end WebSocket
