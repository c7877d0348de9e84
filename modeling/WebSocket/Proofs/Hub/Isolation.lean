import WebSocket.Proofs.Hub.View
import WebSocket.Proofs.Session.Calls

/-!
# Sessions do not notice each other

Whatever happens to a hub, what becomes of one session is a matter of what happens to that session.
What is seen of it in the hub is what is seen of it in a hub where it is alone, and there is no
trace of the others: not of their failures and panics, not of the order in which a heartbeat visits
them, not of their numbers.

The application may do with the messages of other sessions what it likes, differently every time.
To the messages of the session in question it does the same every time, and its number plays no role
in that.  The numbers of the hub are sound, as they are in every hub that a run leads to
(`sound_new`, `Record.grows_run`).

## Main definitions

* `alone`, `Happening.alone` — the hub and the events without the others.

## Main results

* `view_isolated` — **sessions do not notice each other.**
-/

namespace WebSocket

namespace Hub

/-- The hub with session `i` alone, which has number `j` there. -/
def alone (i j : ConnectionId) (h : Hub) : Hub where
  settings := h.settings
  waiting := []
  entries := (h.find? i).toList.map fun e => { e with session := e.session.withId j }
  ready := []
  tracker := ⟨j.number + 1, 1, 1⟩
  released := []
  dropped := []

/-- What happens to session `i`, told of the hub in which it is alone under number `j`. -/
def Happening.alone (i j : ConnectionId) (react : App) : Happening → Option Happening
  | register => none
  | ready _ readable id => if id = i then some (.ready react readable j) else none
  | heartbeat .. => some (.heartbeat react .registered)
  | change id c => if id = i then some (.change j c) else none
  | stop _ => some (.stop .registered)

theorem Happening.on_alone (i j : ConnectionId) (react : App) (x : Happening) :
    (x.alone i j react).bind (·.on j) = x.on i := by
  cases x with
  | register | heartbeat | stop => rfl
  | ready app readable id =>
    by_cases hid : id = i
    · rw [alone, on, if_pos hid, if_pos hid]
      exact if_pos rfl
    · rw [alone, on, if_neg hid, if_neg hid]
      rfl
  | change id c =>
    by_cases hid : id = i
    · rw [alone, on, if_pos hid, if_pos hid]
      exact if_pos rfl
    · rw [alone, on, if_neg hid, if_neg hid]
      rfl

/-- An application that does not look at numbers does what it does. -/
theorem Happening.serves_alone {react : App} (hblind : react.Blind) {i j : ConnectionId}
    {x y : Happening} (hy : x.alone i j react = some y) : y.Serves j react := by
  have happ : ∀ app, y.app? = some app → app = react := by
    intro app happ
    cases x with
    | register => simp [alone] at hy
    | heartbeat | stop =>
      obtain rfl := Option.some.inj hy
      simp_all [app?]
    | ready app readable id | change id c =>
      rw [alone] at hy
      split at hy
      · obtain rfl := Option.some.inj hy
        simp_all [app?]
      · simp at hy
  intro app h
  obtain rfl := happ app h
  exact ⟨hblind.id_eq, fun _ _ _ => rfl, fun _ _ _ => rfl⟩

theorem find?_alone {h : Hub} {i : ConnectionId} {e : Entry} (he : h.find? i = some e)
    (j : ConnectionId) :
    (h.alone i j).find? j = some { e with session := e.session.withId j } := by
  rw [find?, alone, he]
  exact List.find?_cons_of_pos (decide_eq_true (Session.id_withId e.session j))

theorem sound_alone (h : Hub) (i j : ConnectionId) : (h.alone i j).Sound := by
  have hids : (h.alone i j).ids = (h.find? i).toList.map fun _ => j := List.map_map
  have hgone : (h.alone i j).goneIds = [] := rfl
  refine ⟨?_, ?_, ?_⟩
  · rw [hids]
    cases h.find? i <;> simp
  · simp [hgone]
  · intro id hid
    rw [hids, hgone, List.append_nil] at hid
    obtain ⟨_, -, rfl⟩ := List.mem_map.1 hid
    exact Nat.lt_succ_self _

/-- At first, too, the session looks the same. -/
theorem view_start_alone {h : Hub} (hs : h.Sound) {i : ConnectionId} {e : Entry}
    (he : h.find? i = some e) (j : ConnectionId) :
    (Record.start (h.alone i j)).view j = (Record.start h).view i := by
  have hgone : h.released.filter (·.session.id = i) = [] := by
    refine List.filter_eq_nil_iff.2 fun gone hmem hid => ?_
    have hout := hs.gone gone.session.id (List.mem_map_of_mem hmem)
    rw [of_decide_eq_true hid] at hout
    exact hout (mem_ids.2 ⟨e, he⟩)
  ext1
  · show ((h.alone i j).find? j).map _ = (h.find? i).map _
    rw [find?_alone he, he]
    rfl
  · show [] = (h.released.filter (·.session.id = i)).map _
    rw [hgone]
    rfl
  all_goals rfl

/-- **Sessions do not notice each other.**  Let an application do the same to the messages of
session `i` every time, whatever it does to those of others.  Then in every run of a hub, what is
seen of session `i` is what is seen of it where it is alone, under whatever number; and it is seen
in every run in which the same happens to it, whatever happens to others and in whatever order
heartbeats visit the sessions. -/
theorem view_isolated {h : Hub} (hs : h.Sound) {i : ConnectionId} {e : Entry}
    (he : h.find? i = some e) {react : App} (hblind : react.Blind) {xs : List Happening}
    (hserves : ∀ x ∈ xs, x.Serves i react) :
    (∀ j, (h.run xs).view i = ((h.alone i j).run (xs.filterMap (·.alone i j react))).view j) ∧
      ∀ ys : List Happening, (∀ y ∈ ys, y.Serves i react) →
        ys.filterMap (·.on i) = xs.filterMap (·.on i) →
          (h.run ys).view i = (h.run xs).view i := by
  have hbound : i.number < h.tracker.next :=
    hs.bound i (List.mem_append_left _ (mem_ids.2 ⟨e, he⟩))
  have hrun := Record.view_run hblind (Record.start h) hs hbound hserves
  refine ⟨fun j => ?_, fun ys hys hsame => ?_⟩
  · have hlone : ∀ y ∈ xs.filterMap (·.alone i j react), y.Serves j react := by
      intro y hy
      obtain ⟨x, -, hx⟩ := List.mem_filterMap.1 hy
      exact Happening.serves_alone hblind hx
    have hrunAlone := Record.view_run hblind (Record.start (h.alone i j)) (sound_alone h i j)
      (Nat.lt_succ_self j.number) hlone
    have hsame : (xs.filterMap (·.alone i j react)).filterMap (·.on j) =
        xs.filterMap (·.on i) := by
      rw [List.filterMap_filterMap]
      exact congrArg (xs.filterMap ·) (funext fun x => x.on_alone i j react)
    calc (h.run xs).view i
        = (xs.filterMap (·.on i)).foldl (View.step react) ((Record.start h).view i) := hrun
      _ = ((xs.filterMap (·.alone i j react)).filterMap (·.on j)).foldl (View.step react)
            ((Record.start (h.alone i j)).view j) := by rw [hsame, view_start_alone hs he]
      _ = ((h.alone i j).run (xs.filterMap (·.alone i j react))).view j :=
          hrunAlone.symm
  · have hother := Record.view_run hblind (Record.start h) hs hbound hys
    rw [hsame] at hother
    exact hother.trans hrun.symm

/-- Two sessions get a text.  The application panics over that of the first one, which is closed,
before the other is served; and neither this nor a heartbeat from the back to the front is seen of
the other. -/
theorem view_isolated_panic :
    let boom : App := fun h _ => ⟨h, [], if h.id = ⟨1⟩ then some "boom" else none⟩
    let s := (Session.narrow [0x81, 0x02, 0x68, 0x69]).register.session
    let h : Hub := { new default with
      entries := [⟨0, s.withId ⟨1⟩⟩, ⟨1, s.withId ⟨2⟩⟩], tracker := ⟨3, 2, 2⟩ }
    let xs : List Happening := [.ready boom true ⟨1⟩,
      .heartbeat boom ⟨List.reverse, List.reverse_perm⟩, .ready boom true ⟨1⟩,
      .ready boom true ⟨2⟩]
    ((h.run xs).view ⟨1⟩).causes = [.failed (.panicked "boom")] ∧
      ((h.run xs).view ⟨2⟩).handed = [(.text "hi" [], false)] ∧
      (h.run xs).view ⟨2⟩ = ((h.alone ⟨2⟩ ⟨1⟩).run [.heartbeat Session.quiet .registered,
        .ready Session.quiet true ⟨1⟩]).view ⟨1⟩ := by
  intro boom s h xs
  have hs : h.Sound := ⟨by decide +kernel, by simp [goneIds, h, new], by decide +kernel⟩
  have hserves : ∀ x ∈ xs, x.Serves ⟨2⟩ Session.quiet := by
    have hboom : boom.Keeps ∧ boom.Answers ⟨2⟩ Session.quiet := by
      refine ⟨fun _ _ => rfl, fun _ _ _ => rfl, fun handle m hid => ?_⟩
      simp [boom, Session.quiet, hid]
    intro x hx app happ
    have heq : app = boom := by
      simp only [xs, List.mem_cons, List.not_mem_nil, or_false] at hx
      rcases hx with rfl | rfl | rfl | rfl <;> exact (Option.some.inj happ).symm
    rw [heq]
    exact hboom
  have hblind : Session.quiet.Blind := ⟨fun _ _ _ => rfl, fun _ _ _ => rfl⟩
  have hfind : h.find? ⟨2⟩ = some ⟨1, s.withId ⟨2⟩⟩ := by rfl
  exact ⟨by decide +kernel, by decide +kernel,
    (view_isolated hs hfind hblind hserves).1 ⟨1⟩⟩

end Hub

end WebSocket
