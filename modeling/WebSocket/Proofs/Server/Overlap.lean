import WebSocket.Echo
import WebSocket.Proofs.Server.Stages
import WebSocket.Server.Race

/-!
# Stops that overlap a start

A stop takes the stages of a server out while it holds the lock on them, but it stops them after it
has let go of it; and the pool is shared by all starts.  So a stop that has taken the stages of one
start out may stop the pool of the next.

When no call is in progress, a server without stages has no running pool.  A server with stages has
one exactly when no stop was in progress at the moment of its last start.

## Main definitions

* `Server.Race.Part` — what each part of a call changes.
* `Server.Race.Move.isStart` — a whole start.

## Main results

* `Server.running_start` — right after a start the pool runs exactly if the server does.
* `Server.Race.pool_of_run` — **what becomes of the pool while nobody starts the server.**
* `Server.Race.pool_of_quiet` — **the pool when no call is in progress.**
* `Server.Race.not_pool_of_isRunning` — **a server that runs may have a pool that does not.**
-/

namespace WebSocket

namespace Server

variable (app : Service)

/-- Right after a start the pool runs exactly if the server does. -/
theorem running_start (c : Conditions) (s : Server) :
    (s.start app c).1.server.pool.running = (s.start app c).1.server.running.isSome := by
  have hidle : (s.stopLoops app).server.running = none := by
    cases hs : s.running with
    | none => rw [stopLoops_of_none app hs, hs]
    | some r =>
      obtain ⟨pool, handedOver, -, hloops⟩ := stopLoops_of_some app hs
      rw [hloops]
  have hbegins := (begins_start app c s).1
  generalize (s.start app c).1.server = t at hbegins ⊢
  generalize (s.start app c).2 = result at hbegins
  generalize begins c s.settings.listener = names at hbegins
  cases hbegins with
  | nothing e hrest => simp only [hidle, hrest.running, Option.isSome_none]
  | undone handedOver e hrest => simp only [hidle, hrest.running, Option.isSome_none]
  | everything listener hrunning => simp only [hrunning, Option.isSome_some]

namespace Race

/-- Stopping stages that were taken out changes neither whether the pool runs nor which stages the
server has. -/
theorem running_stopStages (stages : Running) (hub : Hub) (s : Server) :
    (stopStages app stages hub s).pool.running = s.pool.running ∧
      (stopStages app stages hub s).running = s.running := by
  obtain ⟨pool, handedOver, hrunning, hstopped⟩ := stopHub_eq app stages.hub
    ({ s with hub := sharing s.hub hub }.stopAcceptor stages).server
  unfold stopStages Step.andThen
  simp only
  rw [hstopped]
  exact ⟨hrunning, rfl⟩

variable {app} {r s : Race}

/-- What a part of a call does to the stages, to the stops in progress, and to whether the pool
runs. -/
inductive Part (r : Race) : Move → Race → Prop
  /-- After a start the pool runs exactly if the server has stages. -/
  | started (c : Conditions) {s : Race}
      (hpool : s.server.pool.running = s.server.running.isSome) : Part r (.start c) s
  /-- There was nothing to take out. -/
  | nothing (hnone : r.server.running = none) : Part r .takeOut r
  | tookOut {s : Race} (hnone : s.server.running = none) (hstops : s.stops ≠ []) : Part r .takeOut s
  | loopsStopped (place : Nat) {s : Race} (hrunning : s.server.running = r.server.running)
      (hpool : s.server.pool.running = r.server.pool.running)
      (hstops : s.stops.length = r.stops.length) : Part r (.stopLoops place) s
  | poolStopped (place : Nat) {s : Race} (hrunning : s.server.running = r.server.running)
      (hpool : s.server.pool.running = false)
      (hstops : s.stops.length + 1 = r.stops.length) : Part r (.stopPool place) s

/-- There are no other parts. -/
theorem part_of_step {m : Move} (hstep : r.step app m = some s) : r.Part m s := by
  cases m with
  | start c =>
    obtain rfl := Option.some.inj hstep
    exact .started c (running_start app c r.server)
  | takeOut =>
    cases hr : r.server.running with
    | none =>
      obtain rfl : r = s := by simpa [step, hr] using hstep
      exact .nothing hr
    | some stages =>
      simp only [step, hr, Option.some.injEq] at hstep
      subst hstep
      exact .tookOut rfl (by simp)
  | stopLoops place =>
    simp only [step] at hstep
    split at hstep
    · next stages hub _ =>
      obtain rfl := Option.some.inj hstep
      obtain ⟨hpool, hrunning⟩ := running_stopStages app stages hub r.server
      exact .loopsStopped place hrunning hpool List.length_set
    · simp at hstep
  | stopPool place =>
    simp only [step] at hstep
    split at hstep
    · next hplace =>
      obtain rfl := Option.some.inj hstep
      obtain ⟨hlt, -⟩ := List.getElem?_eq_some_iff.1 hplace
      rw [server_withPool_stop]
      refine .poolStopped place rfl rfl ?_
      show (r.stops.eraseIdx place).length + 1 = _
      rw [List.length_eraseIdx_of_lt hlt]
      omega
    · simp at hstep

/-! ### When nobody starts the server -/

/-- The call is a whole start. -/
def Move.isStart : Move → Bool
  | .start _ => true
  | _ => false

/-- What becomes of the pool and of the stops in progress while a server keeps its stages: some of
the stops end, and each of these stops the pool. -/
structure Keeps (r s : Race) : Prop where
  before : r.server.running.isSome
  fewer : s.stops.length ≤ r.stops.length
  pool : s.server.pool.running = true ↔
    r.server.pool.running = true ∧ s.stops.length = r.stops.length

theorem Keeps.trans {t : Race} (h : r.Keeps s) (h' : s.Keeps t) : r.Keeps t where
  before := h.before
  fewer := Nat.le_trans h'.fewer h.fewer
  pool := by
    have hfewer := h.fewer
    have hlater := h'.fewer
    rw [h'.pool, h.pool]
    constructor
    · rintro ⟨⟨hrunning, hsame⟩, hsame'⟩
      exact ⟨hrunning, hsame'.trans hsame⟩
    · rintro ⟨hrunning, hsame⟩
      exact ⟨⟨hrunning, by omega⟩, by omega⟩

theorem keeps_refl (hr : r.server.running.isSome) : r.Keeps r :=
  ⟨hr, Nat.le_refl _, fun h => ⟨h, rfl⟩, fun h => h.1⟩

/-- No part of a call but a start gives a server stages. -/
theorem Part.keeps {m : Move} (h : r.Part m s) (hm : m.isStart = false)
    (hs : s.server.running.isSome) : r.Keeps s := by
  cases h with
  | started c => simp [Move.isStart] at hm
  | nothing hnone => simp [hnone] at hs
  | tookOut hnone => simp [hnone] at hs
  | loopsStopped place hrunning hpool hstops =>
    refine ⟨hrunning ▸ hs, Nat.le_of_eq hstops, ?_⟩
    rw [hpool, hstops, eq_self, and_true]
  | poolStopped place hrunning hpool hstops =>
    refine ⟨hrunning ▸ hs, by omega, ?_, ?_⟩
    · rw [hpool]
      intro hfalse
      exact absurd hfalse Bool.false_ne_true
    · rintro ⟨-, hsame⟩
      omega

theorem run_cons {m : Move} {moves : List Move} :
    r.run app (m :: moves) = some s ↔ ∃ t, r.step app m = some t ∧ t.run app moves = some s := by
  simp [Race.run, Option.bind_eq_some_iff]

theorem run_append {moves more : List Move} :
    r.run app (moves ++ more) = some s ↔
      ∃ t, r.run app moves = some t ∧ t.run app more = some s := by
  simp [Race.run, List.foldlM_append, Option.bind_eq_some_iff]

/-- What the parts of calls in some order lead to can be reached. -/
theorem Reachable.of_run {settings : Settings} {moves : List Move}
    (hr : Reachable app settings r) (hrun : r.run app moves = some s) :
    Reachable app settings s := by
  induction moves generalizing r with
  | nil =>
    obtain rfl : r = s := by simpa [Race.run] using hrun
    exact hr
  | cons m moves ih =>
    obtain ⟨t, hstep, hlater⟩ := run_cons.1 hrun
    exact ih (hr.next m hstep) hlater

/-- **What becomes of the pool while nobody starts the server.**  As long as a server keeps its
stages, its pool runs until one of the stops in progress comes to it.  The induction is on the parts
of calls. -/
theorem pool_of_run {moves : List Move} (hmoves : ∀ m ∈ moves, m.isStart = false)
    (hrun : r.run app moves = some s) (hs : s.server.running.isSome) : r.Keeps s := by
  induction moves generalizing r with
  | nil =>
    obtain rfl : r = s := by simpa [Race.run] using hrun
    exact keeps_refl hs
  | cons m moves ih =>
    obtain ⟨hm, hrest⟩ := List.forall_mem_cons.1 hmoves
    obtain ⟨t, hstep, hlater⟩ := run_cons.1 hrun
    have hkept := ih hrest hlater
    exact ((part_of_step hstep).keeps hm hkept.before).trans hkept

/-! ### When no call is in progress -/

/-- The pool of a server without stages does not run, or some stop has yet to come to it. -/
def Vacant (r : Race) : Prop :=
  r.server.running = none → r.server.pool.running = false ∨ r.stops ≠ []

theorem Part.vacant {m : Move} (h : r.Part m s) (hr : r.Vacant) : s.Vacant := by
  intro hs
  cases h with
  | started c hpool =>
    rw [hs] at hpool
    exact .inl hpool
  | nothing => exact hr hs
  | tookOut _ hstops => exact .inr hstops
  | loopsStopped place hrunning hpool hstops =>
    rcases hr (hrunning ▸ hs) with hrest | hwere
    · exact .inl (hpool.trans hrest)
    · -- The stops that were in progress are in progress still.
      rw [← List.length_pos_iff] at hwere ⊢
      exact .inr (by omega)
  | poolStopped place hrunning hpool => exact .inl hpool

theorem vacant_run {moves : List Move} (hr : r.Vacant) (hrun : r.run app moves = some s) :
    s.Vacant := by
  induction moves generalizing r with
  | nil =>
    obtain rfl : r = s := by simpa [Race.run] using hrun
    exact hr
  | cons m moves ih =>
    obtain ⟨t, hstep, hlater⟩ := run_cons.1 hrun
    exact ih ((part_of_step hstep).vacant hr) hlater

/-- The last start among parts of calls, if there is any. -/
theorem exists_last_start (moves : List Move) :
    (∀ m ∈ moves, m.isStart = false) ∨ ∃ front c back, moves = front ++ .start c :: back ∧
      ∀ m ∈ back, m.isStart = false := by
  induction moves with
  | nil => exact .inl nofun
  | cons m moves ih =>
    rcases ih with hnone | ⟨front, c, back, rfl, hback⟩
    · cases m with
      | start c => exact .inr ⟨[], c, moves, rfl, hnone⟩
      | takeOut | stopLoops | stopPool =>
        exact .inl (List.forall_mem_cons.2 ⟨rfl, hnone⟩)
    · exact .inr ⟨m :: front, c, back, rfl, hback⟩

/-- **The pool when no call is in progress.**  A server without stages has no running pool.  A
server with stages has a running pool exactly if no stop was in progress when it was started
last. -/
theorem pool_of_quiet {settings : Settings} {moves : List Move}
    (hrun : (Race.new settings).run app moves = some r) (hq : r.Quiet) :
    (r.server.running = none → r.server.pool.running = false) ∧
      (r.server.running.isSome → ∃ front c back before, moves = front ++ .start c :: back ∧
        (∀ m ∈ back, m.isStart = false) ∧ (Race.new settings).run app front = some before ∧
        (r.server.pool.running = true ↔ before.stops = [])) := by
  constructor
  · intro hnone
    have hnew : (Race.new settings).Vacant := fun _ => .inl rfl
    exact (vacant_run hnew hrun hnone).resolve_right fun hstops => hstops hq
  · intro hsome
    rcases exists_last_start moves with hnever | ⟨front, c, back, rfl, hback⟩
    · -- Nobody has ever started the server, so it cannot have stages.
      have hnew := (pool_of_run hnever hrun hsome).before
      exact absurd hnew Bool.false_ne_true
    · obtain ⟨before, hfront, hlater⟩ := run_append.1 hrun
      obtain ⟨begun, hstart, hend⟩ := run_cons.1 hlater
      obtain rfl := Option.some.inj hstart
      refine ⟨front, c, back, before, rfl, hback, hfront, ?_⟩
      have hkept := pool_of_run hback hend hsome
      have hbegan : (before.server.start app c).1.server.pool.running = true := by
        rw [running_start]
        exact hkept.before
      have hnow : r.stops.length = 0 := List.length_eq_zero_iff.2 hq
      rw [hkept.pool]
      constructor
      · rintro ⟨-, hsame⟩
        exact List.length_eq_zero_iff.1 (hsame.symm.trans hnow)
      · intro hbefore
        exact ⟨hbegan, hnow.trans (List.length_eq_zero_iff.2 hbefore).symm⟩

/-- A server that is stopped and then started anew has a running pool. -/
theorem pool_of_quiet_restarted :
    let c : Conditions := ⟨none, none, .ok, none⟩
    ∃ r, (Race.new {}).run echo [.start c, .takeOut, .stopLoops 0, .stopPool 0, .start c] = some r ∧
      r.Quiet ∧ r.server.isRunning = true ∧ r.server.pool.running = true ∧
      (r.server.running.isSome → ∃ front c' back before,
        [.start c, .takeOut, .stopLoops 0, .stopPool 0, .start c] = front ++ .start c' :: back ∧
        (∀ m ∈ back, m.isStart = false) ∧ (Race.new {}).run echo front = some before ∧
        (r.server.pool.running = true ↔ before.stops = [])) := by
  intro c
  have hquiet : ((Race.new {}).run echo
      [.start c, .takeOut, .stopLoops 0, .stopPool 0, .start c]).map
        (fun r => (r.stops.length, r.server.isRunning, r.server.pool.running)) =
      some (0, true, true) := by
    decide +kernel
  obtain ⟨r, hrun, hfacts⟩ := Option.map_eq_some_iff.1 hquiet
  simp only [Prod.mk.injEq] at hfacts
  obtain ⟨hstops, hrunning, hpool⟩ := hfacts
  have hq : r.Quiet := List.length_eq_zero_iff.1 hstops
  exact ⟨r, hrun, hq, hrunning, hpool, (pool_of_quiet hrun hq).2⟩

/-- **A server that runs may have a pool that does not.**  A stop takes the stages out; before it
stops them, another thread starts the server anew; then the stop goes on, and stops the pool of the
new start.  No call is in progress any more, both loops are alive, and no message will ever be
done. -/
theorem not_pool_of_isRunning :
    ¬ ∀ (app : Service) (settings : Settings) (r : Race), Reachable app settings r → r.Quiet →
      (r.server.isRunning = true → r.server.pool.running = true) ∧
        (r.server.running = none → r.server.pool.running = false) := by
  intro hclaim
  let c : Conditions := ⟨none, none, .ok, none⟩
  have hoverlap : ((Race.new {}).run echo
      [.start c, .takeOut, .start c, .stopLoops 0, .stopPool 0]).map
        (fun r => (r.stops.length, r.server.isRunning, r.server.pool.running)) =
      some (0, true, false) := by
    decide +kernel
  obtain ⟨r, hrun, hfacts⟩ := Option.map_eq_some_iff.1 hoverlap
  simp only [Prod.mk.injEq] at hfacts
  obtain ⟨hstops, hrunning, hpool⟩ := hfacts
  have hreach : Reachable echo {} r := .of_run .start hrun
  have hrest := (hclaim echo {} r hreach (List.length_eq_zero_iff.1 hstops)).1 hrunning
  rw [hpool] at hrest
  exact absurd hrest Bool.false_ne_true

end Race

end Server

end WebSocket
