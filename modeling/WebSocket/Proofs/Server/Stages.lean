import WebSocket.Proofs.Dispatch.AtRest
import WebSocket.Server.Basic

/-!
# The stages of a server

What the calls that start and stop a server leave behind, told at once: which loops have ended, what
became of the sessions, and whether the pool runs.  A start that fails at one stage has undone the
stages before it, so there are three ways in which it can end.

## Main definitions

* `Conditions.result`, `Server.begins` — how a start ends, and which loops it begins, told from what
  its stages meet.
* `Server.renewed` — the hub of a server that is started anew.
* `Server.Begins` — the three ways in which a start can end.

## Main results

* `Server.stopLoops_of_some`, `Server.stop_of_some` — what stopping leaves behind.
* `Server.begins_start` — **a start ends in one of three ways**, and it fails exactly where its
  conditions have it fail.
-/

namespace WebSocket

namespace Conditions

/-- How a start ends: with the error of the first stage that cannot be started, or with the address
that is listened on. -/
def result (c : Conditions) (s : ListenerSettings) : Except ServerError SocketAddress :=
  match c.pool, c.hub, Listener.bind c.network s, c.acceptor with
  | some e, _, _, _ => .error (.dispatch e)
  | none, some e, _, _ => .error e
  | none, none, .error e, _ => .error e
  | none, none, .ok _, some e => .error e
  | none, none, .ok (listener, _), none => .ok listener.address

end Conditions

namespace Server

variable (app : Service)

/-! ### Messages on their way -/

/-- A server with other messages on their way, to a pool that runs if it did before. -/
structure Passes (s t : Server) : Prop where
  same : ∃ pool handedOver, t = { s with pool, handedOver }
  running : t.pool.running = s.pool.running

theorem Passes.trans {s t u : Server} (h : s.Passes t) (h' : t.Passes u) : s.Passes u where
  same := by
    obtain ⟨pool, handedOver, rfl⟩ := h.same
    obtain ⟨pool', handedOver', rfl⟩ := h'.same
    exact ⟨pool', handedOver', rfl⟩
  running := h'.running.trans h.running

theorem passes_refl (s : Server) : s.Passes s := ⟨⟨s.pool, s.handedOver, rfl⟩, rfl⟩

theorem passes_dispatch (s : Server) : s.Passes (s.dispatch app).server := by
  unfold dispatch
  split
  · exact passes_refl s
  · next task handedOver _ => exact ⟨⟨_, handedOver, rfl⟩, s.pool.running_submit task⟩

/-- Submitting what was handed over.  The induction is on that. -/
theorem passes_dispatchAll (s : Server) : s.Passes (s.dispatchAll app).server := by
  have hall : ∀ (messages : List Inbound) (step : Step), s.Passes step.server →
      s.Passes (messages.foldl (fun step _ => step.andThen (dispatch app)) step).server := by
    intro messages
    induction messages with
    | nil => exact fun _ h => h
    | cons message messages ih =>
      intro step h
      exact ih (step.andThen (dispatch app)) (h.trans (passes_dispatch app step.server))
  exact hall s.handedOver ⟨s, []⟩ (passes_refl s)

/-! ### Stopping -/

theorem server_withPool_stop (s : Server) :
    (s.withPool app Pool.stop).server = { s with pool := s.pool.rested } :=
  congrArg (fun pool => { s with pool }) (Pool.pool_stop s.pool)

/-- The loop of the hub has ended, and no session is left. -/
theorem stopHub_eq (l : LoopThread) (s : Server) :
    ∃ pool handedOver, pool.running = s.pool.running ∧ (stopHub app l s).server =
      { s with
        pool, handedOver
        hub := (hubEnd l s.hub).hub
        ended := s.ended ++ [l.stop.loop] } := by
  obtain ⟨⟨pool, handedOver, hsame⟩, hrunning⟩ := passes_dispatchAll app s
  refine ⟨pool, handedOver, ?_, ?_⟩
  · rw [hsame] at hrunning
    exact hrunning
  · unfold stopHub Step.andThen
    rw [hsame]

theorem stopLoops_of_none {s : Server} (hs : s.running = none) :
    (s.stopLoops app).server = s := by
  unfold stopLoops
  rw [hs]

/-- **Stopping the loops of a server ends both of them**, and no session is left. -/
theorem stopLoops_of_some {s : Server} {r : Running} (hs : s.running = some r) :
    ∃ pool handedOver, pool.running = s.pool.running ∧ (s.stopLoops app).server =
      { s with
        pool, handedOver
        hub := (hubEnd r.hub s.hub).hub
        running := none
        ended := s.ended ++ [r.acceptor.stop.loop, r.hub.stop.loop] } := by
  obtain ⟨pool, handedOver, hrunning, hstopped⟩ := stopHub_eq app r.hub
    ({ s with running := none }.stopAcceptor r).server
  refine ⟨pool, handedOver, hrunning, ?_⟩
  unfold stopLoops
  rw [hs]
  refine hstopped.trans ?_
  simp only [stopAcceptor, List.append_assoc, List.cons_append, List.nil_append]

theorem stop_of_none {s : Server} (hs : s.running = none) : (s.stop app).server = s := by
  unfold stop
  rw [if_pos (by rw [hs]; rfl)]

/-- **Stopping a server leaves its pool at rest**, and its loops have ended. -/
theorem stop_of_some {s : Server} {r : Running} (hs : s.running = some r) :
    ∃ pool handedOver, pool.AtRest ∧ (s.stop app).server =
      { s with
        pool, handedOver
        hub := (hubEnd r.hub s.hub).hub
        running := none
        ended := s.ended ++ [r.acceptor.stop.loop, r.hub.stop.loop] } := by
  obtain ⟨pool, handedOver, -, hloops⟩ := stopLoops_of_some app hs
  refine ⟨pool.rested, handedOver, pool.atRest_rested, ?_⟩
  unfold stop
  rw [if_neg (by rw [hs]; exact Bool.false_ne_true)]
  show ((s.stopLoops app).server.withPool app Pool.stop).server = _
  rw [hloops, server_withPool_stop app]

/-! ### Starting -/

/-- The hub of a server that is started anew: it has no sessions, and knows of those that were. -/
def renewed (s : Server) : Hub :=
  { Hub.new s.settings.session with
    tracker := s.hub.tracker, released := s.hub.released, dropped := s.hub.dropped }

/-- The three ways in which a start can end, if the loops of `t` have ended: no loop was begun; the
loop of the hub was begun and has ended; or everything runs.  The names are those of the loops that
were begun. -/
inductive Begins (t : Server) : List String → Server → Except ServerError SocketAddress → Prop
  | nothing {pool : Pool Inbound} (e : ServerError) :
      pool.AtRest → Begins t [] { t with pool } (.error e)
  | undone {pool : Pool Inbound} (handedOver : List Inbound) (e : ServerError) :
      pool.AtRest → Begins t [hubName]
        { t with
          pool, handedOver
          hub := t.renewed.stop.hub
          ended := t.ended ++ [(loop hubName).stop.loop] } (.error e)
  | everything {pool : Pool Inbound} (listener : Listener) :
      pool.running = true → Begins t [hubName, acceptorName]
        { t with
          pool
          hub := t.renewed
          running := some ⟨loop acceptorName, loop hubName, listener⟩ } (.ok listener.address)

/-- What became of the pool before plays no role. -/
theorem Begins.of_pool {t u : Server} {pool : Pool Inbound} {names : List String}
    {result : Except ServerError SocketAddress} (h : Begins { t with pool } names u result) :
    Begins t names u result := by
  cases h with
  | nothing e hrest => exact .nothing e hrest
  | undone handedOver e hrest => exact .undone handedOver e hrest
  | everything listener hrunning => exact .everything listener hrunning

/-- The loops that a start begins. -/
def begins (c : Conditions) (s : ListenerSettings) : List String :=
  match c.pool, c.hub, Listener.bind c.network s, c.acceptor with
  | some _, _, _, _ | none, some _, _, _ => []
  | none, none, .ok _, none => [hubName, acceptorName]
  | none, none, _, _ => [hubName]

/-- What is undone when the last stage fails. -/
theorem undo_eq (told : List Notice) (s : Server) :
    ∃ pool : Pool Inbound, ∃ handedOver, pool.AtRest ∧
      ((Step.mk s (told.map .told)).andThen (stopHub app (loop hubName)) |>.andThen
        (withPool app Pool.stop)).server =
      { s with
        pool, handedOver
        hub := s.hub.stop.hub
        ended := s.ended ++ [(loop hubName).stop.loop] } := by
  obtain ⟨pool, handedOver, -, hstopped⟩ := stopHub_eq app (loop hubName) s
  refine ⟨pool.rested, handedOver, pool.atRest_rested, ?_⟩
  show ((stopHub app (loop hubName) s).server.withPool app Pool.stop).server = _
  rw [hstopped, server_withPool_stop]
  rfl

/-- The stages after the pool. -/
theorem begins_startLoops {c : Conditions} {t : Server} (hc : c.pool = none)
    (hrunning : t.pool.running = true) :
    Begins t (begins c t.settings.listener) (t.startLoops app c).1.server
      (t.startLoops app c).2 ∧ (t.startLoops app c).2 = c.result t.settings.listener := by
  unfold startLoops begins Conditions.result
  rw [hc]
  cases hhub : c.hub with
  | some e =>
    simp only
    rw [server_withPool_stop]
    exact ⟨.nothing e t.pool.atRest_rested, trivial⟩
  | none =>
    simp only
    show Begins t _ ({ t with hub := t.renewed }.startAcceptor app c (loop hubName)).1.server
      ({ t with hub := t.renewed }.startAcceptor app c (loop hubName)).2 ∧
        ({ t with hub := t.renewed }.startAcceptor app c (loop hubName)).2 = _
    unfold startAcceptor
    simp only
    cases hbind : Listener.bind c.network t.settings.listener with
    | error e =>
      obtain ⟨pool, handedOver, hrest, hundone⟩ := undo_eq app [] { t with hub := t.renewed }
      simp only
      rw [hundone]
      exact ⟨.undone handedOver e hrest, trivial⟩
    | ok bound =>
      obtain ⟨listener, told⟩ := bound
      cases hacceptor : c.acceptor with
      | none => exact ⟨.everything listener hrunning, rfl⟩
      | some e =>
        obtain ⟨pool, handedOver, hrest, hundone⟩ :=
          undo_eq app told { t with hub := t.renewed }
        simp only
        rw [hundone]
        exact ⟨.undone handedOver e hrest, trivial⟩

/-- A start first stops the loops, if they run, and then starts the stages. -/
theorem server_stopped (s : Server) :
    (if s.running.isNone then ⟨s, []⟩ else (s.tell .serverRestarting).andThen (stopLoops app) :
      Step).server = (s.stopLoops app).server := by
  cases hs : s.running with
  | none =>
    rw [stopLoops_of_none app hs]
    rfl
  | some r => rfl

theorem settings_stopLoops (s : Server) : (s.stopLoops app).server.settings = s.settings := by
  cases hs : s.running with
  | none => rw [stopLoops_of_none app hs]
  | some r =>
    obtain ⟨pool, handedOver, -, hloops⟩ := stopLoops_of_some app hs
    rw [hloops]

/-- **A start ends in one of three ways**, after the loops that ran before have ended; and it fails
exactly where its conditions have it fail. -/
theorem begins_start (c : Conditions) (s : Server) :
    Begins (s.stopLoops app).server (begins c s.settings.listener) (s.start app c).1.server
      (s.start app c).2 ∧ (s.start app c).2 = c.result s.settings.listener := by
  have hsettings := settings_stopLoops app s
  have hstopped := server_stopped app s
  unfold start
  generalize (if s.running.isNone then ⟨s, []⟩
    else (s.tell .serverRestarting).andThen (stopLoops app) : Step) = stopped at hstopped ⊢
  rw [← hstopped] at hsettings ⊢
  simp only
  have hresult := Pool.result_start (h := app.handler stopped.server.hub) stopped.server.pool c.pool
  have hpool := Pool.pool_start (h := app.handler stopped.server.hub) stopped.server.pool c.pool
  generalize stopped.server.pool.start (app.handler stopped.server.hub) c.pool = started
    at hresult hpool ⊢
  obtain ⟨step, result⟩ := started
  obtain rfl : result = _ := hresult
  cases hc : c.pool with
  | some e =>
    rw [hc] at hpool
    have hrest : step.pool.AtRest := hpool ▸ stopped.server.pool.atRest_rested
    have hnone : begins c s.settings.listener = [] := by
      unfold begins
      rw [hc]
    have hfails : c.result s.settings.listener = .error (.dispatch e) := by
      unfold Conditions.result
      rw [hc]
    rw [hnone, hfails]
    exact ⟨.nothing (.dispatch e) hrest, rfl⟩
  | none =>
    rw [hc] at hpool
    have hrunning : step.pool.running = true := hpool ▸ rfl
    obtain ⟨hloops, hresult⟩ := begins_startLoops app hc
      (t := { stopped.server with pool := step.pool }) hrunning
    rw [← hsettings]
    exact ⟨hloops.of_pool, hresult⟩

end Server

end WebSocket
