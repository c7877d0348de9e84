import WebSocket.Dispatch.Race
import WebSocket.Server.Run

/-!
# The threads of a server

A server that was started has a thread that accepts connections, a thread that serves the sessions,
and its workers; and another thread may stop it.  Each of them goes through its steps one by one,
and between two steps of one thread the others may do any of theirs, and so may the clients and
whoever holds the handle of a session.

What the sessions hand over in an iteration of the hub is submitted message by message before the
iteration ends.  Nothing that a session does depends on what becomes of its messages, so the work of
an iteration is told at once, and the submits follow.  The one who stops the server waits for the
end of each loop before going on: first that of the loop that accepts connections, then that of the
hub, and the pool comes last.

## Main definitions

* `Server.Threads` — where every thread of a server stands, and what has happened.
* `Server.Threads.begun` — a server that was just started.
* `Server.Threads.Move`, `Server.Threads.step` — the steps of the threads.
* `Server.Threads.Reachable` — what some order of steps leads to.
* `Server.Threads.run` — the steps of a given order.

## Main results

* `Server.Threads.start_new_ok`, `Server.Threads.run_start` — what a start that succeeds leaves
  behind is what threads begin with.
* `Server.Threads.run_stop` — a stop that nothing comes between is `Server.stop`.
-/

namespace WebSocket

/-- A pool without its tasks. -/
def Pool.vacant {σ τ : Type} (p : Pool σ) : Pool τ where
  name := p.name
  workers := p.workers
  capacity := p.capacity
  queue := []
  length := p.length
  peak := p.peak
  submitted := p.submitted
  rejected := p.rejected
  errors := p.errors
  running := p.running
  stopping := p.stopping
  handling := []

namespace Server

/-- A message that was handed over, with its place among all that were. -/
structure Delivery where
  message : Inbound
  place : Nat
  deriving DecidableEq, Repr

/-- Messages with their places, the first of which is given. -/
def deliveries (first : Nat) (messages : List Inbound) : List Delivery :=
  (messages.zipIdx first).map fun (message, place) => ⟨message, place⟩

theorem deliveries_append (first : Nat) (messages more : List Inbound) :
    deliveries first (messages ++ more) =
      deliveries first messages ++ deliveries (first + messages.length) more := by
  rw [deliveries, List.zipIdx_append, List.map_append]
  rfl

/-- The callbacks of a service for messages with places, at which they do not look. -/
def placed (h : Handler Inbound) : Handler Delivery where
  handle d := h.handle d.message
  panicsOnError d := h.panicsOnError d.message
  panicsOnReject d := h.panicsOnReject d.message

/-- How far a stop of the server has come. -/
inductive Stage
  /-- Nobody has asked the server to stop. -/
  | serving
  /-- The loop that accepts connections was asked to end. -/
  | closing
  /-- It has ended, and the loop of the hub was asked to end. -/
  | leaving
  /-- That has ended, too, and the pool is being stopped. -/
  | draining
  | stopped
  deriving DecidableEq, Repr

/-- A step of the pool can be taken: by a submit and by workers at any time, by the stop once it has
come to the pool.  Submits begin and the stop begins and ends along with steps of their own. -/
def Stage.allows {τ : Type} (stage : Stage) : Pool.Race.Move τ → Bool
  | .checkRunning _ | .checkRoom _ | .retry _ | .giveUp _ | .count _ | .append _ => true
  | .look | .take | .release _ | .settle _ => true
  | .join | .handBack | .sweep => stage = .draining
  | _ => false

/-- A server with its threads. -/
structure Threads where
  hub : Hub
  stages : Running
  /-- The messages that the hub has yet to submit in the iteration that it is in, if it is in
  one. -/
  handedOver : Option (List Delivery)
  pool : Pool.Race Delivery
  stage : Stage
  /-- What came out of the sessions, in order. -/
  effects : List Effect

namespace Threads

/-- A server that was just started: its workers live, and there is nothing to do yet. -/
def begun (s : Server) (stages : Running) : Threads where
  hub := s.hub
  stages := stages
  handedOver := none
  pool := { Pool.Race.new s.pool.vacant with alive := s.pool.workers }
  stage := .serving
  effects := []

/-- The messages that the sessions have handed over, each with its place. -/
def delivered (t : Threads) : List Delivery := deliveries 0 (inbound t.effects)

/-- The calls of the application so far. -/
def calls (t : Threads) : List (Call Delivery) := t.pool.past.calls

/-- The steps of the threads, and of those outside. -/
inductive Move
  /-- A connection is accepted. -/
  | accept (c : Connection)
  /-- The client of a connection sends bytes. -/
  | arrive (serial : Nat) (chunk : Bytes)
  /-- The client of a connection sends nothing more. -/
  | finish (serial : Nat)
  /-- Somebody uses the handle of a session. -/
  | use (handle : Handle)
  /-- The hub begins an iteration.  The handles of its sessions may be used in the middle of it,
  after each message that is handed over, so this is told as an application. -/
  | iterate (react : App) (registrations : Nat) (heartbeatDue : Bool)
  /-- The hub begins an iteration that fails when it waits for readiness. -/
  | registerOnly (registrations : Nat)
  /-- The hub begins to submit the next message that was handed over. -/
  | submit
  /-- The hub has submitted everything, and its iteration comes to this. -/
  | rest (verdict : Verdict)
  /-- The hub looks whether it is asked to end. -/
  | hubLooks
  /-- An iteration of the loop that accepts connections comes to this. -/
  | acceptorRests (verdict : Verdict)
  /-- The loop that accepts connections looks whether it is asked to end. -/
  | acceptorLooks
  /-- A step of a submit, of a worker or of the stop at the pool. -/
  | pool (m : Pool.Race.Move Delivery)
  /-- The server is asked to stop. -/
  | stop
  /-- The loop that accepts connections has ended, and the hub is asked to. -/
  | stopHub
  /-- The hub has ended, and the pool is asked to. -/
  | stopPool
  /-- The stop returns. -/
  | stopReturns

/-- Work on the hub in an iteration, with the messages that it hands over. -/
def workOnHub (turn : Hub.Turn) (t : Threads) : Threads :=
  { t with
    hub := turn.hub
    handedOver := some (deliveries (inbound t.effects).length (inbound turn.effects))
    effects := t.effects ++ turn.effects }

/-- The loop of the hub between two iterations.  If it has ended, all sessions are closed; if it has
crashed, they are lost with it. -/
def hubGoesOn (loop : LoopThread) (t : Threads) : Threads :=
  let turn : Hub.Turn := match loop.phase with
    | .running => .start t.hub
    | .ended => t.hub.stop
    | .crashed => t.hub.lose
  { t with
    hub := turn.hub
    stages := { t.stages with hub := loop }
    handedOver := none
    effects := t.effects ++ turn.effects }

/-- The loop that accepts connections goes on. -/
def acceptorGoesOn (loop : LoopThread) (t : Threads) : Threads :=
  { t with stages := { t.stages with acceptor := loop } }

/-- A step of the pool. -/
def poolStep (app : Service) (m : Pool.Race.Move Delivery) (t : Threads) : Option Threads :=
  (t.pool.step (placed (app.handler t.hub)) m).map fun pool => { t with pool }

/-- One step of some thread, if it can be taken. -/
def step (app : Service) (m : Move) (t : Threads) : Option Threads :=
  match m with
  | .accept c =>
    if t.stages.acceptor.isRunning then some { t with hub := (Listener.accept c t.hub).1 } else none
  | .arrive serial chunk => some { t with hub := t.hub.arrive serial chunk }
  | .finish serial => some { t with hub := t.hub.finish serial }
  | .use handle => some { t with hub := t.hub.setHandle handle }
  | .iterate react registrations heartbeatDue =>
    if t.handedOver.isNone && t.stages.hub.isRunning then
      some (t.workOnHub (t.hub.iterate react registrations heartbeatDue))
    else none
  | .registerOnly registrations =>
    if t.handedOver.isNone && t.stages.hub.isRunning then
      some (t.workOnHub (t.hub.registerNew registrations))
    else none
  | .submit =>
    match t.handedOver with
    | some (task :: rest) =>
      if t.pool.submits.isEmpty then { t with handedOver := some rest }.poolStep app (.enter task)
      else none
    | _ => none
  | .rest verdict =>
    if t.handedOver = some [] && t.pool.submits.isEmpty then
      some (t.hubGoesOn (t.stages.hub.turn app.onFailure ⟨verdict, false⟩).loop)
    else none
  | .hubLooks =>
    if t.handedOver.isNone && t.stages.hub.isRunning then some (t.hubGoesOn t.stages.hub.look.loop)
    else none
  | .acceptorRests verdict =>
    some (t.acceptorGoesOn (t.stages.acceptor.turn app.onFailure ⟨verdict, false⟩).loop)
  | .acceptorLooks => some (t.acceptorGoesOn t.stages.acceptor.look.loop)
  | .pool m => if t.stage.allows m then t.poolStep app m else none
  | .stop =>
    if t.stage = .serving then
      let acceptor := { t.stages.acceptor with flag := t.stages.acceptor.flag.raise }
      some { t with stages := { t.stages with acceptor }, stage := .closing }
    else none
  | .stopHub =>
    if t.stage = .closing && !t.stages.acceptor.isRunning then
      let acceptor := { t.stages.acceptor with joined := true }
      let hub := { t.stages.hub with flag := t.stages.hub.flag.raise }
      some { t with stages := { t.stages with acceptor, hub }, stage := .leaving }
    else none
  | .stopPool =>
    if t.stage = .leaving && !t.stages.hub.isRunning then
      let hub := { t.stages.hub with joined := true }
      { t with stages := { t.stages with hub }, stage := .draining }.poolStep app (.dismiss false)
    else none
  | .stopReturns =>
    if t.stage = .draining then { t with stage := .stopped }.poolStep app .reset else none

/-- What some order of steps leads to.  The application may do something else at every step. -/
inductive Reachable (start : Threads) : Threads → Prop
  | start : Reachable start start
  | next {t u : Threads} (app : Service) (m : Move) : Reachable start t → t.step app m = some u →
      Reachable start u

/-- The steps of a given order, if all of them can be taken. -/
def run (app : Service) (moves : List Move) (t : Threads) : Option Threads :=
  moves.foldlM (fun t m => t.step app m) t

theorem run_cons {app : Service} {t u : Threads} {m : Move} {moves : List Move} :
    t.run app (m :: moves) = some u ↔ ∃ v, t.step app m = some v ∧ v.run app moves = some u := by
  simp [Threads.run, Option.bind_eq_some_iff]

theorem run_append {app : Service} {t u : Threads} {moves more : List Move} :
    t.run app (moves ++ more) = some u ↔
      ∃ v, t.run app moves = some v ∧ v.run app more = some u := by
  simp [Threads.run, List.foldlM_append, Option.bind_eq_some_iff]

/-- What the steps of an order lead to can be reached. -/
theorem Reachable.run {app : Service} {start t u : Threads} {moves : List Move}
    (ht : Reachable start t) (hu : t.run app moves = some u) : Reachable start u := by
  induction moves generalizing t with
  | nil =>
    obtain rfl : t = u := by simpa [Threads.run] using hu
    exact ht
  | cons m moves ih =>
    obtain ⟨v, hv, hu⟩ := run_cons.1 hu
    exact ih (.next app m ht hv) hu

/-! ### The beginning -/

/-- The last stage of a start that succeeds. -/
theorem startAcceptor_ok {app : Service} {c : Conditions} {hub : LoopThread} {s : Server}
    {address : SocketAddress} (h : (s.startAcceptor app c hub).2 = .ok address) :
    ∃ listener, (s.startAcceptor app c hub).1.server =
      { s with running := some ⟨loop acceptorName, hub, listener⟩ } := by
  unfold startAcceptor at h ⊢
  split at h
  · simp at h
  · simp at h
  · next listener told _ _ => exact ⟨listener, rfl⟩

/-- A start that succeeds leaves the loops running and the pool without tasks. -/
theorem start_new_ok {settings : Settings} {app : Service} {c : Conditions}
    {address : SocketAddress} (h : ((Server.new settings).start app c).2 = .ok address) :
    ∃ stages, ((Server.new settings).start app c).1.server.running = some stages ∧
      stages.acceptor.isRunning ∧ stages.hub.isRunning ∧
      ((Server.new settings).start app c).1.server.pool = (Server.new settings).pool.reopen := by
  let reopened := { Server.new settings with pool := (Server.new settings).pool.reopen }
  cases hpool : c.pool with
  | some e =>
    have hfails : ((Server.new settings).start app c).2 = .error (.dispatch e) := by
      rw [Server.start, hpool]
      rfl
    simp [hfails] at h
  | none =>
    have hloops : ((Server.new settings).start app c).1.server =
          (reopened.startLoops app c).1.server ∧
        ((Server.new settings).start app c).2 = (reopened.startLoops app c).2 := by
      rw [Server.start, hpool]
      exact ⟨rfl, rfl⟩
    rw [hloops.2] at h
    rw [hloops.1]
    unfold startLoops at h ⊢
    split at h
    · simp at h
    · obtain ⟨listener, hserver⟩ := startAcceptor_ok h
      rw [hserver]
      exact ⟨_, rfl, rfl, rfl, rfl⟩

/-! ### Steps that nothing comes between -/

/-- A start of the pool gives life to its workers one by one. -/
theorem run_spawn {τ : Type} (h : Handler τ) (missing : Nat) (r : Pool.Race τ)
    (hholder : r.holder = .spawning missing) :
    r.run h (List.replicate missing .spawn) =
      some { r with alive := r.alive + missing, holder := .spawning 0 } := by
  induction missing generalizing r with
  | zero => simp [Pool.Race.run, ← hholder]
  | succ missing ih =>
    have hfirst : r.step h .spawn =
        some { r with alive := r.alive + 1, holder := .spawning missing } := by
      simp only [Pool.Race.step, Pool.Race.lockStep, hholder]
    refine Pool.Race.run_cons.2 ⟨_, hfirst, ?_⟩
    rw [ih _ rfl]
    simp [Nat.add_assoc, Nat.add_comm 1]

/-- The pool of a server that was just started is what the steps of a start lead to. -/
theorem run_start {settings : Settings} {app : Service} {c : Conditions} {address : SocketAddress}
    (hstart : ((Server.new settings).start app c).2 = .ok address) (stages : Running)
    (h : Handler Delivery) :
    let workers := settings.dispatch.workers
    (Pool.Race.new (.new poolName workers settings.dispatch.queueCapacity)).run h
        ([.dismiss true, .join, .sweep, .reset, .reopen] ++ List.replicate workers .spawn ++
          [.finishStart]) =
      some (begun ((Server.new settings).start app c).1.server stages).pool := by
  intro workers
  obtain ⟨_, -, -, -, hpool⟩ := start_new_ok hstart
  let fresh : Pool.Race Delivery :=
    Pool.Race.new (Pool.new poolName workers settings.dispatch.queueCapacity).reopen
  have hreopened : (Pool.Race.new (.new poolName workers settings.dispatch.queueCapacity)).run h
      [.dismiss true, .join, .sweep, .reset, .reopen] =
      some { fresh with holder := .spawning workers } := rfl
  have hspawned := run_spawn h workers { fresh with holder := .spawning workers } rfl
  have halive : fresh.alive + workers = workers := Nat.zero_add workers
  refine Pool.Race.run_append.2 ⟨_, Pool.Race.run_append.2 ⟨_, hreopened, hspawned⟩, ?_⟩
  rw [halive, begun, hpool]
  rfl

/-- Workers that have nothing to do leave when they are asked to. -/
theorem run_leave (app : Service) (t : Threads) (r : Pool.Race Delivery)
    (hstopping : r.pool.stopping) (hlooking : r.looking = 0) (htaken : r.taken = [])
    (hhandling : r.pool.handling = []) (n : Nat) :
    ({ t with pool := { r with alive := n } } : Threads).run app
        (List.replicate n (.pool .look)) =
      some { t with pool := { r with alive := 0 } } := by
  induction n with
  | zero => rfl
  | succ n ih =>
    have hfirst : ({ t with pool := { r with alive := n + 1 } } : Threads).step app (.pool .look) =
        some { t with pool := { r with alive := n } } := by
      simp [step, Stage.allows, poolStep, Pool.Race.step, Pool.Race.look, Pool.Race.idle, hlooking,
        htaken, hhandling, hstopping]
    exact run_cons.2 ⟨_, hfirst, ih⟩

/-- What a stop does to a server without tasks. -/
theorem stop_of_vacant (app : Service) (s : Server) (stages : Running)
    (hrunning : s.running = some stages) (hover : s.handedOver = []) (hqueue : s.pool.queue = [])
    (hhandling : s.pool.handling = []) (hhub : stages.hub.isRunning) :
    (s.stop app).server =
      { s with
        pool := s.pool.dismiss.resetCounters
        hub := s.hub.stop.hub
        running := none
        ended := s.ended ++ [stages.acceptor.stop.loop] ++ [stages.hub.stop.loop] } := by
  have hpool : ∀ h : Handler Inbound, (s.pool.stop h).pool = s.pool.dismiss.resetCounters := by
    intro h
    simp [Pool.stop, Pool.join, Pool.refuseAll, Pool.Step.forEach, Pool.Step.andThen, Pool.dismiss,
      hqueue, hhandling]
  simp [Server.stop, hrunning, stopLoops, stopHub, hubEnd, hhub, stopAcceptor, Step.andThen,
    dispatchAll, hover, withPool, tell, hpool]

/-- The steps of a stop for a server without tasks. -/
def stopMoves (workers : Nat) : List Move :=
  [.stop, .acceptorLooks, .stopHub, .hubLooks, .stopPool] ++ List.replicate workers (.pool .look) ++
    [.pool .join, .pool .sweep, .stopReturns]

/-- A stop that nothing comes between is `Server.stop`. -/
theorem run_stop (app : Service) (s : Server) (stages : Running)
    (hrunning : s.running = some stages) (hover : s.handedOver = []) (hqueue : s.pool.queue = [])
    (hhandling : s.pool.handling = []) (hacceptor : stages.acceptor.isRunning)
    (hhub : stages.hub.isRunning) :
    ∃ t, (begun s stages).run app (stopMoves s.pool.workers) = some t ∧ t.stage = .stopped ∧
      (s.stop app).server =
        { s with
          pool := t.pool.pool.vacant
          hub := t.hub
          running := none
          ended := s.ended ++ [t.stages.acceptor] ++ [t.stages.hub] } := by
  have hstop := stop_of_vacant app s stages hrunning hover hqueue hhandling hhub
  have hacceptor : stages.acceptor.phase = .running := eq_of_beq hacceptor
  have hhub : stages.hub.phase = .running := eq_of_beq hhub
  let dismissed : Pool.Race Delivery :=
    { Pool.Race.new s.pool.vacant.dismiss with holder := .joining false }
  let t : Threads :=
    { begun s stages with
      hub := s.hub.stop.hub
      stages := ⟨stages.acceptor.stop.loop, stages.hub.stop.loop, stages.listener⟩
      stage := .draining
      effects := s.hub.stop.effects }
  have hloops : (begun s stages).run app [.stop, .acceptorLooks, .stopHub, .hubLooks, .stopPool] =
      some { t with pool := { dismissed with alive := s.pool.workers } } := by
    simp [t, dismissed, run, step, begun, poolStep, acceptorGoesOn, hubGoesOn, LoopThread.look,
      LoopThread.stop, LoopThread.isRunning, StopFlag.raise, hacceptor, hhub, Pool.Race.step,
      Pool.Race.lockStep, Pool.Race.new]
  have hleft := run_leave app t dismissed rfl rfl rfl rfl s.pool.workers
  refine ⟨_, run_append.2 ⟨_, run_append.2 ⟨_, hloops, hleft⟩, rfl⟩, rfl, ?_⟩
  have hpool : s.pool.dismiss.resetCounters = s.pool.vacant.dismiss.resetCounters := by
    simp [Pool.dismiss, Pool.resetCounters, Pool.vacant, hqueue, hhandling]
  rw [hstop, hpool]
  rfl

end Threads

end Server

end WebSocket
