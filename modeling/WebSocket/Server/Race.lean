import WebSocket.Server.Basic

/-!
# A server started and stopped by several threads

Starting holds a lock on the state of the server to its end.  Stopping takes the stages of the
server out under that lock, and stops them after it has let go of it: the loops first, then the
pool.
Between the parts of one call other calls may go through any of theirs.

## Main definitions

* `Server.Race` — a server and the stops that are in progress.
* `Server.Race.Move`, `Server.Race.step` — the parts of the calls.
* `Server.Race.Reachable` — what some order of them leads to.

## Main results

* `Server.Race.run_stop` — a stop that nothing comes between is `Server.stop`.
-/

namespace WebSocket

namespace Server

/-- A stop in progress: the stages that it took out, as long as they have not been stopped, with the
sessions that they serve. -/
inductive Stop
  | taken (stages : Running) (hub : Hub)
  /-- The loops were stopped, and the pool is next. -/
  | loopsStopped

/-- A server and the stops that are in progress. -/
structure Race where
  server : Server
  stops : List Stop

namespace Race

/-- A server that no thread has touched. -/
def new (s : Settings) : Race := ⟨.new s, []⟩

/-- No call is in progress. -/
def Quiet (r : Race) : Prop := r.stops = []

/-- The parts of calls. -/
inductive Move
  /-- A whole start, which holds the lock. -/
  | start (c : Conditions)
  /-- A stop takes the stages out; if there are none, it ends. -/
  | takeOut
  /-- The stop at a place stops the loops. -/
  | stopLoops (place : Nat)
  /-- It stops the pool, and ends. -/
  | stopPool (place : Nat)

/-- The hub of stages that are taken out leaves the server, but for what is shared by all. -/
def vacated (h : Hub) : Hub := { h with waiting := [], entries := [], ready := [] }

/-- A hub with what is shared by all as `h` has it. -/
def sharing (h own : Hub) : Hub :=
  { own with tracker := h.tracker, released := h.released, dropped := h.dropped }

/-- The loops among stages that were taken out stopped, the one that accepts connections first. -/
def stopStages (app : Service) (stages : Running) (hub : Hub) (s : Server) : Server :=
  let own := { s with hub := sharing s.hub hub }
  let stopped := ((own.stopAcceptor stages).andThen (stopHub app stages.hub)).server
  { stopped with hub := sharing stopped.hub s.hub }

/-- One part of some call, if it can be gone through. -/
def step (app : Service) (m : Move) (r : Race) : Option Race :=
  match m with
  | .start c => some { r with server := (r.server.start app c).1.server }
  | .takeOut =>
    match r.server.running with
    | none => some r
    | some stages =>
      some ⟨{ r.server with running := none, hub := vacated r.server.hub },
        r.stops ++ [.taken stages r.server.hub]⟩
  | .stopLoops place =>
    match r.stops[place]? with
    | some (.taken stages hub) =>
      some ⟨stopStages app stages hub r.server, r.stops.set place .loopsStopped⟩
    | _ => none
  | .stopPool place =>
    match r.stops[place]? with
    | some .loopsStopped =>
      some ⟨(r.server.withPool app Pool.stop).server, r.stops.eraseIdx place⟩
    | _ => none

/-- What some order of the parts of calls leads to. -/
inductive Reachable (app : Service) (settings : Settings) : Race → Prop
  | start : Reachable app settings (.new settings)
  | next {r s : Race} (m : Move) : Reachable app settings r → r.step app m = some s →
      Reachable app settings s

/-- The parts of calls in a given order, if all of them can be gone through. -/
def run (app : Service) (moves : List Move) (r : Race) : Option Race :=
  moves.foldlM (fun r m => r.step app m) r

/-- The callbacks of a service depend on the sessions alone. -/
theorem handler_congr (app : Service) {g h : Hub} (he : g.entries = h.entries)
    (hr : g.released = h.released) : app.handler g = app.handler h := by
  simp only [Service.handler, Hub.handle?, he, hr]

/-- A stop that nothing comes between is `Server.stop`, as far as the pool and the loops go. -/
theorem run_stop (app : Service) (s : Server) (hs : s.running.isSome) :
    ((Race.mk s []).run app [.takeOut, .stopLoops 0, .stopPool 0]).map
        (fun r => (r.server.pool, r.server.running, r.server.ended, r.stops.length)) =
      let stopped := (s.stop app).server
      some (stopped.pool, stopped.running, stopped.ended, 0) := by
  obtain ⟨stages, hr⟩ := Option.isSome_iff_exists.1 hs
  have same : sharing (vacated s.hub) s.hub = s.hub := rfl
  have callbacks (h : Hub) (g : Hub) :
      app.handler (sharing (hubEnd stages.hub h).hub (vacated g)) =
        app.handler (hubEnd stages.hub h).hub :=
    handler_congr app (entries_hubEnd stages.hub h).symm rfl
  simp [run, step, hr, stopStages, same, Server.stop, Server.stopLoops, Step.andThen, tell,
    withPool, stopHub, stopAcceptor, callbacks]

end Race

end Server

end WebSocket
