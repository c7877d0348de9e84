import WebSocket.Server.Basic

/-!
# Runs of a server

Between its start and its stop a server is moved by its clients, by its two loops and by its
workers, in any order.

## Main definitions

* `Server.Move` — the moves.
* `Server.move`, `Server.run` — one move, and a list of them.
-/

namespace WebSocket

namespace Server

/-- What can happen while a server runs. -/
inductive Move
  /-- A connection is accepted. -/
  | accept (c : Connection)
  /-- The client of a connection sends bytes. -/
  | arrive (serial : Nat) (chunk : Bytes)
  /-- The client of a connection sends nothing more. -/
  | finish (serial : Nat)
  /-- The hub registers some connections and serves its sessions. -/
  | iterate (registrations : Nat) (heartbeatDue : Bool)
  /-- The hub submits the next message that was handed over. -/
  | dispatch
  /-- A worker takes a task. -/
  | take
  /-- One of the workers that have a task gets done with it. -/
  | complete (place : Nat)

/-- The application as the hub sees it: it takes every message and does nothing yet. -/
def mailbox : App := fun h _ => ⟨h, [], none⟩

/-- A task done by a worker: the application may change the handle of its session, and may fail. -/
def complete (app : Service) (place : Nat) (s : Server) : Step :=
  match s.pool.handling[place]? with
  | none => ⟨s, []⟩
  | some task =>
    let handling := (s.hub.handle? task.session).map fun h => app.handle h task.message
    let hub := handling.elim s.hub fun done => s.hub.setHandle done.handle
    let told := handling.elim [] (·.notices)
    let step := s.pool.finish (app.handler s.hub) place
    ⟨{ s with hub, pool := step.pool },
      told.map (fun n => .pool (.notice n)) ++ step.effects.map .pool⟩

/-- One move.  The hub goes on only after it has submitted all that was handed over. -/
def move (app : Service) (m : Move) (s : Server) : Step :=
  match m with
  | .accept c =>
    let (hub, told) := Listener.accept c s.hub
    ⟨{ s with hub }, told.map fun n => .session (.notice n)⟩
  | .arrive serial chunk => ⟨{ s with hub := s.hub.arrive serial chunk }, []⟩
  | .finish serial => ⟨{ s with hub := s.hub.finish serial }, []⟩
  | .iterate registrations heartbeatDue =>
    if s.handedOver.isEmpty then
      let turn := s.hub.iterate mailbox registrations heartbeatDue
      ⟨{ s with hub := turn.hub, handedOver := inbound turn.effects },
        turn.effects.map .session⟩
    else ⟨s, []⟩
  | .dispatch => s.dispatch app
  | .take => ⟨{ s with pool := s.pool.take }, []⟩
  | .complete place => s.complete app place

/-- Moves one after the other. -/
def run (app : Service) (moves : List Move) (s : Server) : Step :=
  moves.foldl (fun step m => step.andThen (move app m)) ⟨s, []⟩

end Server

end WebSocket
