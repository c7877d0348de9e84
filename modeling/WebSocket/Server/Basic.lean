import WebSocket.Dispatch.Pool
import WebSocket.Loop.Basic
import WebSocket.Net.Listener

/-!
# Servers

A server is a pool of workers, a hub that serves the sessions, and a listener.  They start in this
order and stop in the opposite one, each after the one before it has ended.  A start of which one
stage fails undoes the stages before it.

## Main definitions

* `Inbound`, `Service` — messages for the application, and what it does with them.
* `Server` — the server; `Running` — the stages of one that was started.
* `Server.hubEnd` — what becomes of the hub when its loop ends, or is lost.
* `Server.start`, `Server.stop` — the whole server started and stopped, under given `Conditions`.
* `Server.isRunning`, `Server.address?` — what can be seen from outside.
-/

namespace WebSocket

/-- A message that a session handed over. -/
structure Inbound where
  session : ConnectionId
  message : Message
  deriving DecidableEq, Repr

/-- What comes of a message with a worker: the handle of its session afterwards, what was told, and
what went wrong, if anything did. -/
structure Handling where
  handle : Handle
  notices : List Notice
  cause : Option HandlerError

/-- An application that runs on a server. -/
structure Service where
  handle : Handle → Message → Handling
  panicsOnError : Inbound → HandlerError → Bool
  panicsOnReject : Inbound → Bool
  /-- What it does when it is told that a loop met an error. -/
  onFailure : ErrorHook

/-- The callbacks of a service while the sessions are as `hub` has them. -/
def Service.handler (app : Service) (hub : Hub) : Handler Inbound where
  handle task := (hub.handle? task.session).bind fun h => (app.handle h task.message).cause
  panicsOnError := app.panicsOnError
  panicsOnReject := app.panicsOnReject

/-- What the stages of a server meet when they start. -/
structure Conditions where
  /-- A worker cannot be started. -/
  pool : Option DispatchError
  /-- The loop of the hub cannot be started. -/
  hub : Option ServerError
  network : Network
  /-- The loop that accepts connections cannot be started. -/
  acceptor : Option ServerError

/-- The stages of a server that was started, the pool apart. -/
structure Running where
  acceptor : LoopThread
  hub : LoopThread
  listener : Listener
  deriving DecidableEq, Repr

/-- A server. -/
structure Server where
  settings : Settings
  pool : Pool Inbound
  hub : Hub
  /-- Messages that sessions handed over and that the pool has not seen yet. -/
  handedOver : List Inbound
  running : Option Running
  /-- The loops that were started and have ended. -/
  ended : List LoopThread

/-- A thing that happens on a server: the calling thread tells something, a pool does something, or
a session does. -/
inductive ServerEffect
  | told (n : Notice)
  | pool (e : PoolEffect Inbound)
  | session (e : Effect)

namespace Server

/-- The name of the workers. -/
def poolName : String := "ws-worker"

/-- The name of the loop that serves sessions. -/
def hubName : String := "ws-multiplexer"

/-- The name of the loop that accepts connections. -/
def acceptorName : String := "ws-acceptor"

/-- A server that was not started yet. -/
def new (s : Settings) : Server :=
  ⟨s, .new poolName s.dispatch.workers s.dispatch.queueCapacity, .new s.session, [], none, []⟩

/-- A server after some work, and what happened. -/
structure Step where
  server : Server
  effects : List ServerEffect

/-- More work on the server. -/
def Step.andThen (s : Step) (next : Server → Step) : Step :=
  let after := next s.server
  ⟨after.server, s.effects ++ after.effects⟩

/-- The calling thread tells something. -/
def tell (event : Event) (s : Server) : Step := ⟨s, [.told (.log event)]⟩

/-- Work on the pool. -/
def withPool (app : Service) (work : Handler Inbound → Pool Inbound → Pool.Step Inbound)
    (s : Server) : Step :=
  let step := work (app.handler s.hub) s.pool
  ⟨{ s with pool := step.pool }, step.effects.map .pool⟩

/-! ### Messages on their way -/

/-- The first message that was handed over submitted to the pool. -/
def dispatch (app : Service) (s : Server) : Step :=
  match s.handedOver with
  | [] => ⟨s, []⟩
  | task :: handedOver =>
    let (step, result) := s.pool.submit (app.handler s.hub) task
    let told := match result with
      | .ok () => []
      | .error e => [.session (.notice (.log (.messageNotDispatched task.session e)))]
    ⟨{ s with pool := step.pool, handedOver }, step.effects.map .pool ++ told⟩

/-- All messages that were handed over submitted to the pool. -/
def dispatchAll (app : Service) (s : Server) : Step :=
  s.handedOver.foldl (fun step _ => step.andThen (dispatch app)) ⟨s, []⟩

/-- The messages that sessions handed over. -/
def inbound (effects : List Effect) : List Inbound :=
  effects.filterMap fun
    | .delivered id m _ => some ⟨id, m⟩
    | .notice _ => none

/-! ### Stopping -/

/-- The loop that accepts connections stopped. -/
def stopAcceptor (r : Running) (s : Server) : Step :=
  ⟨{ s with ended := s.ended ++ [r.acceptor.stop.loop] },
    r.listener.close.map fun n => .session (.notice n)⟩

/-- What becomes of a hub when the end of its loop is waited for: the loop closes all sessions, but
if it was lost before, nobody does, and whatever it has left behind is lost as well. -/
def hubEnd (l : LoopThread) (h : Hub) : Hub.Turn :=
  if l.isRunning then h.stop else ⟨h.lose.hub.abandonWaiting, h.lose.effects⟩

/-- The loop of the hub stopped: it hands over what it has to, and closes all sessions. -/
def stopHub (app : Service) (l : LoopThread) (s : Server) : Step :=
  (s.dispatchAll app).andThen fun s =>
    let turn := hubEnd l s.hub
    ⟨{ s with hub := turn.hub, ended := s.ended ++ [l.stop.loop] }, turn.effects.map .session⟩

/-- No session is left when the loop of the hub has ended. -/
theorem entries_hubEnd (l : LoopThread) (h : Hub) : (hubEnd l h).hub.entries = [] := by
  unfold hubEnd
  split
  · exact h.entries_stop
  · rfl

/-- The loops of a server that was started stopped, the one that accepts connections first. -/
def stopLoops (app : Service) (s : Server) : Step :=
  match s.running with
  | none => ⟨s, []⟩
  | some r => ({ s with running := none }.stopAcceptor r).andThen (stopHub app r.hub)

/-- The server stopped, if it was started. -/
def stop (app : Service) (s : Server) : Step :=
  if s.running.isNone then ⟨s, []⟩
  else ((s.stopLoops app).andThen (withPool app Pool.stop)).andThen (tell .serverStopped)

/-! ### Starting -/

/-- A loop that begins under a name. -/
def loop (name : String) : LoopThread := ⟨name, .new, .running, false⟩

/-- The last stage: listening begins, and then the loop that accepts connections.  If either fails,
the hub and the pool are stopped again. -/
def startAcceptor (app : Service) (c : Conditions) (hub : LoopThread) (s : Server) :
    Step × Except ServerError SocketAddress :=
  let undo (told : List Notice) (e : ServerError) : Step × Except ServerError SocketAddress :=
    let told : Step := ⟨s, told.map .told⟩
    ((told.andThen (stopHub app hub)).andThen (withPool app Pool.stop), .error e)
  match Listener.bind c.network s.settings.listener, c.acceptor with
  | .error e, _ => undo [] e
  | .ok (_, told), some e => undo told e
  | .ok (listener, told), none =>
    let begun := Notice.log (.serverStarted listener.address s.settings.dispatch.workers)
    (⟨{ s with running := some ⟨loop acceptorName, hub, listener⟩ },
      (told ++ [begun]).map .told⟩, .ok listener.address)

/-- The stages after the pool. -/
def startLoops (app : Service) (c : Conditions) (s : Server) :
    Step × Except ServerError SocketAddress :=
  match c.hub with
  | some e => (s.withPool app Pool.stop, .error e)
  | none =>
    let hub := { Hub.new s.settings.session with
      tracker := s.hub.tracker, released := s.hub.released, dropped := s.hub.dropped }
    { s with hub }.startAcceptor app c (loop hubName)

/-- The server started, or started anew if it was.  If a stage fails, the stages before it are
stopped again. -/
def start (app : Service) (c : Conditions) (s : Server) : Step × Except ServerError SocketAddress :=
  let stopped :=
    if s.running.isNone then ⟨s, []⟩ else (s.tell .serverRestarting).andThen (stopLoops app)
  let (pool, result) := stopped.server.pool.start (app.handler stopped.server.hub) c.pool
  let begun : Step :=
    ⟨{ stopped.server with pool := pool.pool }, stopped.effects ++ pool.effects.map .pool⟩
  match result with
  | .error e => (begun, .error (.dispatch e))
  | .ok () =>
    let (rest, result) := begun.server.startLoops app c
    (⟨rest.server, begun.effects ++ rest.effects⟩, result)

/-! ### From outside -/

/-- The server was started and both of its loops are alive. -/
def isRunning (s : Server) : Bool :=
  s.running.any fun r => r.acceptor.isRunning && r.hub.isRunning

/-- The address that the server listens on. -/
def address? (s : Server) : Option SocketAddress := s.running.map (·.listener.address)

/-- How many sessions there are. -/
def activeSessions (s : Server) : Nat := s.hub.tracker.active

end Server

end WebSocket
