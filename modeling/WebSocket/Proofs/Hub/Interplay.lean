import WebSocket.Proofs.Hub.Happenings
import WebSocket.Proofs.Session.Pending
import WebSocket.Session.Contention

/-!
# A hub among threads

The loop of a hub is one thread, and no other thread touches its sessions.  But whoever holds the
handle of a session may call at any moment, and a call that queues a message looks first whether the
session is closed and adds its packet later.  Nor is a session closed all at once: its packets are
given up one by one, and its handle is told at the end.  So the loop does its work step by step
here, such a call does as well, and between two steps of one of them the others may do any of
theirs.

A session works through its readiness or its heartbeat in parts: it reads, it writes, and it says
what it wants to be told.  One part is one step here.  A packet that another thread adds during it
may stand elsewhere in the queue then, but as many are counted.

## Main definitions

* `Hub.Queueing` — where a call stands that queues a message.
* `Hub.Stage`, `Hub.Leaving` — a session that is being closed, and how far this has come.
* `Hub.Part`, `Hub.Task`, `Hub.Act` — the work of the loop.
* `Hub.Ledger`, `Hub.Interplay` — all that happened to a hub, and where its threads stand.
* `Hub.Move`, `Hub.Interplay.step`, `Hub.Interplay.run` — the steps.

## Main results

* `Hub.Interplay.exists_of_use`, `Hub.Interplay.begin_eq_some` — what may be used and begun.
* `Hub.Interplay.proceed_of_cons` — the loop goes on with what it has to do next.
* `Hub.Interplay.handle?_setHandle` — the handle of a session is the one that was set last.
-/

namespace WebSocket

/-- The session with another queue. -/
def Session.withOutbox (s : Session) (outbox : Outbox) : Session :=
  { s with handle := { s.handle with outbox } }

namespace Hub

/-! ### Calls that queue a message -/

/-- A call that queues a message and has not come back. -/
inductive Queueing
  /-- It has not looked yet whether the session is closed. -/
  | entered (m : Message)
  /-- The session was not closed, and the packet is being added. -/
  | pushing (p : Outbox.Push)
  deriving DecidableEq, Repr

namespace Queueing

/-- The call has found the session open. -/
def isPast : Queueing → Bool
  | entered _ => false
  | pushing _ => true

/-- The packet of the call is counted and not yet in the queue. -/
def isCounted : Queueing → Bool
  | entered _ => false
  | pushing p => p.isCounted

/-- What is left of a call after a step. -/
inductive Rest
  | goesOn (q : Queueing)
  | ends (answer : Except SessionError Unit)

/-- One step of a call: the handle after it, and the rest of the call. -/
def step : Queueing → Handle → Handle × Rest
  | entered m, h =>
    (h, if h.closed then .ends (.error .closed) else .goesOn (pushing (.entered m.encode m.kind)))
  | pushing (.entered bytes kind), h =>
    (h, if h.outbox.admits then .goesOn (pushing (.admitted bytes kind))
      else .ends (.error (.outboxFull h.outbox.capacity)))
  | pushing (.admitted bytes kind), h =>
    ({ h with outbox := h.outbox.count }, .goesOn (pushing (.counted bytes kind)))
  | pushing (.counted bytes kind), h =>
    let (seq, outbox) := h.outbox.takeNumber
    ({ h with outbox }, .goesOn (pushing (.numbered ⟨bytes, seq, kind⟩)))
  | pushing (.numbered p), h => ({ h with outbox := h.outbox.append p }, .ends (.ok ()))

end Queueing

/-! ### Closing -/

/-- How far the closing of a session has come, told by what comes next. -/
inductive Stage
  /-- The packet that waited longest is taken out of the queue, to be given up.  So many were. -/
  | discard (dropped : Nat)
  /-- The packet that was taken out is no longer pending. -/
  | forget (dropped : Nat)
  /-- No packet waited any more.  The one that is being written is given up. -/
  | giveUp (dropped : Nat)
  /-- The handle is told that its session is to be closed. -/
  | request
  /-- The handle is told that its session is closed. -/
  | mark
  /-- The socket is released. -/
  | release
  deriving DecidableEq, Repr

/-- The queue was found empty. -/
def Stage.isEmptied : Stage → Bool
  | discard _ | forget _ => false
  | giveUp _ | request | mark | release => true

/-- A session that is being closed.  The hub does not have it any more. -/
structure Leaving where
  entry : Entry
  cause : CloseCause
  stage : Stage

/-- The session after a step of its closing, and what comes next. -/
def Leaving.next (l : Leaving) (session : Session) (stage : Stage) : Leaving :=
  ⟨{ l.entry with session }, l.cause, stage⟩

/-! ### The work of the loop -/

/-- A part of the work on a session. -/
inductive Part
  | read (app : App)
  | redrive (app : App)
  | write
  | updateInterest

/-- A session does a part of its work. -/
def Part.step : Part → Session → Session.Step Unit
  | read app, s => s.onReadable app
  | redrive app, s => s.redrive app
  | write, s => s.onWritable
  | updateInterest, s => s.updateInterest

/-- The work on a session whose socket is ready. -/
def Part.onReady (app : App) (readable : Bool) : List Part :=
  if readable then [read app, write, updateInterest] else [write, updateInterest]

/-- Something that the loop still has to do. -/
inductive Task
  /-- Connections that wait are registered, so many at most. -/
  | register (budget : Nat)
  /-- The sessions are served that became readable since the last time. -/
  | serveReady (app : App)
  /-- A session does these parts of its work.  If one fails, then the session is closed: later, with
  the others of this heartbeat, or at once. -/
  | work (later : Bool) (id : ConnectionId) (parts : List Part)
  /-- Every session gets a heartbeat, after which those that are to be closed are. -/
  | heartbeat (app : App) (tour : Tour)
  | beat (app : App) (id : ConnectionId)
  /-- The sessions are closed that the heartbeat wants closed. -/
  | closeNoted
  | close (id : ConnectionId) (cause : CloseCause)
  /-- The loop ends. -/
  | stop (tour : Tour)
  /-- The connections that wait are let go, after `closed` sessions and `dropped` of them. -/
  | drain (closed dropped : Nat)

/-- Something that the loop does from beginning to end. -/
inductive Act
  | register (budget : Nat)
  | serve (app : App) (readable : Bool) (id : ConnectionId)
  | heartbeat (app : App) (tour : Tour)
  | close (id : ConnectionId) (cause : CloseCause)
  /-- One turn of the loop. -/
  | iterate (app : App) (registrations : Nat) (due : Option Tour)
  | stop (tour : Tour)

namespace Act

/-- What there is to do. -/
def tasks : Act → List Task
  | register budget => [.register budget]
  | serve app readable id => [.work false id (Part.onReady app readable)]
  | heartbeat app tour => [.heartbeat app tour]
  | close id cause => [.close id cause]
  | iterate app registrations due =>
    .register registrations :: .serveReady app :: (due.map (Task.heartbeat app)).toList
  | stop tour => [.stop tour]

/-- The application at work, if it is. -/
def app? : Act → Option App
  | serve app .. | heartbeat app _ | iterate app .. => some app
  | _ => none

/-- The application at work changes a session only through its handle, and does not move the
counters of sessions. -/
def Proper (a : Act) : Prop := ∀ app, a.app? = some app → app.Proper

end Act

/-! ### The hub and its threads -/

/-- A hub after all that happened, what its loop told, and which connections were taken to be
registered. -/
structure Ledger where
  hub : Hub
  effects : List Effect
  taken : List Connection

/-- How far a counter has moved. -/
def Ledger.count (l : Ledger) (c : Counter) : Nat := Notice.total c (Effect.notices l.effects)

/-- A hub, its loop, and the calls of other threads. -/
structure Interplay extends Ledger where
  /-- The calls that queue messages, with the sessions that they are for. -/
  queueings : List (ConnectionId × Queueing)
  /-- What such calls answered, in the order in which they came back. -/
  answers : List (ConnectionId × Except SessionError Unit)
  /-- What the loop has to do, the next thing first. -/
  tasks : List Task
  leaving : Option Leaving
  /-- The sessions that the heartbeat wants closed, and why. -/
  noted : List (ConnectionId × CloseCause)

/-- A step of one of the threads, of a client or of the network. -/
inductive Move
  /-- A connection is put at the end of those that wait. -/
  | accept (c : Connection)
  /-- Something happens on the other end of a connection. -/
  | signal (serial : Nat) (f : Socket → Socket)
  /-- Somebody uses the handle of a session, other than to queue a message. -/
  | use (id : ConnectionId) (u : Handle.Use)
  /-- Somebody calls to queue a message for a session. -/
  | enter (id : ConnectionId) (m : Message)
  /-- The call at a place does its next step. -/
  | goOn (place : Nat)
  /-- The loop begins something. -/
  | begin (a : Act)
  /-- The loop does its next step. -/
  | proceed

/-- The application at work behaves, if there is one. -/
def Move.Proper : Move → Prop
  | begin a => a.Proper
  | _ => True

namespace Interplay

/-- A hub to which nothing has happened. -/
def new (settings : SessionSettings) : Interplay := ⟨⟨.new settings, [], []⟩, [], [], [], none, []⟩

/-- The loop has nothing to do. -/
def AtRest (s : Interplay) : Prop := s.tasks = [] ∧ s.leaving = none

/-- The sessions that are there, that are being closed, and that were closed. -/
def sessions (s : Interplay) : List Entry :=
  s.hub.entries ++ (s.leaving.map Leaving.entry).toList ++ s.hub.released

/-- The handle of a session, which may be closed. -/
def handle? (s : Interplay) (id : ConnectionId) : Option Handle :=
  (s.sessions.find? fun e => e.session.id = id).map (·.session.handle)

/-- A session with this handle, if it has its number. -/
def touched (handle : Handle) (e : Entry) : Entry :=
  if e.session.id = handle.id then { e with session := { e.session with handle } } else e

/-- The handle of a session after it was used. -/
def setHandle (s : Interplay) (handle : Handle) : Interplay :=
  { s with
    hub := s.hub.setHandle handle
    leaving := s.leaving.map fun l => { l with entry := touched handle l.entry } }

/-- A session whose socket changed, if this is its connection. -/
def signalled (serial : Nat) (f : Socket → Socket) (e : Entry) : Entry :=
  if e.serial = serial then
    { e with session := { e.session with socket := f e.session.socket } }
  else e

/-- Something happened on the other end of a connection. -/
def signal (s : Interplay) (serial : Nat) (f : Socket → Socket) : Interplay :=
  { s with
    hub := s.hub.signal serial f
    leaving := s.leaving.map fun l => { l with entry := signalled serial f l.entry } }

/-- Somebody used the handle of a session.  A message is queued step by step and not here. -/
def use (s : Interplay) (id : ConnectionId) : Handle.Use → Option Interplay
  | .queue _ => none
  | u => (s.handle? id).map fun handle => s.setHandle (u.apply handle)

/-- Somebody called who has the handle of a session. -/
def enter (s : Interplay) (id : ConnectionId) (m : Message) : Option Interplay :=
  (s.handle? id).map fun _ => { s with queueings := s.queueings ++ [(id, .entered m)] }

/-- The call at a place after its next step, which left this. -/
def left (s : Interplay) (place : Nat) (id : ConnectionId) : Queueing.Rest → Interplay
  | .goesOn q => { s with queueings := s.queueings.set place (id, q) }
  | .ends answer =>
    { s with queueings := s.queueings.eraseIdx place, answers := s.answers ++ [(id, answer)] }

/-- The call at a place did its next step. -/
def goOn (s : Interplay) (place : Nat) : Option Interplay :=
  s.queueings[place]?.bind fun (id, q) => (s.handle? id).map fun handle =>
    (s.setHandle (q.step handle).1).left place id (q.step handle).2

/-! ### The steps of the loop -/

/-- More to do before everything else. -/
def push (s : Interplay) (tasks : List Task) : Interplay := { s with tasks := tasks ++ s.tasks }

/-- The loop did something to the hub. -/
def did (s : Interplay) (t : Turn) : Interplay :=
  { s with hub := t.hub, effects := s.effects ++ t.effects }

/-- A session wanted closed after the heartbeat. -/
def note (s : Interplay) (id : ConnectionId) (cause : CloseCause) : Interplay :=
  { s with noted := s.noted ++ [(id, cause)] }

/-- The first connection that waits registered, if there is one. -/
def registerNext (s : Interplay) : Interplay :=
  { s.did s.hub.registerNext with taken := s.taken ++ s.hub.waiting.take 1 }

/-- A session did a part of its work. -/
def work (s : Interplay) (later : Bool) (e : Entry) (part : Part) (parts : List Part) :
    Interplay :=
  let id := e.session.id
  let step := part.step e.session
  let s := s.did ⟨s.hub.update id step.session, step.effects⟩
  match step.result with
  | .ok () => s.push [.work later id parts]
  | .error cause => if later then s.note id (.failed cause) else s.push [.close id (.failed cause)]

/-- A session that is there begins its heartbeat.  If it was asked to close, then all of it is to
send what can be sent. -/
def beat (s : Interplay) (app : App) (e : Entry) : Interplay :=
  let id := e.session.id
  if e.session.handle.closeRequested then
    let step := e.session.onHeartbeat app
    (s.did ⟨s.hub.update id step.session, step.effects⟩).note id .requested
  else s.push [.work true id [.redrive app, .write, .updateInterest]]

/-- A session that is there is taken out of the hub, to be closed. -/
def remove (s : Interplay) (e : Entry) (cause : CloseCause) : Interplay :=
  let hub := { s.hub with entries := s.hub.entries.filter fun f => f.session.id ≠ e.session.id }
  { s.did ⟨hub, (e.session.farewell cause).map .notice⟩ with
    leaving := some ⟨{ e with session := { e.session with interest := none } }, cause,
      .discard 0⟩ }

/-- A connection that waits is let go. -/
def drop (s : Interplay) (c : Connection) (waiting : List Connection) : Interplay :=
  let gone := { c with socket := c.socket.hangUp }
  { s with hub := { s.hub with waiting, dropped := s.hub.dropped ++ [gone] } }

/-- The next step towards something that the loop has to do. -/
def perform (s : Interplay) : Task → Interplay
  | .register 0 => s
  | .register (budget + 1) =>
    if s.hub.waiting.isEmpty then s else s.registerNext.push [.register budget]
  | .serveReady app =>
    { s with hub := s.hub.seen }.push
      (s.hub.ready.map fun id => .work false id (Part.onReady app true))
  | .work _ _ [] => s
  | .work later id (part :: parts) =>
    match s.hub.find? id with
    | none => s
    | some e => s.work later e part parts
  | .heartbeat app tour => s.push ((tour.order s.hub.ids).map (.beat app) ++ [.closeNoted])
  | .beat app id =>
    match s.hub.find? id with
    | none => s
    | some e => s.beat app e
  | .closeNoted => { s with noted := [] }.push (s.noted.map fun (id, cause) => .close id cause)
  | .close id cause =>
    match s.hub.find? id with
    | none => s
    | some e => s.remove e cause
  | .stop tour =>
    let ids := tour.order s.hub.ids
    s.push (ids.map (.close · .shutdown) ++ [.drain ids.length 0])
  | .drain closed dropped =>
    match s.hub.waiting with
    | [] => s.did ⟨s.hub, [.notice (.log (.hubStopped closed dropped))]⟩
    | c :: waiting => (s.drop c waiting).push [.drain closed (dropped + 1)]

/-- A step of closing a session told something. -/
def tell (s : Interplay) (notices : List Notice) : Interplay :=
  s.did ⟨s.hub, notices.map .notice⟩

/-- What is told when a session was closed that had packets to send. -/
def discarded (id : ConnectionId) (dropped : Nat) : List Notice :=
  if dropped > 0 then [.log (.packetsDiscarded id dropped)] else []

/-- The session that is being closed after a step, and what comes next. -/
def leave (s : Interplay) (l : Leaving) (session : Session) (stage : Stage) : Interplay :=
  { s with leaving := some (l.next session stage) }

/-- The next step of closing a session. -/
def closeOn (s : Interplay) (l : Leaving) : Interplay :=
  let session := l.entry.session
  let handle := session.handle
  match l.stage with
  | .discard dropped =>
    match handle.outbox.pop? with
    | some (_, outbox) => s.leave l (session.withOutbox outbox) (.forget dropped)
    | none => s.leave l session (.giveUp dropped)
  | .forget dropped =>
    s.leave l (session.withOutbox handle.outbox.complete) (.discard (dropped + 1))
  | .giveUp dropped =>
    match session.writer.inFlight with
    | some (p, _) =>
      (s.tell (Writer.failed session.id p ++ discarded session.id (dropped + 1))).leave l
        { session.withOutbox handle.outbox.complete with writer := .idle } .request
    | none => (s.tell (discarded session.id dropped)).leave l session .request
  | .request =>
    s.leave l { session with handle := { handle with closeRequested := true } } .mark
  | .mark => s.leave l { session with handle := { handle with closed := true } } .release
  | .release =>
    let tracker := s.hub.tracker.release
    let entry := { l.entry with session := { session with socket := session.socket.hangUp } }
    { s.did ⟨{ s.hub with released := s.hub.released ++ [entry], tracker },
        [.notice (.log (.sessionReleased session.id)),
          .notice (.count (.sessionsClosed l.cause.reason) 1),
          .notice (.gauge .sessionsActive tracker.active)]⟩ with
      leaving := none }

/-- The next step of the loop, if it has anything to do. -/
def proceed (s : Interplay) : Option Interplay :=
  match s.leaving, s.tasks with
  | some l, _ => some (s.closeOn l)
  | none, [] => none
  | none, t :: tasks => some ({ s with tasks }.perform t)

/-- The loop begins something, if it has nothing to do. -/
def begin (s : Interplay) (a : Act) : Option Interplay :=
  match s.leaving, s.tasks with
  | none, [] => some { s with tasks := a.tasks }
  | _, _ => none

/-! ### Runs -/

/-- One step, if it can be taken. -/
def step (m : Move) (s : Interplay) : Option Interplay :=
  match m with
  | .accept c => some { s with hub := s.hub.accept c }
  | .signal serial f => some (s.signal serial f)
  | .use id u => s.use id u
  | .enter id m => s.enter id m
  | .goOn place => s.goOn place
  | .begin a => s.begin a
  | .proceed => s.proceed

/-- The steps of a given order, if all of them can be taken. -/
def run (moves : List Move) (s : Interplay) : Option Interplay :=
  moves.foldlM (fun s m => s.step m) s

variable {s t : Interplay}

theorem run_cons {m : Move} (h : s.step m = some t) (moves : List Move) :
    s.run (m :: moves) = t.run moves := by
  simp [run, List.foldlM_cons, h]

/-- A run begins with its first step. -/
theorem exists_of_run_cons {m : Move} {moves : List Move} (h : s.run (m :: moves) = some t) :
    ∃ next, s.step m = some next ∧ next.run moves = some t := by
  rw [run, List.foldlM_cons] at h
  exact Option.bind_eq_some_iff.1 h

/-- A run ends with its last step. -/
theorem exists_of_run_concat {moves : List Move} {m : Move} (h : s.run (moves ++ [m]) = some t) :
    ∃ last, s.run moves = some last ∧ last.step m = some t := by
  rw [run, List.foldlM_append] at h
  obtain ⟨last, hlast, hstep⟩ := Option.bind_eq_some_iff.1 h
  refine ⟨last, hlast, ?_⟩
  obtain ⟨next, hnext, hend⟩ := exists_of_run_cons hstep
  obtain rfl : next = t := Option.some.inj hend
  exact hnext

/-- Whoever uses a handle, other than to queue a message, leaves its queue as it is, and cannot take
back that it is closed or is to be. -/
theorem exists_of_use {id : ConnectionId} {u : Handle.Use} (h : s.use id u = some t) :
    ∃ handle handle', s.handle? id = some handle ∧ s.setHandle handle' = t ∧
      handle'.id = handle.id ∧ handle'.outbox = handle.outbox ∧ handle'.closed = handle.closed ∧
      (handle.closeRequested = true → handle'.closeRequested = true) := by
  cases u with
  | queue m => simp [use] at h
  | requestClose =>
    obtain ⟨handle, hhandle, ht⟩ := Option.map_eq_some_iff.1 h
    exact ⟨handle, _, hhandle, ht, rfl, rfl, rfl, fun _ => rfl⟩
  | bindForwarded | keep | forget =>
    obtain ⟨handle, hhandle, ht⟩ := Option.map_eq_some_iff.1 h
    exact ⟨handle, _, hhandle, ht, rfl, rfl, rfl, fun hasked => hasked⟩

/-- The loop begins something only when it has nothing to do. -/
theorem begin_eq_some {a : Act} (h : s.begin a = some t) :
    s.leaving = none ∧ s.tasks = [] ∧ { s with tasks := a.tasks } = t := by
  unfold begin at h
  split at h
  · next hleaving htasks => exact ⟨hleaving, htasks, Option.some.inj h⟩
  · simp at h

/-- While no session is being closed, the loop goes on with what it has to do next. -/
theorem proceed_of_cons (hl : s.leaving = none) {task : Task} {tasks : List Task}
    (h : s.tasks = task :: tasks) : s.proceed = some ({ s with tasks }.perform task) := by
  obtain ⟨ledger, queueings, answers, rest, leaving, noted⟩ := s
  obtain rfl : leaving = none := hl
  obtain rfl : rest = task :: tasks := h
  rfl

/-! ### Handles -/

@[simp] theorem id_touched (handle : Handle) (e : Entry) :
    (touched handle e).session.id = e.session.id := by
  unfold touched
  split
  · next heq => exact heq.symm
  · rfl

theorem sessions_setHandle (s : Interplay) (handle : Handle) :
    (s.setHandle handle).sessions = s.sessions.map (touched handle) := by
  have hleaving : ((s.setHandle handle).leaving.map Leaving.entry).toList =
      (s.leaving.map Leaving.entry).toList.map (touched handle) := by
    show ((s.leaving.map _).map Leaving.entry).toList = _
    cases s.leaving <;> rfl
  unfold sessions
  rw [hleaving, List.map_append, List.map_append]
  rfl

theorem id_of_handle? {id : ConnectionId} {handle : Handle} (h : s.handle? id = some handle) :
    handle.id = id := by
  obtain ⟨e, he, rfl⟩ := Option.map_eq_some_iff.1 h
  have hid : e.session.id = id := by simpa using List.find?_some he
  exact hid

/-- The handle of a session is the one that was set last. -/
theorem handle?_setHandle (s : Interplay) (handle : Handle) (id : ConnectionId) :
    (s.setHandle handle).handle? id =
      (s.handle? id).map fun old => if id = handle.id then handle else old := by
  have hsame : (fun e : Entry => decide (e.session.id = id)) ∘ touched handle =
      fun e => decide (e.session.id = id) := by
    funext e
    simp
  unfold handle?
  rw [sessions_setHandle, List.find?_map, hsame]
  cases hfound : s.sessions.find? fun e => e.session.id = id with
  | none => rfl
  | some e =>
    have hid : e.session.id = id := by simpa using List.find?_some hfound
    show some (touched handle e).session.handle = some (if id = handle.id then handle else _)
    unfold touched
    rw [hid]
    split <;> rfl

end Interplay

end Hub

end WebSocket
