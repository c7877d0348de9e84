import WebSocket.Net.Tracker
import WebSocket.Session.Service

/-!
# The hub

One loop serves all sessions.  Accepted connections wait until it registers them; a session whose
socket is ready is served; from time to time every session gets a heartbeat; and a session that
fails is closed without the others noticing.

## Main definitions

* `Connection` — an accepted connection that waits.
* `Hub` — the loop's state.
* `Hub.iterate` — one turn of the loop, of `Hub.registerNew`, `Hub.serveReady` and `Hub.heartbeat`.
* `Hub.stop` — the end of the loop; `Hub.lose` — the loop is lost without an end.
* `Hub.arrive`, `Hub.offer?`, `Hub.finish`, `Hub.socket?` — what the clients do and see.

## Main results

* `Hub.entries_close` — closing one session leaves the others as they are.
* `Hub.entries_stop`, `Hub.waiting_stop` — after the end nothing is left.
-/

namespace WebSocket

/-- An accepted connection that waits to be registered. -/
structure Connection where
  /-- Its place in the order of acceptance. -/
  serial : Nat
  peer : SocketAddress
  socket : Socket
  /-- What registration will fail with, if it will. -/
  refusal : Option String
  deriving DecidableEq, Repr

/-- A session with the place of its connection in the order of acceptance. -/
structure Entry where
  serial : Nat
  session : Session

/-- The state of the loop that serves all sessions. -/
structure Hub where
  settings : SessionSettings
  waiting : List Connection
  /-- The registered sessions, in the order of registration. -/
  entries : List Entry
  /-- The sessions whose sockets became ready since they were last looked at, in that order. -/
  ready : List ConnectionId
  tracker : Tracker
  /-- The sessions that were closed, as their handles and their clients still see them. -/
  released : List Entry
  /-- The connections that were let go without having become sessions. -/
  dropped : List Connection

namespace Hub

/-- A hub without sessions. -/
def new (settings : SessionSettings) : Hub := ⟨settings, [], [], [], .new, [], []⟩

/-- The hub after some work, and what came out of it. -/
structure Turn where
  hub : Hub
  effects : List Effect

/-- Nothing was done. -/
def Turn.start (hub : Hub) : Turn := ⟨hub, []⟩

/-- More work on the hub. -/
def Turn.andThen (t : Turn) (next : Hub → Turn) : Turn :=
  let after := next t.hub
  ⟨after.hub, t.effects ++ after.effects⟩

/-- The same work for each item of a list in turn. -/
def Turn.forEach {α : Type} (items : List α) (work : α → Hub → Turn) (t : Turn) : Turn :=
  items.foldl (fun t item => t.andThen (work item)) t

/-! ### Sessions -/

/-- The registered session with a number. -/
def find? (h : Hub) (id : ConnectionId) : Option Entry :=
  h.entries.find? fun e => e.session.id = id

/-- The registered session with a number replaced. -/
def update (h : Hub) (id : ConnectionId) (s : Session) : Hub :=
  { h with entries := h.entries.map fun e =>
      if e.session.id = id then { e with session := s } else e }

/-- A connection put at the end of those that wait. -/
def accept (h : Hub) (c : Connection) : Hub := { h with waiting := h.waiting ++ [c] }

/-- A socket that can be read already. -/
def isReadable (s : Socket) : Bool := !s.incoming.arrivals.isEmpty || s.incoming.ended

/-- The first connection that waits becomes a session, if it can be registered. -/
def registerNext (h : Hub) : Turn :=
  match h.waiting with
  | [] => ⟨h, []⟩
  | c :: waiting =>
    let (id, tracker) := h.tracker.track
    let h := { h with waiting, tracker }
    match c.refusal with
    | some detail =>
      let socket := c.socket.hangUp
      ⟨{ h with tracker := tracker.release, dropped := h.dropped ++ [{ c with socket }] },
        [.notice (.log (.sessionNotRegistered c.peer detail)),
          .notice (.log (.sessionReleased id))]⟩
    | none =>
      let session := (Session.new id c.peer c.socket h.settings).register.session
      let ready := if isReadable c.socket then h.ready ++ [id] else h.ready
      ⟨{ h with entries := h.entries ++ [⟨c.serial, session⟩], ready },
        [.notice (.log (.sessionOpened id c.peer)), .notice (.count .sessionsOpened 1),
          .notice (.gauge .sessionsActive tracker.active)]⟩

/-- Connections that wait registered, until `budget` of them are or none is left. -/
def registerNew (budget : Nat) (h : Hub) : Turn :=
  Turn.forEach (List.range (min budget h.waiting.length)) (fun _ => registerNext) (.start h)

/-- A session closed, if it is still there. -/
def close (id : ConnectionId) (cause : CloseCause) (h : Hub) : Turn :=
  match h.find? id with
  | none => ⟨h, []⟩
  | some e =>
    let (session, effects) := e.session.finalize
    let tracker := h.tracker.release
    ⟨{ h with
        entries := h.entries.filter fun e => e.session.id ≠ id
        released := h.released ++ [{ e with session }]
        tracker },
      (e.session.farewell cause).map .notice ++ effects ++
        [.notice (.count (.sessionsClosed cause.reason) 1),
          .notice (.gauge .sessionsActive tracker.active)]⟩

/-- The work on one session that is ready.  A session that fails is closed. -/
def serve (app : App) (readable : Bool) (id : ConnectionId) (h : Hub) : Turn :=
  match h.find? id with
  | none => ⟨h, []⟩
  | some e =>
    let step := e.session.serve app readable
    let turn : Turn := ⟨h.update id step.session, step.effects⟩
    match step.result with
    | .ok () => turn
    | .error cause => turn.andThen (close id (.failed cause))

/-- The work on all sessions that became readable since the last time. -/
def serveReady (app : App) (h : Hub) : Turn :=
  Turn.forEach h.ready (serve app true) (.start { h with ready := [] })

/-- A heartbeat of one session; the result says why it is to be closed, if it is. -/
def beat (app : App) (id : ConnectionId) (h : Hub) : Turn × Option CloseCause :=
  match h.find? id with
  | none => (⟨h, []⟩, none)
  | some e =>
    let step := e.session.beat app
    (⟨h.update id step.session, step.effects⟩, step.closeCause?)

/-- A heartbeat of the sessions in `ids`, with the causes to close some of them. -/
def beatAll (app : App) : List ConnectionId → Hub → Turn × List (ConnectionId × CloseCause)
  | [], h => (⟨h, []⟩, [])
  | id :: ids, h =>
    let (turn, cause) := beat app id h
    let (rest, causes) := beatAll app ids turn.hub
    (⟨rest.hub, turn.effects ++ rest.effects⟩, (cause.map (id, ·)).toList ++ causes)

/-- A heartbeat of every session, after which those that are to be closed are. -/
def heartbeat (app : App) (h : Hub) : Turn :=
  let (turn, causes) := beatAll app (h.entries.map (·.session.id)) h
  Turn.forEach causes (fun (id, cause) => close id cause) turn

/-- One turn of the loop. -/
def iterate (app : App) (registrations : Nat) (heartbeatDue : Bool) (h : Hub) : Turn :=
  let served := (registerNew registrations h).andThen (serveReady app)
  if heartbeatDue then served.andThen (heartbeat app) else served

/-- The end of the loop: every session closed, every connection that waits let go. -/
def stop (h : Hub) : Turn :=
  let ids := h.entries.map (·.session.id)
  let closed := Turn.forEach ids (fun id => close id .shutdown) (.start h)
  closed.andThen fun h =>
    let gone := h.waiting.map fun c => { c with socket := c.socket.hangUp }
    ⟨{ h with waiting := [], dropped := h.dropped ++ gone },
      [.notice (.log (.hubStopped ids.length h.waiting.length))]⟩

/-- The loop is lost, and its sessions with it. -/
def lose (h : Hub) : Turn :=
  ⟨{ h with
      entries := []
      released := h.released ++ h.entries.map fun e => { e with session := e.session.lose }
      tracker := { h.tracker with active := h.tracker.active - h.entries.length } },
    h.entries.map fun e => .notice (.log (.sessionReleased e.session.id))⟩

/-- The connections that wait go with those who could have registered them. -/
def abandonWaiting (h : Hub) : Hub :=
  { h with
    waiting := []
    dropped := h.dropped ++ h.waiting.map fun c => { c with socket := c.socket.hangUp } }

/-! ### Which sessions remain -/

/-- Closing a session leaves all others as they are. -/
theorem entries_close (id : ConnectionId) (cause : CloseCause) (h : Hub) :
    (close id cause h).hub.entries = h.entries.filter fun e => e.session.id ≠ id := by
  unfold close
  split
  · next hf =>
    have none_has : ∀ e ∈ h.entries, decide (e.session.id ≠ id) = true := by
      simpa [find?] using hf
    exact (List.filter_eq_self.2 none_has).symm
  · rfl

/-- Closing several sessions leaves all others as they are. -/
theorem entries_forEach_close (ids : List ConnectionId) (cause : CloseCause) (t : Turn) :
    (t.forEach ids fun id => close id cause).hub.entries =
      t.hub.entries.filter fun e => e.session.id ∉ ids := by
  induction ids generalizing t with
  | nil => exact (List.filter_eq_self.2 (by simp)).symm
  | cons id ids ih =>
    have rest := ih (t.andThen (close id cause))
    simp only [Turn.forEach, List.foldl_cons] at rest ⊢
    rw [rest, Turn.andThen, entries_close, List.filter_filter]
    refine List.filter_congr fun e _ => ?_
    simp [Bool.and_comm]

/-- After the end no session and no connection is left. -/
theorem entries_stop (h : Hub) : h.stop.hub.entries = [] := by
  simp only [stop, Turn.andThen, entries_forEach_close, Turn.start]
  refine List.filter_eq_nil_iff.2 fun e he => ?_
  simpa using ⟨e, he, rfl⟩

@[simp] theorem waiting_stop (h : Hub) : h.stop.hub.waiting = [] := rfl

/-! ### Clients and handles -/

/-- The socket of a connection, wherever the connection is. -/
def socket? (h : Hub) (serial : Nat) : Option Socket :=
  let waiting := (h.waiting ++ h.dropped).find? (·.serial == serial)
  let sessions := (h.entries ++ h.released).find? (·.serial == serial)
  (waiting.map (·.socket)) <|> (sessions.map (·.session.socket))

/-- Something happened on the other end of a connection, of which its session takes notice. -/
def signal (h : Hub) (serial : Nat) (f : Socket → Socket) : Hub :=
  let touch (e : Entry) : Entry :=
    if e.serial = serial then
      { e with session := { e.session with socket := f e.session.socket } }
    else e
  let touched := (h.entries.filter (·.serial = serial)).map (·.session.id)
  { h with
    waiting := h.waiting.map fun c =>
      if c.serial = serial then { c with socket := f c.socket } else c
    entries := h.entries.map touch
    ready := h.ready ++ touched.filter fun id => !h.ready.contains id }

/-- The client of a connection has sent bytes. -/
def arrive (h : Hub) (serial : Nat) (chunk : Bytes) : Hub :=
  if chunk.isEmpty then h else h.signal serial (·.arrive chunk)

/-- The client of a connection sends bytes, if its socket lets it. -/
def offer? (h : Hub) (serial : Nat) (chunk : Bytes) : Option Hub :=
  ((h.socket? serial).bind (·.offer? chunk)).map fun _ => h.arrive serial chunk

/-- The client of a connection sends nothing more. -/
def finish (h : Hub) (serial : Nat) : Hub := h.signal serial Socket.finish

/-- The handle of a session, which may be closed. -/
def handle? (h : Hub) (id : ConnectionId) : Option Handle :=
  ((h.entries ++ h.released).find? fun e => e.session.id = id).map (·.session.handle)

/-- The handle of a session after it was used. -/
def setHandle (h : Hub) (handle : Handle) : Hub :=
  let touch (e : Entry) : Entry :=
    if e.session.id = handle.id then { e with session := { e.session with handle } } else e
  { h with entries := h.entries.map touch, released := h.released.map touch }

end Hub

end WebSocket
