import WebSocket.Session.Handle
import WebSocket.Session.Inbox

/-!
# Sessions

A session is one connection on the server's side: its handle, its socket, the two halves that read
and write, and the readiness it waits for.  Messages of the client are answered where the protocol
wants it, and handed to the application where they carry data.

## Main definitions

* `Reaction`, `App` — what the application does with a message.
* `Effect` — what a session tells, and what it hands over.
* `Session` — the session.
* `Session.onReadable`, `Session.onWritable`, `Session.onHeartbeat`, `Session.finalize` — its work.
-/

namespace WebSocket

/-- What the application does with a message: the handle after it, what it tells, and the text of
its panic if it panicked. -/
structure Reaction where
  handle : Handle
  notices : List Notice
  panic : Option String

/-- An application, by its reaction to a message of the session with a given handle. -/
abbrev App := Handle → Message → Reaction

/-- What comes out of a session while it works: notices, and messages for the application. -/
inductive Effect
  | notice (n : Notice)
  /-- A message was handed to the application, which may have panicked over it. -/
  | delivered (id : ConnectionId) (m : Message) (panicked : Bool)
  deriving DecidableEq, Repr

namespace Effect

/-- The notices among effects. -/
def notices (effects : List Effect) : List Notice :=
  effects.filterMap fun
    | .notice n => some n
    | .delivered .. => none

/-- The messages that the application took, with the sessions they came from. -/
def accepted (effects : List Effect) : List (ConnectionId × Message) :=
  effects.filterMap fun
    | .delivered id m false => some (id, m)
    | _ => none

end Effect

/-- The readiness that a session waits for. -/
inductive Interest
  | read
  | readWrite
  deriving DecidableEq, Repr

/-- Sizes and rules for sessions. -/
structure SessionSettings where
  /-- The most packets that may be pending. -/
  outboxCapacity : Nat
  /-- The size of a receive buffer to start with. -/
  bufferSize : Nat
  policy : Policy
  deriving DecidableEq, Repr

instance : Inhabited SessionSettings := ⟨⟨3000, 1024, default⟩⟩

/-- One connection on the server's side. -/
structure Session where
  handle : Handle
  socket : Socket
  inbox : Inbox
  writer : Writer
  policy : Policy
  /-- The readiness that is waited for, once the session is registered. -/
  interest : Option Interest

namespace Session

/-- A session on a socket that was just accepted. -/
def new (id : ConnectionId) (peer : SocketAddress) (socket : Socket) (s : SessionSettings) :
    Session where
  handle := .new id peer s.outboxCapacity
  socket := socket
  inbox := .new s.bufferSize s.policy.limit
  writer := .idle
  policy := s.policy
  interest := none

def id (s : Session) : ConnectionId := s.handle.id

/-- What a step of a session comes to. -/
structure Step (α : Type) where
  session : Session
  effects : List Effect
  result : Except SessionError α

/-! ### Readiness -/

/-- Always reading; writing only while something is pending. -/
def desiredInterest (s : Session) : Interest :=
  if s.writer.hasPending s.handle.outbox then .readWrite else .read

/-- The session registered for readiness; it must not be registered yet. -/
def register (s : Session) : Step Unit :=
  match s.interest with
  | none => ⟨{ s with interest := some s.desiredInterest }, [], .ok ()⟩
  | some _ => ⟨s, [], .error (.io "I/O source already registered with a `Registry`")⟩

/-- The readiness brought up to date, which is asked for only where it is another one; the session
must be registered. -/
def updateInterest (s : Session) : Step Unit :=
  match s.interest with
  | none => ⟨s, [], .error (.io "I/O source not registered with `Registry`")⟩
  | some interest =>
    if interest = s.desiredInterest then ⟨s, [], .ok ()⟩
    else match s.socket.refusal with
      | some detail => ⟨s, [], .error (.io detail)⟩
      | none => ⟨{ s with interest := some s.desiredInterest }, [], .ok ()⟩

/-! ### One unit -/

/-- A handle in the middle of its work, and what came out so far, the latest first. -/
structure Work where
  handle : Handle
  recent : List Effect

/-- Nothing came out yet. -/
def Work.start (handle : Handle) : Work := ⟨handle, []⟩

/-- What came out, in order. -/
def Work.effects (w : Work) : List Effect := w.recent.reverse

/-- More notices came out. -/
def Work.tell (w : Work) (notices : List Notice) : Work :=
  { w with recent := (notices.map .notice).reverse ++ w.recent }

@[simp] theorem Work.effects_tell (w : Work) (notices : List Notice) :
    (w.tell notices).effects = w.effects ++ notices.map .notice := by
  simp [effects, tell]

/-- A duty done: an address remembered, or a reply queued. -/
def Work.act (w : Work) : Duty → Work × Option SessionError
  | .bindForwarded address =>
    let (handle, notices) := w.handle.bindForwarded address
    ({ w with handle }.tell notices, none)
  | .reply m =>
    match w.handle.queue m with
    | .ok handle => ({ w with handle }, none)
    | .error e => (w, some e)

/-- A message handed to the application.  A panic of the application is an error of the session. -/
def Work.handOver (app : App) (w : Work) (m : Message) : Work × Option SessionError :=
  let r := app w.handle m
  let recent := .delivered w.handle.id m r.panic.isSome :: w.recent
  ((Work.mk r.handle recent).tell r.notices, r.panic.map .panicked)

/-- One complete unit: decoded, answered, and, if it carries data, handed to the application. -/
def handleUnit (p : Policy) (app : App) (w : Work) (unit : Bytes) : Work × Option SessionError :=
  match p.decode unit with
  | .error e => (w, some (.protocol e))
  | .ok m =>
    let w := w.tell [.count (.messagesReceived m.kind) 1,
      .log (.messageReceived w.handle.id m.summary)]
    match perform Work.act w (p.duties m) with
    | (w, some e) => (w, some e)
    | (w, none) => if m.isControl then (w, none) else w.handOver app m

/-! ### The work of a session -/

/-- Everything that has arrived read, and its complete units handled. -/
def onReadable (app : App) (s : Session) : Step Unit :=
  let (pass, incoming) :=
    s.inbox.receive s.policy (handleUnit s.policy app) s.socket.incoming (.start s.handle)
  let session := { s with
    handle := pass.state.handle
    socket := { s.socket with incoming }
    inbox := pass.inbox }
  match pass.result with
  | .ok n => ⟨session, pass.state.effects ++ [.notice (.count .bytesRead n)], .ok ()⟩
  | .error e => ⟨session, pass.state.effects, .error e⟩

/-- As much sent as the socket takes. -/
def onWritable (s : Session) : Step Unit :=
  let pass := s.writer.flush s.id s.handle.outbox s.socket.outgoing
  ⟨{ s with
      handle := { s.handle with outbox := pass.outbox }
      socket := { s.socket with outgoing := pass.sink }
      writer := pass.writer },
    pass.notices.map .notice, pass.result.map fun _ => ()⟩

/-- What is to become of a session after its heartbeat. -/
inductive Pulse
  | alive
  /-- It was asked to close. -/
  | closed
  deriving DecidableEq, Repr

/-- The units that are still in the buffer handled. -/
def redrive (app : App) (s : Session) : Step Unit :=
  let pass := s.inbox.drain s.policy (handleUnit s.policy app) (.start s.handle)
  ⟨{ s with handle := pass.state.handle, inbox := pass.inbox }, pass.state.effects, pass.result⟩

/-- What is due from time to time: buffered units handled and pending packets sent.  A session that
was asked to close sends what it can once more. -/
def onHeartbeat (app : App) (s : Session) : Step Pulse :=
  if s.handle.closeRequested then
    let sent := s.onWritable
    let told := match sent.result with
      | .ok () => []
      | .error e => [.notice (.log (.finalFlushFailed s.id e))]
    ⟨sent.session, sent.effects ++ told, .ok .closed⟩
  else
    let driven := s.redrive app
    match driven.result with
    | .error e => ⟨driven.session, driven.effects, .error e⟩
    | .ok () =>
      let sent := driven.session.onWritable
      ⟨sent.session, driven.effects ++ sent.effects, sent.result.map fun _ => .alive⟩

/-- The session given up: pending packets discarded, the handle closed, the socket released. -/
def finalize (s : Session) : Session × List Effect :=
  let pass := s.writer.abort s.id s.handle.outbox s.socket.outgoing
  let discarded := if pass.result > 0 then [.log (.packetsDiscarded s.id pass.result)] else []
  let notices := pass.notices ++ discarded ++ [.log (.sessionReleased s.id)]
  ({ s with
      handle := { s.handle with outbox := pass.outbox }.markClosed
      socket := s.socket.hangUp
      writer := pass.writer
      interest := none },
    notices.map .notice)

/-- The session lost with the loop that served it: the socket is released, and nobody tells the
handle. -/
def lose (s : Session) : Session := { s with socket := s.socket.hangUp, interest := none }

end Session

end WebSocket
