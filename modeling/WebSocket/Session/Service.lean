import WebSocket.Session.Basic

/-!
# Serving a session

What the loop of a server does with one session when its socket is ready, and when a heartbeat is
due.  The first step that fails ends the work, and the effects of the steps before it stand.

## Main definitions

* `Session.Step.andThen` — one step after another.
* `Session.serve` — the work on readiness.
* `Session.beat` — the work on a heartbeat.
* `CloseCause` — why a session is closed.

## Main results

* `Session.Step.andThen_assoc` — steps can be taken together in any way.
-/

namespace WebSocket

/-- Why a session is closed. -/
inductive CloseCause
  | requested
  | shutdown
  | failed (cause : SessionError)
  deriving DecidableEq, Repr

/-- The label under which a closed session is counted. -/
def CloseCause.reason : CloseCause → CloseReason
  | requested => .requested
  | shutdown => .shutdown
  | failed cause => cause.reason

namespace Session

/-- A step after another, which is left out when the first one failed. -/
def Step.andThen {α β : Type} (st : Step α) (next : α → Session → Step β) : Step β :=
  match st.result with
  | .error e => ⟨st.session, st.effects, .error e⟩
  | .ok a =>
    let after := next a st.session
    { after with effects := st.effects ++ after.effects }

theorem Step.andThen_ok (st : Step Unit) : (st.andThen fun _ s => ⟨s, [], .ok ()⟩) = st := by
  obtain ⟨s, effects, result⟩ := st
  cases result with
  | error e => rfl
  | ok => exact congrArg (Step.mk s · (.ok ())) (List.append_nil effects)

theorem Step.start_andThen {α β : Type} (s : Session) (a : α) (next : α → Session → Step β) :
    (⟨s, [], .ok a⟩ : Step α).andThen next = next a s := rfl

theorem Step.andThen_assoc {α β γ : Type} (st : Step α) (f : α → Session → Step β)
    (g : β → Session → Step γ) :
    (st.andThen f).andThen g = st.andThen fun a s => (f a s).andThen g := by
  obtain ⟨s, effects, result⟩ := st
  cases result with
  | error e => rfl
  | ok a =>
    unfold andThen
    dsimp only
    generalize f a s = next
    obtain ⟨t, more, result⟩ := next
    cases result with
    | error e => rfl
    | ok b =>
      dsimp only
      rw [List.append_assoc]

/-- The work on a session whose socket is ready: read if it can be read, send at once what that
queued, and wait for the readiness that is wanted then. -/
def serve (app : App) (readable : Bool) (s : Session) : Step Unit :=
  let read := if readable then s.onReadable app else ⟨s, [], .ok ()⟩
  (read.andThen fun _ => onWritable).andThen fun _ => updateInterest

/-- The work on a heartbeat; a session that stays alive waits for the readiness that is wanted
then. -/
def beat (app : App) (s : Session) : Step Pulse :=
  (s.onHeartbeat app).andThen fun pulse s =>
    match pulse with
    | .alive => s.updateInterest.andThen fun _ s => ⟨s, [], .ok .alive⟩
    | .closed => ⟨s, [], .ok .closed⟩

/-- Why a session is to be closed after a heartbeat, if it is. -/
def Step.closeCause? (st : Step Pulse) : Option CloseCause :=
  match st.result with
  | .ok .alive => none
  | .ok .closed => some .requested
  | .error e => some (.failed e)

/-- What is told when a session is closed, before it is. -/
def farewell (s : Session) (cause : CloseCause) : List Notice :=
  match cause with
  | .failed e =>
    let told := Notice.log (.sessionFailed s.id s.handle.peer e)
    match e with
    | .protocol _ | .bufferFull _ => [.count .protocolErrors 1, told]
    | _ => [told]
  | _ => [.log (.sessionClosed s.id s.handle.peer cause.reason)]

end Session

end WebSocket
