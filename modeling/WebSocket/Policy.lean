import WebSocket.Message

/-!
# Reading units off a connection

A connection carries one unit after another: first a request, then frames.  The policy of a server
says how long a unit may be, whether frames must be masked, and which request header is trusted to
name the client.

## Main definitions

* `Policy` — the settings.
* `Boundary`, `Policy.boundary` — where the first unit of a byte string ends.
* `Policy.decode` — what a unit says.
* `Policy.duties`, `perform` — what a server has to do on a message before the application sees it.

## Main results

* `Policy.boundary_bounds` — a unit that was found is not empty and lies inside its bytes.
-/

namespace WebSocket

/-- How a server reads what clients send. -/
structure Policy where
  /-- The longest unit, in bytes. -/
  limit : Nat
  /-- Frames of clients must be masked. -/
  requireMask : Bool
  /-- The header in which a trusted proxy names the client. -/
  forwardedHeader : String
  deriving DecidableEq, Repr

/-- Ten mebibytes at most, masks required, the usual header of proxies. -/
instance : Inhabited Policy := ⟨⟨10 * 1024 * 1024, true, "X-Forwarded-For"⟩⟩

/-- Where the first unit of a byte string ends. -/
inductive Boundary
  | incomplete
  /-- The first `length` bytes are exactly one unit. -/
  | complete (length : Nat)
  deriving DecidableEq, Repr

/-- The bytes with which every request begins. -/
def requestMark : Bytes := [0x47, 0x45, 0x54]

/-- Something a server has to do on a message. -/
inductive Duty
  /-- Remember the address that a proxy gave for the client. -/
  | bindForwarded (address : String)
  /-- Send a message. -/
  | reply (message : Message)
  deriving DecidableEq, Repr

namespace Policy

/-- Frames without a mask are refused where masks are required. -/
def checkMasks (p : Policy) (frames : List Frame) : Except ProtocolError Unit :=
  if p.requireMask && frames.any (·.mask.isNone) then .error .unmasked else .ok ()

/-- Where the first unit of `data` ends. -/
def boundary (p : Policy) (data : Bytes) : Except ProtocolError Boundary :=
  if data.isPrefixOf requestMark && data.length < requestMark.length then .ok .incomplete
  else if requestMark.isPrefixOf data then
    match Http.requestBoundary p.limit data with
    | .error e => .error e
    | .ok (some length) => .ok (.complete length)
    | .ok none =>
      if data.length > p.limit then .error (.tooLarge data.length p.limit) else .ok .incomplete
  else
    match Frame.scan p.limit data with
    | .error e => .error e
    | .ok none => .ok .incomplete
    | .ok (some frames) =>
      match p.checkMasks frames with
      | .error e => .error e
      | .ok () => .ok (.complete (Frame.totalLength frames))

/-- A unit that was found is not empty and lies inside its bytes. -/
theorem boundary_bounds {p : Policy} {data : Bytes} {n : Nat}
    (h : p.boundary data = .ok (.complete n)) : 0 < n ∧ n ≤ data.length := by
  unfold boundary at h
  repeat' split at h
  all_goals try simp only [reduceCtorEq, Except.ok.injEq, Boundary.complete.injEq] at h
  · next hb =>
    subst h
    have := Http.requestBoundary_bounds hb
    omega
  · next hs _ _ =>
    subst h
    have := Frame.scanFrom_bounds hs
    omega

/-- What the unit at the head of `data` says. -/
def decode (p : Policy) (data : Bytes) : Except ProtocolError Message :=
  if requestMark.isPrefixOf data then (Handshake.parse data).map .handshake
  else do
    match ← Frame.scan p.limit data with
    | none => .error .incomplete
    | some frames =>
      p.checkMasks frames
      Message.ofFrames data frames

/-- The client that a handshake names in the trusted header: the first of the addresses listed
there. -/
def forwarded? (p : Policy) (h : Handshake) : Option String := do
  let value ← h.request.header? p.forwardedHeader
  let first := match Text.cut [','] value.toList with
    | some (first, _) => first
    | none => value.toList
  let address := Text.trim first
  if address.isEmpty then none else some (String.ofList address)

/-- The reply that a control message earns. -/
def replyTo (c : Control) : Option Message :=
  match c.kind with
  | .close => some .close
  | .ping => some .pong
  | .pong => none

/-- What a server has to do on a message, in order. -/
def duties (p : Policy) : Message → List Duty
  | .handshake h => ((p.forwarded? h).map Duty.bindForwarded).toList ++ [.reply (.handshake h)]
  | .control c => ((replyTo c).map Duty.reply).toList
  | .text _ controls | .binary _ controls => (controls.filterMap replyTo).map Duty.reply

end Policy

/-- The duties done one after the other on a state, up to the first that fails.  The state is kept
in either case. -/
def perform {σ ε : Type} (act : σ → Duty → σ × Option ε) (s : σ) : List Duty → σ × Option ε
  | [] => (s, none)
  | duty :: rest =>
    match act s duty with
    | (s, none) => perform act s rest
    | (s, some e) => (s, some e)

end WebSocket
