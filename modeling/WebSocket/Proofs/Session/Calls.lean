import WebSocket.Proofs.Session.Handling

/-!
# What a session makes of its stream

A session is called when its socket can be read and when its heartbeat is due, and between two calls
anything may happen to its handle, its socket and its writer.  Over all calls together the units of
the stream are handled from its front, in order and each once.  A unit whose handling failed is the
last of its call; it stays at the front of the buffer, where a later call finds it again.

## Main definitions

* `Session.Round` — a call on a session; `Session.Rounds` — calls one after the other.
* `Session.Report`, `Session.Report.Right` — what was read and handled in a call.

## Main results

* `Session.exists_report` — **what a call comes to.**
* `Session.rounds_handle_units` — **what all calls come to.**
-/

namespace WebSocket

/-- What is made of a result changes no error. -/
theorem eq_error_of_map {ε α β : Type} {f : α → β} {result : Except ε α} {e : ε}
    (h : result.map f = .error e) : result = .error e := by
  cases result with
  | error e' => simpa [Except.map] using h
  | ok a => simp [Except.map] at h

/-! ### Flushing -/

theorem Packet.isTransport_of_writeFrom {p : Packet} {offset : Nat} {sink sink' : Sink}
    {e : SessionError} (h : p.writeFrom offset sink = (.failed e, sink')) : e.IsTransport := by
  fun_induction Packet.writeFrom p offset sink with
  | case1 =>
    obtain ⟨rfl, -⟩ : SessionError.writeZero = e ∧ _ = sink' := by simpa using h
    trivial
  | case2 _ _ _ _ _ _ ih => exact ih h
  | case3 => simp at h
  | case4 _ _ _ _ _ ih => exact ih h
  | case5 _ _ _ detail =>
    obtain ⟨rfl, -⟩ : SessionError.io detail = e ∧ _ = sink' := by simpa using h
    trivial
  | case6 => simp at h

theorem Writer.isTransport_of_flushFrom {id : ConnectionId} {o : Outbox} {sink : Sink} {p : Packet}
    {offset total : Nat} {waiting : List Packet} {e : SessionError}
    (h : (flushFrom id o sink p offset total waiting).result = .error e) : e.IsTransport := by
  fun_induction flushFrom id o sink p offset total waiting with
  | case1 => simp at h
  | case2 _ _ _ _ _ _ e' _ hwrite =>
    obtain rfl : e' = e := Except.error.inj h
    exact Packet.isTransport_of_writeFrom hwrite
  | case3 => simp at h
  | case4 =>
    rename_i ih
    exact ih h

/-- Flushing fails for the socket only. -/
theorem Writer.isTransport_of_flush {id : ConnectionId} {w : Writer} {o : Outbox} {sink : Sink}
    {e : SessionError} (h : (w.flush id o sink).result = .error e) : e.IsTransport := by
  unfold Writer.flush at h
  split at h
  · exact isTransport_of_flushFrom h
  · exact isTransport_of_flushFrom h
  · simp at h

namespace Session

theorem isTransport_of_onWritable {s : Session} {e : SessionError}
    (h : s.onWritable.result = .error e) : e.IsTransport :=
  Writer.isTransport_of_flush (eq_error_of_map h)

/-! ### Calls -/

/-- The calls in which units are handled. -/
inductive Call
  | readable
  | heartbeat
  deriving DecidableEq, Repr

/-- A call on a session as it stands then, with the application that takes its data. -/
structure Round where
  app : App
  session : Session
  kind : Call

namespace Round

/-- What the call does. -/
def step (r : Round) : Step Unit :=
  match r.kind with
  | .readable => r.session.onReadable r.app
  | .heartbeat =>
    let beat := r.session.onHeartbeat r.app
    ⟨beat.session, beat.effects, beat.result.map fun _ => ()⟩

/-- The bytes in the buffer before the call. -/
def before (r : Round) : Bytes := r.session.inbox.buffer.contents

/-- The bytes in the buffer after the call. -/
def after (r : Round) : Bytes := r.step.session.inbox.buffer.contents

/-- The call looks for units: it is a heartbeat of a session that was not asked to close, or it has
read something. -/
def Looks (r : Round) (arrived : Bytes) : Prop :=
  (r.kind = .heartbeat ∧ r.session.handle.closeRequested = false) ∨ arrived ≠ []

end Round

/-- The units that were handled without a failure: all of them, or all but the last. -/
def takenUnits (ks : List Handling) : Option SessionError → List Bytes
  | none => ks.map Handling.unit
  | some _ => ks.dropLast.map Handling.unit

/-- What was read and handled in a call, and why handling failed if it did. -/
structure Report where
  round : Round
  arrived : Bytes
  handlings : List Handling
  failure : Option SessionError

namespace Report

/-- The units that were handled without a failure. -/
def taken (r : Report) : List Bytes := takenUnits r.handlings r.failure

/-- A report says what happened in its call. -/
structure Right (r : Report) : Prop where
  /-- What was read is no longer to be read. -/
  arrived : r.round.session.socket.incoming.content =
    r.arrived ++ r.round.step.session.socket.incoming.content
  /-- The units that were taken are the first of the bytes that were there and those that were
  read, and the other bytes stay. -/
  carved : Carved r.round.session.policy (r.round.before ++ r.arrived) r.taken r.round.after
  /-- The units were handled one after the other, and a heartbeat may have sent afterwards. -/
  chain : ∃ s : Session, Chain r.round.session.policy r.round.app r.round.session.handle r.handlings
      s.handle r.failure ∧
    (r.round.step.session = s ∨
      (r.round.kind = .heartbeat ∧ r.round.step.session = s.onWritable.session))
  /-- What came out of the handlings came out of the call, and notices after it. -/
  told : ∃ notices : List Notice,
    r.round.step.effects = r.handlings.flatMap Handling.effects ++ notices.map .notice
  /-- A failure is that of the call, and the unit that failed is the next one in the buffer. -/
  failed : ∀ e, r.failure = some e → r.round.step.result = .error e ∧
    ∃ front k n, r.handlings = front ++ [k] ∧
      r.round.session.policy.boundary r.round.after = .ok (.complete n) ∧
      k.unit = r.round.after.take n
  /-- Without one, the call found bytes that can be no unit, or it left no complete unit if it
  looked for units or if there was none before, and only the socket or the buffer can have
  failed. -/
  went : r.failure = none →
    (∃ cause, r.round.session.policy.boundary r.round.after = .error cause ∧
      r.round.step.result = .error (.protocol cause)) ∨
    ((r.round.Looks r.arrived ∨ r.round.session.policy.boundary r.round.before = .ok .incomplete →
        r.round.session.policy.boundary r.round.after = .ok .incomplete) ∧
      ∀ e, r.round.step.result = .error e → e.IsTransport)
  policy : r.round.step.session.policy = r.round.session.policy

end Report

/-! ### One call -/

variable {p : Policy} {app : App}

/-- Units that were taken, and how the call ended, told as handlings. -/
theorem handlings_of_ended {α : Type} {w t w' : Work} {units : List Bytes} {rest : Bytes}
    {caughtUp : Prop} {result : Except SessionError α}
    (haccepts : Inbox.Accepts (handleUnit p app) w units t)
    (hended : Inbox.Ended p (handleUnit p app) t rest caughtUp w' result) :
    ∃ ks failure, Chain p app w.handle ks w'.handle failure ∧
      w'.effects = w.effects ++ ks.flatMap Handling.effects ∧ takenUnits ks failure = units ∧
      (∀ e, failure = some e → result = .error e ∧
        ∃ front k n, ks = front ++ [k] ∧ p.boundary rest = .ok (.complete n) ∧
          k.unit = rest.take n) ∧
      (failure = none → (∃ cause, p.boundary rest = .error cause ∧
          result = .error (.protocol cause)) ∨
        ((caughtUp → p.boundary rest = .ok .incomplete) ∧
          ∀ e, result = .error e → e.IsTransport)) := by
  obtain ⟨ks, hunits, heffects, hchain⟩ := chain_of_accepts haccepts
  cases hended with
  | @refused n _ e hn hunit =>
    obtain ⟨effects, hmore, hhandles⟩ := handleUnit_spec p app t (rest.take n)
    rw [hunit] at hmore hhandles
    refine ⟨_, some e, hchain.stop_after hhandles, ?_, ?_, ?_, by simp⟩
    · rw [hmore, heffects]
      simp
    · simpa [takenUnits] using hunits
    · intro e' he
      obtain rfl : e = e' := Option.some.inj he
      exact ⟨rfl, ks, _, n, rfl, hn, rfl⟩
  | @violated cause hcause =>
    exact ⟨ks, none, hchain, heffects, hunits, by simp, fun _ => .inl ⟨cause, hcause, rfl⟩⟩
  | rested hrest hresult =>
    exact ⟨ks, none, hchain, heffects, hunits, by simp, fun _ => .inr ⟨hrest, hresult⟩⟩

/-- A call that took units up to `t` and then ended in `w`, with the result of the inbox. -/
structure Round.Drained {α : Type} (r : Round) (arrived : Bytes) (units : List Bytes) (t w : Work)
    (result : Except SessionError α) : Prop where
  content : r.session.socket.incoming.content = arrived ++ r.step.session.socket.incoming.content
  carved : Carved r.session.policy (r.before ++ arrived) units r.after
  accepts : Inbox.Accepts (handleUnit r.session.policy r.app) (.start r.session.handle) units t
  ended : Inbox.Ended r.session.policy (handleUnit r.session.policy r.app) t r.after
    (r.Looks arrived ∨ r.session.policy.boundary r.before = .ok .incomplete) w result
  session : ∃ s : Session, s.handle = w.handle ∧
    (r.step.session = s ∨ (r.kind = .heartbeat ∧ r.step.session = s.onWritable.session))
  effects : ∃ notices : List Notice, r.step.effects = w.effects ++ notices.map .notice
  error : ∀ e, result = .error e → r.step.result = .error e
  other : ∀ e, r.step.result = .error e → result = .error e ∨ e.IsTransport
  policy : r.step.session.policy = r.session.policy

theorem Round.Drained.exists_report {α : Type} {r : Round} {arrived : Bytes} {units : List Bytes}
    {t w : Work} {result : Except SessionError α} (h : r.Drained arrived units t w result) :
    ∃ report : Report, report.round = r ∧ report.Right := by
  obtain ⟨ks, failure, hchain, heffects, htaken, hfailed, hwent⟩ :=
    handlings_of_ended h.accepts h.ended
  obtain ⟨notices, hnotices⟩ := h.effects
  obtain ⟨s, hhandle, hsession⟩ := h.session
  refine ⟨⟨r, arrived, ks, failure⟩, rfl, ?_⟩
  constructor
  case arrived => exact h.content
  case carved => rw [Report.taken, htaken]; exact h.carved
  case chain => exact ⟨s, hhandle ▸ hchain, hsession⟩
  case told =>
    refine ⟨notices, ?_⟩
    rw [hnotices, heffects]
    rfl
  case failed =>
    intro e he
    obtain ⟨hresult, hnext⟩ := hfailed e he
    exact ⟨h.error e hresult, hnext⟩
  case went =>
    intro hnone
    rcases hwent hnone with ⟨cause, hcause, hresult⟩ | ⟨hrest, htransport⟩
    · exact .inl ⟨cause, hcause, h.error _ hresult⟩
    · exact .inr ⟨hrest, fun e he => (h.other e he).elim (htransport e) fun h => h⟩
  case policy => exact h.policy

/-- Reading, told without the cases of its result. -/
theorem onReadable_eq (app : App) (s : Session) :
    ∃ notices : List Notice, s.onReadable app =
      let call := s.inbox.receive s.policy (handleUnit s.policy app) s.socket.incoming
        (.start s.handle)
      ⟨{ s with
          handle := call.1.state.handle
          socket := { s.socket with incoming := call.2 }
          inbox := call.1.inbox },
        call.1.state.effects ++ notices.map .notice, call.1.result.map fun _ => ()⟩ := by
  cases hr : (s.inbox.receive s.policy (handleUnit s.policy app) s.socket.incoming
      (.start s.handle)).1.result with
  | ok n =>
    refine ⟨[.count .bytesRead n], ?_⟩
    simp only [onReadable, hr]
    rfl
  | error e =>
    refine ⟨[], ?_⟩
    simp only [onReadable, hr, List.map_nil, List.append_nil]
    rfl

theorem drained_readable (app : App) (s : Session) :
    ∃ arrived units t, ∃ (w : Work) (result : Except SessionError Nat),
      (⟨app, s, .readable⟩ : Round).Drained arrived units t w result := by
  obtain ⟨arrived, units, t, h⟩ := Inbox.receiveFrom_spec s.policy (handleUnit s.policy app)
    s.inbox s.socket.incoming (.start s.handle) 0
  obtain ⟨notices, heq⟩ := onReadable_eq app s
  have hstep : (⟨app, s, .readable⟩ : Round).step = _ := heq
  let call := s.inbox.receive s.policy (handleUnit s.policy app) s.socket.incoming (.start s.handle)
  refine ⟨arrived, units, t, call.1.state, call.1.result, ?_⟩
  constructor
  case content => rw [hstep]; exact h.content
  case carved => rw [Round.after, hstep]; exact h.carved
  case accepts => exact h.accepts
  case ended =>
    rw [Round.after, hstep]
    have hlooks : (⟨app, s, .readable⟩ : Round).Looks arrived ↔ arrived ≠ [] := by
      simp [Round.Looks]
    rw [hlooks]
    exact h.ended
  case session => rw [hstep]; exact ⟨_, rfl, .inl rfl⟩
  case effects => rw [hstep]; exact ⟨notices, rfl⟩
  case error => rw [hstep]; exact fun e he => congrArg (Except.map fun _ => ()) he
  case other => rw [hstep]; exact fun e he => .inl (eq_error_of_map he)
  case policy => rw [hstep]

/-- A session that was asked to close handles nothing any more. -/
theorem onHeartbeat_of_closeRequested (app : App) {s : Session}
    (hclose : s.handle.closeRequested = true) :
    ∃ notices : List Notice, s.onHeartbeat app =
      ⟨s.onWritable.session, notices.map .notice, .ok .closed⟩ := by
  unfold onHeartbeat
  rw [if_pos hclose]
  cases hsent : s.onWritable.result with
  | ok => exact ⟨_, by simp only [hsent, List.append_nil]; rfl⟩
  | error e =>
    refine ⟨(s.writer.flush s.id s.handle.outbox s.socket.outgoing).notices ++
      [.log (.finalFlushFailed s.id e)], ?_⟩
    simp only [hsent, List.map_append]
    rfl

theorem drained_of_closeRequested (app : App) {s : Session}
    (hclose : s.handle.closeRequested = true) :
    (⟨app, s, .heartbeat⟩ : Round).Drained [] [] (.start s.handle) (.start s.handle)
      (.ok () : Except SessionError Unit) := by
  obtain ⟨notices, heq⟩ := onHeartbeat_of_closeRequested app hclose
  have hstep : (⟨app, s, .heartbeat⟩ : Round).step =
      ⟨s.onWritable.session, notices.map .notice, .ok ()⟩ := by
    simp only [Round.step, heq]
    rfl
  constructor
  case content => rw [hstep]; rfl
  case carved =>
    rw [Round.after, hstep, List.append_nil]
    exact .nil _
  case accepts => exact .nil _
  case ended =>
    rw [Round.after, hstep]
    refine .rested (fun h => h.resolve_left ?_) (by simp)
    simp [Round.Looks, hclose]
  case session => rw [hstep]; exact ⟨s, rfl, .inr ⟨rfl, rfl⟩⟩
  case effects => rw [hstep]; exact ⟨notices, rfl⟩
  case error => simp
  case other => rw [hstep]; simp
  case policy => rw [hstep]; rfl

/-- Any other session handles the units in its buffer and then sends, unless a unit failed. -/
theorem drained_of_open (app : App) {s : Session} (hopen : s.handle.closeRequested = false) :
    ∃ units t, ∃ (w : Work) (result : Except SessionError Unit),
      (⟨app, s, .heartbeat⟩ : Round).Drained [] units t w result := by
  obtain ⟨units, t, hcarved, haccepts, hstopped⟩ :=
    Inbox.drain_spec s.policy (handleUnit s.policy app) s.inbox (.start s.handle)
  let pass := s.inbox.drain s.policy (handleUnit s.policy app) (.start s.handle)
  let driven : Session := { s with handle := pass.state.handle, inbox := pass.inbox }
  -- Nothing is sent after a unit that failed.
  have hfailed : ∀ e, pass.result = .error e →
      s.onHeartbeat app = ⟨driven, pass.state.effects, .error e⟩ := by
    intro e hresult
    have hredrive : (s.redrive app).result = .error e := hresult
    rw [onHeartbeat, if_neg (by simp [hopen])]
    simp only [hredrive]
    rfl
  have hpassed : pass.result = .ok () →
      s.onHeartbeat app = ⟨driven.onWritable.session,
        pass.state.effects ++ driven.onWritable.effects,
        driven.onWritable.result.map fun _ => .alive⟩ := by
    intro hresult
    have hredrive : (s.redrive app).result = .ok () := hresult
    rw [onHeartbeat, if_neg (by simp [hopen])]
    simp only [hredrive]
    rfl
  refine ⟨units, t, pass.state, pass.result, ?_⟩
  cases hresult : pass.result with
  | error e =>
    have hstep : (⟨app, s, .heartbeat⟩ : Round).step =
        ⟨driven, pass.state.effects, .error e⟩ := by
      simp only [Round.step, hfailed e hresult]
      rfl
    constructor
    case content => rw [hstep]; rfl
    case carved => rw [Round.after, hstep, List.append_nil]; exact hcarved
    case accepts => exact haccepts
    case ended => rw [Round.after, hstep, ← hresult]; exact hstopped.ended
    case session => rw [hstep]; exact ⟨driven, rfl, .inl rfl⟩
    case effects => rw [hstep]; exact ⟨[], (List.append_nil _).symm⟩
    case error => rw [hstep]; simp
    case other => rw [hstep]; simp
    case policy => rw [hstep]
  | ok =>
    have hstep : (⟨app, s, .heartbeat⟩ : Round).step =
        ⟨driven.onWritable.session, pass.state.effects ++ driven.onWritable.effects,
          driven.onWritable.result.map fun _ => ()⟩ := by
      simp only [Round.step, hpassed hresult]
      cases driven.onWritable.result <;> rfl
    constructor
    case content => rw [hstep]; rfl
    case carved => rw [Round.after, hstep, List.append_nil]; exact hcarved
    case accepts => exact haccepts
    case ended => rw [Round.after, hstep, ← hresult]; exact hstopped.ended
    case session => rw [hstep]; exact ⟨driven, rfl, .inr ⟨rfl, rfl⟩⟩
    case effects => rw [hstep]; exact ⟨_, rfl⟩
    case error => simp
    case other =>
      rw [hstep]
      exact fun e he => .inr (isTransport_of_onWritable (eq_error_of_map he))
    case policy => rw [hstep]; rfl

/-- **What a call comes to.** -/
theorem exists_report (r : Round) : ∃ report : Report, report.round = r ∧ report.Right := by
  obtain ⟨app, s, kind⟩ := r
  cases kind with
  | readable =>
    obtain ⟨arrived, units, t, w, result, h⟩ := drained_readable app s
    exact h.exists_report
  | heartbeat =>
    cases hclose : s.handle.closeRequested with
    | true => exact (drained_of_closeRequested app hclose).exists_report
    | false =>
      obtain ⟨units, t, w, result, h⟩ := drained_of_open app hclose
      exact h.exists_report

/-! ### All calls -/

/-- Calls on a session one after the other.  Between two of them anything may happen to its handle,
its socket and its writer. -/
inductive Rounds : Session → List Round → Session → Prop
  | nil (s : Session) : Rounds s [] s
  | cons {s t u : Session} {app : App} {kind : Call} {rounds : List Round} :
      t.inbox = s.inbox → t.policy = s.policy →
      Rounds (⟨app, t, kind⟩ : Round).step.session rounds u → Rounds s (⟨app, t, kind⟩ :: rounds) u

/-- Calls leave the policy, and the units that they took are cut off the front of all bytes.  The
induction is on the calls. -/
theorem Rounds.exists_reports {s u : Session} {rounds : List Round} (h : Rounds s rounds u) :
    ∃ reports : List Report, reports.map Report.round = rounds ∧ (∀ r ∈ reports, r.Right) ∧
      Carved s.policy (s.inbox.buffer.contents ++ reports.flatMap Report.arrived)
        (reports.flatMap Report.taken) u.inbox.buffer.contents ∧ u.policy = s.policy := by
  induction h with
  | nil s =>
    refine ⟨[], rfl, by simp, ?_, rfl⟩
    simpa using Carved.nil s.inbox.buffer.contents
  | @cons s t u app kind rounds hinbox hpolicy _ ih =>
    obtain ⟨r, hround, hr⟩ := exists_report ⟨app, t, kind⟩
    obtain ⟨reports, hrounds, hall, hcarved, hsame⟩ := ih
    have hleft := hr.policy
    have hfirst := hr.carved
    rw [hround] at hleft hfirst
    rw [Round.after] at hfirst
    refine ⟨r :: reports, by rw [List.map_cons, hround, hrounds], ?_, ?_,
      (hsame.trans hleft).trans hpolicy⟩
    · intro r' hr'
      rcases List.mem_cons.1 hr' with rfl | hr'
      · exact hr
      · exact hall r' hr'
    · rw [List.flatMap_cons, List.flatMap_cons, ← List.append_assoc]
      rw [hleft, hpolicy] at hcarved
      rw [Round.before, hinbox, hpolicy] at hfirst
      exact (hfirst.append _).trans hcarved

/-- Where nothing but the socket or the buffer ever failed, no complete unit is left. -/
theorem Rounds.caught_up {s u : Session} {rounds : List Round} (h : Rounds s rounds u)
    (hs : s.policy.boundary s.inbox.buffer.contents = .ok .incomplete)
    (hclean : ∀ r ∈ rounds, ∀ e, r.step.result = .error e → e.IsTransport) :
    u.policy.boundary u.inbox.buffer.contents = .ok .incomplete := by
  induction h with
  | nil s => exact hs
  | @cons s t u app kind rounds hinbox hpolicy _ ih =>
    obtain ⟨r, hround, hr⟩ := exists_report ⟨app, t, kind⟩
    have hresult := hclean ⟨app, t, kind⟩ List.mem_cons_self
    rw [← hround] at hresult
    refine ih ?_ fun r hr => hclean r (List.mem_cons_of_mem _ hr)
    -- A unit that failed would have made the call fail for another reason.
    have hnone : r.failure = none := by
      rw [Option.eq_none_iff_forall_ne_some]
      intro e he
      obtain ⟨h', hchain, -⟩ := hr.chain
      rw [he] at hchain
      exact hchain.not_isTransport (hresult e (hr.failed e he).1)
    have hpolicy' := hr.policy
    rw [← hround, hpolicy']
    rcases hr.went hnone with ⟨cause, -, herror⟩ | ⟨hrest, -⟩
    · exact absurd (hresult _ herror) (fun h => h)
    · refine hrest (.inr ?_)
      rw [Round.before, hround]
      simpa only [hinbox, hpolicy] using hs

theorem Report.Right.isControl_of_delivered {r : Report} (hr : r.Right) {id : ConnectionId}
    {m : Message} {panicked : Bool} (hm : .delivered id m panicked ∈ r.round.step.effects) :
    m.isControl = false := by
  obtain ⟨h, hchain, -⟩ := hr.chain
  obtain ⟨notices, htold⟩ := hr.told
  rw [htold] at hm
  rcases List.mem_append.1 hm with hunits | hnotice
  · exact hchain.isControl_of_delivered hunits
  · simp at hnotice

/-- **What all calls come to.**  Whatever happens between the calls on a session, each call handles
units one after the other and stops at the first that fails.  The units that did not fail are the
first of all bytes that arrived, in order and each once, and the bytes behind them are in the
buffer; a unit that failed is therefore the first that a later call finds.  While nothing but the
socket or the buffer has failed, no complete unit is left.  Only data is handed to the
application. -/
theorem rounds_handle_units {id : ConnectionId} {peer : SocketAddress} {socket : Socket}
    {settings : SessionSettings} {rounds : List Round} {s : Session}
    (h : Rounds (.new id peer socket settings) rounds s) :
    ∃ reports : List Report, reports.map Report.round = rounds ∧ (∀ r ∈ reports, r.Right) ∧
      Carved settings.policy (reports.flatMap Report.arrived) (reports.flatMap Report.taken)
        s.inbox.buffer.contents ∧
      ((∀ r ∈ rounds, ∀ e, r.step.result = .error e → e.IsTransport) →
        settings.policy.boundary s.inbox.buffer.contents = .ok .incomplete) ∧
      ∀ r ∈ rounds, ∀ id m panicked,
        .delivered id m panicked ∈ r.step.effects → m.isControl = false := by
  obtain ⟨reports, hrounds, hright, hcarved, hpolicy⟩ := h.exists_reports
  have hempty : (Session.new id peer socket settings).inbox.buffer.contents = [] :=
    Buffer.contents_new ..
  refine ⟨reports, hrounds, hright, ?_, ?_, ?_⟩
  · rw [hempty] at hcarved
    exact hcarved
  · intro hclean
    have hstart : settings.policy.boundary [] = .ok .incomplete := rfl
    have hend := h.caught_up (by rw [hempty]; exact hstart) hclean
    rw [hpolicy] at hend
    exact hend
  · intro r hr id m panicked hm
    rw [← hrounds] at hr
    obtain ⟨report, hreport, rfl⟩ := List.mem_map.1 hr
    exact (hright report hreport).isControl_of_delivered hm

/-- An application that does nothing. -/
def quiet : App := fun h _ => ⟨h, [], none⟩

/-- A session that may have one packet pending; these bytes have arrived. -/
def narrow (bytes : Bytes) : Session :=
  .new ⟨7⟩ ⟨.v4 127 0 0 1, 4000, 0⟩ ⟨⟨[.bytes bytes], false⟩, .new [], false, none⟩
    ⟨1, 16, ⟨200, false, "X-Forwarded-For"⟩⟩

/-- The first byte of a ping arrives, and then the second with the beginning of a pong. -/
theorem rounds_handle_units_ping :
    let first : Round := ⟨quiet, narrow [0x89], .readable⟩
    let second : Round := ⟨quiet, { first.step.session with
      socket := ⟨⟨[.bytes [0x00, 0x8A]], false⟩, .new [], false, none⟩ }, .readable⟩
    ∃ reports : List Report, reports.map Report.round = [first, second] ∧
      reports.flatMap Report.arrived = [0x89, 0x00, 0x8A] ∧
      (reports.flatMap Report.taken).flatten = [0x89, 0x00] ∧
      second.step.session.handle.outbox.waiting.map Packet.bytes = [[0x8A, 0x00]] := by
  intro first second
  have hrounds : Rounds (narrow [0x89]) [first, second] second.step.session :=
    .cons rfl rfl (.cons rfl rfl (.nil _))
  obtain ⟨reports, hmap, hright, hcarved, -⟩ := rounds_handle_units hrounds
  obtain ⟨a, b, rfl, ha, hb⟩ : ∃ a b, reports = [a, b] ∧ a.round = first ∧ b.round = second := by
    obtain ⟨a, rest, rfl, ha, hrest⟩ := List.map_eq_cons_iff.1 hmap
    obtain ⟨b, rest, rfl, hb, hnil⟩ := List.map_eq_cons_iff.1 hrest
    obtain rfl := List.map_eq_nil_iff.1 hnil
    exact ⟨a, b, rfl, ha, hb⟩
  have harrived : ([a, b] : List Report).flatMap Report.arrived = [0x89, 0x00, 0x8A] := by
    have hfirst := (hright a (by simp)).arrived
    have hsecond := (hright b (by simp)).arrived
    have hread : first.step.session.socket.incoming.content = [] := by decide +kernel
    have hread' : second.step.session.socket.incoming.content = [] := by decide +kernel
    rw [ha, hread, List.append_nil] at hfirst
    rw [hb, hread', List.append_nil] at hsecond
    simp [← hfirst, ← hsecond, first, second, narrow, Session.new, Source.content, Arrival.content]
  have hrest : second.step.session.inbox.buffer.contents = [0x8A] := by decide +kernel
  have htaken : ([a, b].flatMap Report.taken).flatten ++ [0x8A] = [0x89, 0x00] ++ [0x8A] := by
    have hwhole := hcarved.append_eq
    rwa [harrived, hrest] at hwhole
  exact ⟨_, hmap, harrived, List.append_cancel_right htaken, by decide +kernel⟩

/-- A text in two frames with two pings between them. -/
def twoPings : Bytes := [0x01, 0x00, 0x89, 0x00, 0x89, 0x00, 0x80, 0x00]

/-- A request with a blank entry before an address. -/
def blankEntry : Bytes :=
  Text.utf8 "GET / HTTP/1.1\r\nX-Forwarded-For: , 10.0.0.1\r\nSec-WebSocket-Key: x\r\n\r\n"

/-- The pong for the second ping is refused, and the call fails.  When the first pong was sent, the
heartbeat handles the text again: the first pong is queued once more.  And no address is remembered
where a blank entry comes first. -/
theorem text_handled_again :
    let failed := (narrow twoPings).onReadable quiet
    let sent := failed.session.onWritable
    let retried := sent.session.onHeartbeat quiet
    let answered := (narrow blankEntry).onReadable quiet
    (narrow twoPings).policy.boundary twoPings = .ok (.complete twoPings.length) ∧
      failed.result = .error (.outboxFull 1) ∧
      failed.session.handle.outbox.waiting.map Packet.bytes = [[0x8A, 0x00]] ∧
      sent.session.socket.outgoing.taken = [0x8A, 0x00] ∧
      retried.result = .error (.outboxFull 1) ∧
      retried.session.handle.outbox.waiting.map Packet.bytes = [[0x8A, 0x00]] ∧
      (Http.Request.parse blankEntry).map (fun r => r.header? "X-Forwarded-For") =
        .ok (some ", 10.0.0.1") ∧
      answered.result = .ok () ∧ answered.session.handle.forwarded = none := by
  intro failed sent retried answered
  have hsent : failed.session.writer.flush failed.session.id failed.session.handle.outbox
      failed.session.socket.outgoing = ⟨.idle, ⟨[], 0, 1, 2, 1⟩, ⟨[], #[0x8A, 0x00]⟩,
        Writer.written ⟨7⟩ ⟨[0x8A, 0x00], 1, .pong⟩, .ok 2⟩ := by
    have hwriter : failed.session.writer = .idle := by decide +kernel
    have houtbox : failed.session.handle.outbox = ⟨[⟨[0x8A, 0x00], 1, .pong⟩], 1, 1, 2, 1⟩ := by
      decide +kernel
    have hsink : failed.session.socket.outgoing = .new [] := by decide +kernel
    have hid : failed.session.id = ⟨7⟩ := by decide +kernel
    rw [hwriter, houtbox, hsink, hid]
    cbv
  refine ⟨by decide +kernel, by decide +kernel, by decide +kernel, ?_, ?_, ?_, by decide +kernel,
    by decide +kernel, by decide +kernel⟩
  all_goals
    simp only [retried, sent, onWritable]
    rw [hsent]
    decide +kernel

end Session
end WebSocket
