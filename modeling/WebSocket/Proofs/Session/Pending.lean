import Mathlib.Logic.Relation
import WebSocket.Proofs.Session.Renaming
import WebSocket.Proofs.Session.Sending

/-!
# How much of a session is pending

The queue of a session counts the packets that wait and the one that is being written.  Others may
be in the middle of adding a packet that they have counted already.  Whatever is done through the
handle, by whomever, and whatever the session does, the count stays right beside these.

What a session does is told to the operators, but not that sessions come and go: this the loop
counts.

## Main definitions

* `Writer.CountsBeside`, `Writer.Counts` — the count of a queue is right.
* `Handle.Use`, `Handle.Uses` — what is done through a handle.
* `Counter.isCensus`, `Effect.Quiet` — the counters of sessions that come and go, and effects that
  leave them alone.
* `App.Proper` — an application that only uses its handles, and leaves those counters alone.

## Main results

* `Writer.counts_flush`, `Writer.pending_abort` — flushing keeps the count right, and aborting takes
  everything off it that is in the queue.
* `Session.modest_onReadable`, `Session.modest_onWritable`, `Session.modest_updateInterest`,
  `Session.modest_redrive`, `Session.modest_onHeartbeat` — **a session at work keeps its number and
  its count, and leaves the counters of sessions alone.**
-/

namespace WebSocket

/-! ### The count of a queue -/

namespace Writer

/-- The queue counts the packets that wait and the one that is being written, beside `k` that are
about to be added. -/
def CountsBeside (k : Nat) (w : Writer) (o : Outbox) : Prop :=
  o.pending = o.waiting.length + w.packets.length + k

/-- The queue counts the packets that wait and the one that is being written, and no others. -/
abbrev Counts (w : Writer) (o : Outbox) : Prop := w.CountsBeside 0 o

variable {k : Nat}

theorem counts_new (capacity : Nat) : idle.Counts (.new capacity) := rfl

/-- A packet that was added is counted. -/
theorem CountsBeside.push {w : Writer} {o o' : Outbox} {bytes : Bytes} {kind : MessageKind}
    {seq : Nat} (h : w.CountsBeside k o) (hpush : o.push bytes kind = .ok (seq, o')) :
    w.CountsBeside k o' := by
  have hpending : o'.pending = o.pending + 1 := by
    unfold Outbox.push at hpush
    split at hpush
    · obtain ⟨-, rfl⟩ : _ = seq ∧ _ = o' := by simpa using hpush
      rfl
    · simp at hpush
  have hlength : o'.waiting.length = o.waiting.length + 1 := by
    rw [Outbox.waiting_push hpush, List.length_append]
    rfl
  unfold CountsBeside at h ⊢
  omega

/-- Writing packets one after the other, each of which is counted until it is written or given up.
The induction is on those that wait. -/
theorem counts_flushFrom {id : ConnectionId} {o : Outbox} {sink : Sink} {p : Packet}
    {offset total : Nat} {waiting : List Packet} (h : o.pending = waiting.length + 1 + k) :
    (flushFrom id o sink p offset total waiting).writer.CountsBeside k
      (flushFrom id o sink p offset total waiting).outbox := by
  have hdone : ∀ left : List Packet, left.length + 1 = waiting.length + 1 →
      idle.CountsBeside k (o.complete.keep left) := by
    intro left hleft
    show o.pending - 1 = (o.complete.keep left).waiting.length + 0 + k
    rw [Outbox.waiting_keep]
    omega
  fun_induction flushFrom id o sink p offset total waiting with
  | case1 waiting o sink p offset total reached t hwrite =>
    show o.pending = (o.keep waiting).waiting.length + 1 + k
    rw [Outbox.waiting_keep]
    exact h
  | case2 waiting o sink p offset total e t hwrite => exact hdone waiting rfl
  | case3 o sink p offset total t hwrite => exact hdone [] rfl
  | case4 o sink p offset total t hwrite total' next waiting pass ih =>
    have hnext : o.complete.pending = waiting.length + 1 + k := by
      show o.pending - 1 = waiting.length + 1 + k
      rw [h, List.length_cons]
      omega
    refine ih hnext fun left hleft => ?_
    show o.complete.pending - 1 = (o.complete.complete.keep left).waiting.length + 0 + k
    rw [Outbox.waiting_keep]
    omega

/-- Flushing keeps the count right, whether it fails or not. -/
theorem counts_flush {id : ConnectionId} {w : Writer} {o : Outbox} {sink : Sink}
    (h : w.CountsBeside k o) :
    (w.flush id o sink).writer.CountsBeside k (w.flush id o sink).outbox := by
  obtain ⟨inFlight⟩ := w
  cases inFlight with
  | some inFlight => exact counts_flushFrom h
  | none =>
    unfold flush
    cases hwaiting : o.waiting with
    | nil => exact h
    | cons p waiting =>
      have hcount : o.pending = waiting.length + 1 + k := by
        have hlength := congrArg List.length hwaiting
        rw [List.length_cons] at hlength
        rw [← hlength]
        exact h
      exact counts_flushFrom hcount

/-- After everything was given up, no more is pending than what is about to be added. -/
theorem pending_abort {id : ConnectionId} {w : Writer} {o : Outbox} {sink : Sink}
    (h : w.CountsBeside k o) : (w.abort id o sink).outbox.pending = k := by
  have hlength : o.waiting.length = o.latest.length := List.length_reverse
  obtain ⟨inFlight⟩ := w
  cases inFlight with
  | some inFlight =>
    have hcount : o.pending = o.waiting.length + 1 + k := h
    show o.pending - o.latest.length - 1 = k
    omega
  | none =>
    have hcount : o.pending = o.waiting.length + k := h
    show o.pending - o.latest.length = k
    omega

end Writer

/-! ### The counters of sessions -/

/-- The counters that tell how sessions come and go. -/
def Counter.isCensus : Counter → Bool
  | .sessionsOpened | .sessionsClosed _ | .protocolErrors => true
  | _ => false

namespace Effect

/-- The counters of sessions do not move. -/
structure Quiet (effects : List Effect) : Prop where
  total (c : Counter) (hc : c.isCensus) : Notice.total c (notices effects) = 0

@[simp] theorem notices_append (effects more : List Effect) :
    notices (effects ++ more) = notices effects ++ notices more :=
  List.filterMap_append

@[simp] theorem notices_notice (told : List Notice) : notices (told.map .notice) = told := by
  unfold notices
  rw [List.filterMap_map]
  exact List.filterMap_some

theorem quiet_nil : Quiet [] := ⟨fun _ _ => rfl⟩

theorem Quiet.append {effects more : List Effect} (h : Quiet effects) (hmore : Quiet more) :
    Quiet (effects ++ more) := by
  refine ⟨fun c hc => ?_⟩
  rw [notices_append, Notice.total_append, h.total c hc, hmore.total c hc]

theorem quiet_delivered (id : ConnectionId) (m : Message) (panicked : Bool) :
    Quiet [.delivered id m panicked] := ⟨fun _ _ => rfl⟩

/-- Events are not counted. -/
theorem quiet_log (e : Event) : Quiet [.notice (.log e)] := ⟨fun _ _ => rfl⟩

/-- A counter of another kind moves. -/
theorem quiet_count {c : Counter} (hc : c.isCensus = false) (n : Nat) :
    Quiet [.notice (.count c n)] := by
  refine ⟨fun d hd => ?_⟩
  have hne : c ≠ d := by
    rintro rfl
    rw [hc] at hd
    exact Bool.false_ne_true hd
  show (if c = d then n else 0) + 0 = 0
  rw [if_neg hne]

end Effect

namespace Writer

variable (id : ConnectionId)

theorem quiet_written (p : Packet) : Effect.Quiet ((written id p).map .notice) :=
  ((Effect.quiet_log _).append (Effect.quiet_count rfl 1)).append (Effect.quiet_count rfl _)

theorem quiet_failed (p : Packet) : Effect.Quiet ((failed id p).map .notice) :=
  (Effect.quiet_log _).append (Effect.quiet_count rfl 1)

theorem quiet_flushFrom (o : Outbox) (sink : Sink) (p : Packet) (offset total : Nat)
    (waiting : List Packet) :
    Effect.Quiet ((flushFrom id o sink p offset total waiting).notices.map .notice) := by
  fun_induction flushFrom id o sink p offset total waiting with
  | case1 => exact Effect.quiet_nil
  | case2 waiting o sink p => exact quiet_failed id p
  | case3 o sink p => exact quiet_written id p
  | case4 o sink p offset total t hwrite total' next waiting pass ih =>
    rw [List.map_append]
    exact (quiet_written id p).append ih

theorem quiet_flush (w : Writer) (o : Outbox) (sink : Sink) :
    Effect.Quiet ((w.flush id o sink).notices.map .notice) := by
  unfold flush
  split
  · exact quiet_flushFrom ..
  · exact quiet_flushFrom ..
  · exact Effect.quiet_nil

end Writer

/-! ### What is done through a handle -/

namespace Handle

/-- What anyone may do through a handle. -/
inductive Use
  | queue (m : Message)
  | requestClose
  | bindForwarded (address : String)
  | keep (name : String) (value : Value)
  | forget (name : String)
  deriving DecidableEq

/-- The handle after a use.  A message that is refused changes nothing. -/
def Use.apply : Use → Handle → Handle
  | queue m, h =>
    match h.queue m with
    | .ok h' => h'
    | .error _ => h
  | requestClose, h => h.requestClose.1
  | bindForwarded address, h => (h.bindForwarded address).1
  | keep name value, h => h.keep name value
  | forget name, h => h.forget name

/-- Everything that was done through a handle, one thing after the other. -/
def Uses : Handle → Handle → Prop := Relation.ReflTransGen fun h h' => ∃ u : Use, u.apply h = h'

theorem uses_queue {h h' : Handle} {m : Message} (hq : h.queue m = .ok h') : h.Uses h' := by
  refine .single ⟨.queue m, ?_⟩
  simp only [Use.apply, hq]

@[simp] theorem Use.id_apply (u : Use) (h : Handle) : (u.apply h).id = h.id := by
  cases u with
  | queue m =>
    simp only [Use.apply]
    split
    · next hq => exact id_of_queue hq
    · rfl
  | requestClose | bindForwarded | keep | forget => rfl

/-- No use of a handle spoils the count of its queue. -/
theorem Use.counts_apply {k : Nat} {w : Writer} {h : Handle} (hc : w.CountsBeside k h.outbox)
    (u : Use) : w.CountsBeside k (u.apply h).outbox := by
  cases u with
  | queue m =>
    simp only [Use.apply]
    split
    · next h' hq =>
      unfold Handle.queue at hq
      split at hq
      · simp at hq
      · cases hpush : h.outbox.push m.encode m.kind with
        | error e => simp [hpush, Except.map] at hq
        | ok r =>
          obtain rfl : { h with outbox := r.2 } = h' := by simpa [hpush, Except.map] using hq
          exact hc.push hpush
    · exact hc
  | requestClose | bindForwarded | keep | forget => exact hc

theorem Uses.id {h h' : Handle} (huses : h.Uses h') : h'.id = h.id := by
  induction huses with
  | refl => rfl
  | tail _ hlast ih =>
    obtain ⟨u, rfl⟩ := hlast
    rw [Use.id_apply, ih]

theorem Uses.counts {k : Nat} {w : Writer} {h h' : Handle} (huses : h.Uses h')
    (hc : w.CountsBeside k h.outbox) : w.CountsBeside k h'.outbox := by
  induction huses with
  | refl => exact hc
  | tail _ hlast ih =>
    obtain ⟨u, rfl⟩ := hlast
    exact u.counts_apply ih

end Handle

/-! ### Applications -/

/-- An application that changes a session only through its handle, and does not move the counters of
sessions. -/
structure App.Proper (app : App) : Prop where
  uses (h : Handle) (m : Message) : h.Uses (app h m).handle
  quiet (h : Handle) (m : Message) : Effect.Quiet ((app h m).notices.map .notice)

theorem App.Proper.keeps {app : App} (h : app.Proper) : app.Keeps :=
  fun handle m => (h.uses handle m).id

namespace Session

/-! ### One unit -/

/-- Work that began with a handle, which was only used since, and told nothing of sessions that come
and go. -/
structure Work.Modest (h : Handle) (w : Work) : Prop where
  uses : h.Uses w.handle
  quiet : Effect.Quiet w.effects

variable {app : App} {h : Handle}

theorem Work.modest_start (h : Handle) : (Work.start h).Modest h := ⟨.refl, Effect.quiet_nil⟩

theorem Work.Modest.tell {w : Work} (hw : w.Modest h) {told : List Notice}
    (htold : Effect.Quiet (told.map .notice)) : (w.tell told).Modest h := by
  refine ⟨hw.uses, ?_⟩
  rw [Work.effects_tell]
  exact hw.quiet.append htold

/-- A property that a handler keeps, told as two handlers that go side by side. -/
theorem simulates_of_keeps {σ β ε : Type} {P : σ → Prop} {f : σ → β → σ × Option ε}
    (hf : ∀ s b, P s → P (f s b).1) : Simulates (fun s t => s = t ∧ P s) f f := by
  rintro s _ b ⟨rfl, hs⟩
  exact ⟨⟨rfl, hf s b hs⟩, rfl⟩

theorem Work.Modest.act {w : Work} (hw : w.Modest h) (d : Duty) : (w.act d).1.Modest h := by
  cases d with
  | bindForwarded address =>
    have hbound : h.Uses (w.handle.bindForwarded address).1 :=
      hw.uses.tail ⟨.bindForwarded address, rfl⟩
    refine ⟨hbound, ?_⟩
    simp only [Work.act, Work.effects_tell]
    exact hw.quiet.append (Effect.quiet_log _)
  | reply m =>
    simp only [Work.act]
    cases hq : w.handle.queue m with
    | ok handle => exact ⟨hw.uses.trans (Handle.uses_queue hq), hw.quiet⟩
    | error e => exact hw

theorem Work.Modest.handOver (hp : app.Proper) {w : Work} (hw : w.Modest h) (m : Message) :
    (w.handOver app m).1.Modest h := by
  have hdelivered : (Work.mk (app w.handle m).handle
      (.delivered w.handle.id m (app w.handle m).panic.isSome :: w.recent)).Modest h := by
    refine ⟨hw.uses.trans (hp.uses w.handle m), ?_⟩
    simp only [Work.effects, List.reverse_cons]
    exact hw.quiet.append (Effect.quiet_delivered ..)
  exact hdelivered.tell (hp.quiet w.handle m)

theorem Work.Modest.handleUnit (hp : app.Proper) (p : Policy) {w : Work} (hw : w.Modest h)
    (unit : Bytes) : (handleUnit p app w unit).1.Modest h := by
  unfold Session.handleUnit
  cases p.decode unit with
  | error e => exact hw
  | ok m =>
    have hquiet : Effect.Quiet (List.map .notice [.count (.messagesReceived m.kind) 1,
        .log (.messageReceived w.handle.id m.summary)]) :=
      (Effect.quiet_count rfl 1).append (Effect.quiet_log _)
    have htold := hw.tell hquiet
    have hperformed := (perform_simulates (simulates_of_keeps fun _ d hw => hw.act d) (p.duties m)
      ⟨rfl, htold⟩).1.2
    simp only
    generalize perform Work.act _ (p.duties m) = r at hperformed ⊢
    obtain ⟨w', err⟩ := r
    cases err with
    | some e => exact hperformed
    | none =>
      cases m.isControl with
      | true => exact hperformed
      | false => exact Work.Modest.handOver hp hperformed m

theorem simulates_handleUnit (hp : app.Proper) (p : Policy) (h : Handle) :
    Simulates (fun w v => w = v ∧ Work.Modest h w) (handleUnit p app) (handleUnit p app) :=
  simulates_of_keeps fun _ unit hw => hw.handleUnit hp p unit

/-! ### The work of a session -/

/-- The queue of the session counts right, beside `k` packets that are about to be added. -/
def Counted (k : Nat) (s : Session) : Prop := s.writer.CountsBeside k s.handle.outbox

theorem counted_new (id : ConnectionId) (peer : SocketAddress) (socket : Socket)
    (settings : SessionSettings) : (new id peer socket settings).Counted 0 :=
  Writer.counts_new _

/-- A step after which a session has its number and a right count still, and that told nothing of
sessions that come and go. -/
structure Step.Modest {α : Type} (st : Step α) (id : ConnectionId) (k : Nat) : Prop where
  id : st.session.id = id
  counted : st.session.Counted k
  quiet : Effect.Quiet st.effects

variable {s : Session} {k : Nat}

theorem Step.Modest.andThen {α β : Type} {st : Step α} {next : α → Session → Step β}
    {id : ConnectionId} (hst : st.Modest id k)
    (hnext : ∀ a t, t.id = id → t.Counted k → (next a t).Modest id k) :
    (st.andThen next).Modest id k := by
  unfold Step.andThen
  split
  · exact ⟨hst.id, hst.counted, hst.quiet⟩
  · next a ha =>
    have hafter := hnext a st.session hst.id hst.counted
    exact ⟨hafter.id, hafter.counted, hst.quiet.append hafter.quiet⟩

theorem modest_onReadable (hp : app.Proper) (hs : s.Counted k) :
    (s.onReadable app).Modest s.id k := by
  have hreceived := (Inbox.receiveFrom_simulates (p := s.policy)
    (simulates_handleUnit hp s.policy s.handle) s.inbox
    s.socket.incoming ⟨rfl, Work.modest_start s.handle⟩ 0).1.state.2
  have hid := hreceived.uses.id
  have hcounted := hreceived.uses.counts hs
  unfold onReadable Inbox.receive
  generalize Inbox.receiveFrom s.policy (Session.handleUnit s.policy app) s.inbox s.socket.incoming
    (.start s.handle) 0 = call at hreceived hid hcounted ⊢
  obtain ⟨⟨inbox, w, result⟩, incoming⟩ := call
  cases result with
  | ok n => exact ⟨hid, hcounted, hreceived.quiet.append (Effect.quiet_count rfl n)⟩
  | error e => exact ⟨hid, hcounted, hreceived.quiet⟩

theorem modest_onWritable (hs : s.Counted k) : s.onWritable.Modest s.id k :=
  ⟨rfl, Writer.counts_flush hs, Writer.quiet_flush ..⟩

theorem modest_updateInterest (hs : s.Counted k) : s.updateInterest.Modest s.id k := by
  obtain ⟨interest, result, heq⟩ := exists_updateInterest_eq s
  rw [heq]
  exact ⟨rfl, hs, Effect.quiet_nil⟩

theorem modest_redrive (hp : app.Proper) (hs : s.Counted k) : (s.redrive app).Modest s.id k := by
  have hdrained := (Inbox.drain_simulates (p := s.policy)
    (simulates_handleUnit hp s.policy s.handle) s.inbox
    ⟨rfl, Work.modest_start s.handle⟩).state.2
  exact ⟨hdrained.uses.id, hdrained.uses.counts hs, hdrained.quiet⟩

theorem modest_onHeartbeat (hp : app.Proper) (hs : s.Counted k) :
    (s.onHeartbeat app).Modest s.id k := by
  cases hclose : s.handle.closeRequested with
  | true =>
    have hsent := modest_onWritable hs
    unfold onHeartbeat
    rw [if_pos hclose]
    refine ⟨hsent.id, hsent.counted, hsent.quiet.append ?_⟩
    split
    · exact Effect.quiet_nil
    · exact Effect.quiet_log _
  | false =>
    rw [onHeartbeat_of_open app hclose]
    refine (modest_redrive hp hs).andThen fun _ t ht hcounted => ?_
    have hsent := modest_onWritable hcounted
    exact ⟨ht ▸ hsent.id, hsent.counted, hsent.quiet⟩

end Session

end WebSocket
