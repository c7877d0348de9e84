import WebSocket.Proofs.Hub.View
import WebSocket.Proofs.Session.Calls
import WebSocket.Proofs.Session.Pending
import WebSocket.Proofs.Session.Upgrade

/-!
# Replies and the end of a session

A session that is served reads all that has arrived, queues the replies that it owes, and then sends
what is pending.  If reading fails, nothing is sent any more: the session is closed, and what is
pending is discarded.  Reading always fails where the other side has ended.  So a reply gets out if
the end was not seen together with what earned it; but where both are found in one visit, the reply
is lost, although the socket would have taken it.  A session that was asked to close sends what is
pending first.

## Main definitions

* `Sink.Willing` — a socket that accepts every write.
* `Source.Ending` — a socket on which everything is followed by the end.
* `Session.unsent` — what is still to be sent.
* `Policy.replies` — the replies that a unit earns.
* `Handle.Queued` — which packets were queued, and which replies are among them.

## Main results

* `Session.onWritable_of_willing` — a willing socket is given everything that is pending.
* `Session.Chain.exists_queued` — handling units queues their replies, in order.
* `Inbox.exists_error_of_ending` — reading fails where the other side has ended.
* `Hub.replies_of_ready` — **which replies get out before a session is removed.**
-/

namespace WebSocket

/-! ### Sockets that accept every write -/

/-- Every write is accepted, in part at least, or interrupted. -/
def Sink.Willing (s : Sink) : Prop :=
  ∀ a ∈ s.acceptances, a = .interrupted ∨ ∃ n, a = .bytes (n + 1)

/-- A write of something is interrupted, or a part of it is accepted. -/
theorem Sink.Willing.write {s t : Sink} {a : Acceptance} (h : s.Willing) {chunk : Bytes}
    (hne : chunk ≠ []) (hwrite : s.write chunk = (a, t)) :
    t.Willing ∧ (a = .interrupted ∨ ∃ n, a = .bytes (n + 1)) := by
  obtain ⟨acceptances, accepted⟩ := s
  obtain ⟨b, chunk, rfl⟩ := List.exists_cons_of_ne_nil hne
  cases acceptances with
  | nil =>
    obtain ⟨rfl, rfl⟩ := Prod.mk.inj hwrite
    exact ⟨h, .inr ⟨chunk.length, rfl⟩⟩
  | cons c later =>
    obtain ⟨hfirst, hlater⟩ := List.forall_mem_cons.1 h
    rcases hfirst with rfl | ⟨n, rfl⟩
    · obtain ⟨rfl, rfl⟩ := Prod.mk.inj hwrite
      exact ⟨hlater, .inl rfl⟩
    · obtain ⟨rfl, rfl⟩ := Prod.mk.inj hwrite
      exact ⟨hlater, .inr ⟨_, rfl⟩⟩

/-- A packet is written to its end.  The induction follows the writes. -/
theorem Packet.writeFrom_of_willing (p : Packet) (offset : Nat) {sink : Sink} (h : sink.Willing) :
    ∃ t : Sink, p.writeFrom offset sink = (.done, t) ∧ t.Willing ∧
      t.taken = sink.taken ++ p.bytes.drop offset := by
  fun_induction Packet.writeFrom p offset sink with
  | case1 offset sink hlt t hwrite =>
    have hne : p.bytes.drop offset ≠ [] := by simpa using hlt
    simpa using (h.write hne hwrite).2
  | case2 offset sink hlt n t hwrite ih =>
    have hne : p.bytes.drop offset ≠ [] := by simpa using hlt
    obtain ⟨u, hdone, hu, htaken⟩ := ih (h.write hne hwrite).1
    refine ⟨u, hdone, hu, ?_⟩
    rw [htaken, Sink.taken_write hwrite, List.append_assoc, ← List.drop_drop,
      List.take_append_drop]
  | case3 offset sink hlt t hwrite =>
    have hne : p.bytes.drop offset ≠ [] := by simpa using hlt
    simpa using (h.write hne hwrite).2
  | case4 offset sink hlt t hwrite ih =>
    have hne : p.bytes.drop offset ≠ [] := by simpa using hlt
    obtain ⟨u, hdone, hu, htaken⟩ := ih (h.write hne hwrite).1
    exact ⟨u, hdone, hu, by rw [htaken, Sink.taken_write_of_ne hwrite (by simp)]⟩
  | case5 offset sink hlt detail t hwrite =>
    have hne : p.bytes.drop offset ≠ [] := by simpa using hlt
    simpa using (h.write hne hwrite).2
  | case6 offset sink hge =>
    refine ⟨sink, rfl, h, ?_⟩
    rw [List.drop_eq_nil_of_le (Nat.le_of_not_lt hge), List.append_nil]

/-- What a pass of the writer comes to that has written all of `given` to a sink, and has nothing
left to write. -/
structure Writer.Pass.Empties (pass : Writer.Pass (Except SessionError Nat)) (sink : Sink)
    (given : Bytes) : Prop where
  result : ∃ n, pass.result = .ok n
  writer : pass.writer = .idle
  waiting : pass.outbox.waiting = []
  taken : pass.sink.taken = sink.taken ++ given

/-- Packets are written one after the other.  The induction is on those that wait. -/
theorem Writer.flushFrom_of_willing (id : ConnectionId) (o : Outbox) {sink : Sink} (p : Packet)
    (offset total : Nat) (waiting : List Packet) (h : sink.Willing) :
    (flushFrom id o sink p offset total waiting).Empties sink
      (p.bytes.drop offset ++ waiting.flatMap Packet.bytes) := by
  fun_induction flushFrom id o sink p offset total waiting with
  | case1 waiting o sink p offset total reached t hwrite =>
    obtain ⟨u, hdone, -⟩ := p.writeFrom_of_willing offset h
    simp [hdone] at hwrite
  | case2 waiting o sink p offset total e t hwrite =>
    obtain ⟨u, hdone, -⟩ := p.writeFrom_of_willing offset h
    simp [hdone] at hwrite
  | case3 o sink p offset total t hwrite =>
    obtain ⟨u, hdone, -, htaken⟩ := p.writeFrom_of_willing offset h
    obtain rfl : u = t := (Prod.mk.inj (hdone.symm.trans hwrite)).2
    exact ⟨⟨_, rfl⟩, rfl, Outbox.waiting_keep .., by simpa using htaken⟩
  | case4 o sink p offset total t hwrite total' next waiting pass ih =>
    obtain ⟨u, hdone, hu, htaken⟩ := p.writeFrom_of_willing offset h
    obtain rfl : u = t := (Prod.mk.inj (hdone.symm.trans hwrite)).2
    have hrest := ih hu
    refine ⟨hrest.result, hrest.writer, hrest.waiting, hrest.taken.trans ?_⟩
    rw [htaken, List.drop_zero, List.flatMap_cons, List.append_assoc]

/-- A willing sink is given everything that is pending, in order. -/
theorem Writer.flush_of_willing (id : ConnectionId) (w : Writer) (o : Outbox) {sink : Sink}
    (h : sink.Willing) :
    (w.flush id o sink).Empties sink (w.rest ++ o.waiting.flatMap Packet.bytes) := by
  obtain ⟨inFlight⟩ := w
  cases inFlight with
  | some inFlight => exact flushFrom_of_willing id o inFlight.1 inFlight.2 0 o.waiting h
  | none =>
    unfold flush
    cases hwaiting : o.waiting with
    | nil => exact ⟨⟨0, rfl⟩, rfl, hwaiting, (List.append_nil _).symm⟩
    | cons p waiting => exact flushFrom_of_willing id o p 0 0 waiting h

namespace Session

/-- The bytes that are still to be sent. -/
def unsent (s : Session) : Bytes := s.writer.rest ++ s.handle.outbox.waiting.flatMap Packet.bytes

/-- **A willing socket is given everything that is pending**, in order. -/
theorem onWritable_of_willing {s : Session} (h : s.socket.outgoing.Willing) :
    s.onWritable.result = .ok () ∧ s.onWritable.session.unsent = [] ∧
      s.onWritable.session.socket.outgoing.taken = s.socket.outgoing.taken ++ s.unsent := by
  obtain ⟨⟨n, hn⟩, hwriter, hwaiting, htaken⟩ :=
    Writer.flush_of_willing s.id s.writer s.handle.outbox h
  refine ⟨?_, ?_, htaken⟩
  · simp only [onWritable, hn]
    rfl
  · simp only [onWritable, unsent, hwriter, hwaiting]
    rfl

end Session

/-! ### What handling queues -/

namespace Handle

/-- Packets were queued behind those that waited, and these bytes are among them, in order. -/
structure Queued (h h' : Handle) (replies : List (Bytes × MessageKind)) (queued : List Packet) :
    Prop where
  waiting : h'.outbox.waiting = h.outbox.waiting ++ queued
  replies : replies.Sublist (queued.map fun p => (p.bytes, p.kind))

variable {h h' h'' : Handle} {replies more : List (Bytes × MessageKind)}
  {queued later : List Packet}

theorem queued_nil (h : Handle) : h.Queued h [] [] := ⟨(List.append_nil _).symm, .slnil⟩

theorem Queued.trans (hq : h.Queued h' replies queued) (hlater : h'.Queued h'' more later) :
    h.Queued h'' (replies ++ more) (queued ++ later) where
  waiting := by rw [hlater.waiting, hq.waiting, List.append_assoc]
  replies := by
    rw [List.map_append]
    exact hq.replies.append hlater.replies

/-- A message that is queued comes behind what waited. -/
theorem exists_queued_of_queue {m : Message} (hq : h.queue m = .ok h') :
    ∃ queued, h.Queued h' [(m.encode, m.kind)] queued := by
  obtain ⟨⟨seq, hwaiting⟩, -⟩ := queue_eq_ok hq
  exact ⟨[⟨m.encode, seq, m.kind⟩], hwaiting, .refl _⟩

theorem Queues.exists_queued {ms : List Message} (hq : h.Queues ms h') :
    ∃ queued, h.Queued h' (ms.map fun m => (m.encode, m.kind)) queued := by
  induction hq with
  | nil h => exact ⟨[], queued_nil h⟩
  | cons hm _ ih =>
    obtain ⟨queued, hqueued⟩ := exists_queued_of_queue hm
    obtain ⟨later, hlater⟩ := ih
    exact ⟨_, hqueued.trans hlater⟩

/-- Whatever is done through a handle, what waits is not touched. -/
theorem Use.exists_queued (u : Use) (h : Handle) : ∃ queued, h.Queued (u.apply h) [] queued := by
  cases u with
  | queue m =>
    simp only [Use.apply]
    split
    · next hq =>
      obtain ⟨queued, hqueued⟩ := exists_queued_of_queue hq
      exact ⟨queued, hqueued.waiting, List.nil_sublist _⟩
    · exact ⟨[], queued_nil h⟩
  | requestClose | bindForwarded | keep | forget => exact ⟨[], (List.append_nil _).symm, .slnil⟩

theorem Uses.exists_queued (huses : h.Uses h') : ∃ queued, h.Queued h' [] queued := by
  induction huses with
  | refl => exact ⟨[], queued_nil h⟩
  | tail _ hlast ih =>
    obtain ⟨u, rfl⟩ := hlast
    obtain ⟨queued, hqueued⟩ := ih
    obtain ⟨later, hlater⟩ := u.exists_queued _
    exact ⟨_, hqueued.trans hlater⟩

end Handle

/-- The replies that a unit earns, as they are queued. -/
def Policy.replies (p : Policy) (unit : Bytes) : List (Bytes × MessageKind) :=
  match p.decode unit with
  | .ok m => m.owed.map fun m => (m.encode, m.kind)
  | .error _ => []

theorem Policy.replies_of_decode {p : Policy} {unit : Bytes} {m : Message}
    (h : p.decode unit = .ok m) : p.replies unit = m.owed.map fun m => (m.encode, m.kind) := by
  rw [replies, h]

namespace Session

variable {p : Policy} {app : App} {h h' : Handle}

/-- Answers are queued behind what waited, whether or not an address was remembered first. -/
theorem exists_queued_of_bound {m : Message} {ms : List Message} (hq : (bound p h m).Queues ms h') :
    ∃ queued, h.Queued h' (ms.map fun m => (m.encode, m.kind)) queued := by
  obtain ⟨queued, hwaiting, hreplies⟩ := hq.exists_queued
  rw [outbox_bound] at hwaiting
  exact ⟨queued, hwaiting, hreplies⟩

/-- Handling a unit queues its replies, and what the application queues comes behind them. -/
theorem Handles.exists_queued (hp : app.Proper) {unit : Bytes} {effects : List Effect}
    {err : Option SessionError} (hh : Handles p app h unit h' effects err) :
    ∃ queued, h.Queued h' (if err = none then p.replies unit else []) queued := by
  cases hh with
  | undecodable => exact ⟨[], h.queued_nil⟩
  | refused hd howed hq hrefused =>
    obtain ⟨queued, hqueued⟩ := exists_queued_of_bound hq
    exact ⟨queued, hqueued.waiting, List.nil_sublist _⟩
  | answered hd hc hq =>
    rw [if_pos rfl, Policy.replies_of_decode hd]
    exact exists_queued_of_bound hq
  | @delivered m h' hd hc hq =>
    obtain ⟨queued, hqueued⟩ := exists_queued_of_bound hq
    obtain ⟨later, hlater⟩ := (hp.uses h' m).exists_queued
    have hall := hqueued.trans hlater
    rw [List.append_nil, ← Policy.replies_of_decode hd] at hall
    split
    · exact ⟨_, hall⟩
    · exact ⟨_, hall.waiting, List.nil_sublist _⟩

/-- **Handling units queues the replies of all that did not fail**, in order.  The induction is on
the units. -/
theorem Chain.exists_queued (hp : app.Proper) {ks : List Handling} {err : Option SessionError}
    (hc : Chain p app h ks h' err) :
    ∃ queued, h.Queued h' ((takenUnits ks err).flatMap p.replies) queued := by
  induction hc with
  | nil h => exact ⟨[], h.queued_nil⟩
  | stop hh => exact hh.exists_queued hp
  | @next h h' h'' unit effects ks err hh hrest ih =>
    obtain ⟨queued, hqueued⟩ := hh.exists_queued hp
    obtain ⟨later, hlater⟩ := ih
    have htaken : takenUnits (⟨unit, h, h', effects⟩ :: ks) err = unit :: takenUnits ks err := by
      cases err with
      | none => rfl
      | some e => cases hrest <;> rfl
    rw [htaken, List.flatMap_cons]
    exact ⟨_, hqueued.trans hlater⟩

end Session

/-! ### The end of the other side -/

/-- The other side has ended, and before that reads find bytes or are interrupted. -/
structure Source.Ending (s : Source) : Prop where
  ended : s.ended = true
  proper : ∀ a ∈ s.arrivals, a = .interrupted ∨ ∃ chunk, a = .bytes chunk

/-- A read from such a source finds bytes, which may be none, or is interrupted. -/
theorem Source.Ending.read {s t : Source} {room : Nat} {a : Arrival} (h : s.Ending)
    (hread : s.read room = (a, t)) : t.Ending ∧ (a = .interrupted ∨ ∃ chunk, a = .bytes chunk) := by
  obtain ⟨arrivals, ended⟩ := s
  obtain rfl : ended = true := h.ended
  cases arrivals with
  | nil =>
    obtain ⟨rfl, rfl⟩ := Prod.mk.inj hread
    exact ⟨h, .inr ⟨[], rfl⟩⟩
  | cons c later =>
    obtain ⟨hfirst, hlater⟩ := List.forall_mem_cons.1 h.proper
    rcases hfirst with rfl | ⟨chunk, rfl⟩
    · obtain ⟨rfl, rfl⟩ := Prod.mk.inj hread
      exact ⟨⟨rfl, hlater⟩, .inl rfl⟩
    · simp only [Source.read] at hread
      split at hread
      · obtain ⟨rfl, rfl⟩ := Prod.mk.inj hread
        exact ⟨⟨rfl, List.forall_mem_cons.2 ⟨.inr ⟨_, rfl⟩, hlater⟩⟩, .inr ⟨_, rfl⟩⟩
      · obtain ⟨rfl, rfl⟩ := Prod.mk.inj hread
        exact ⟨⟨rfl, hlater⟩, .inr ⟨_, rfl⟩⟩

/-- **Reading fails where the other side has ended**, whatever is read before.  The induction
follows the reads. -/
theorem Inbox.exists_error_of_ending {σ : Type} (p : Policy)
    (handle : σ → Bytes → σ × Option SessionError) (i : Inbox) {source : Source} (s : σ)
    (total : Nat) (h : source.Ending) :
    ∃ e, (receiveFrom p handle i source s total).1.result = .error e := by
  unfold receiveFrom
  fun_induction reception p handle i source s total with
  | case1 => exact ⟨_, rfl⟩
  | case2 i source s total j hj t hread => simpa using (h.read hread).2
  | case3 => exact ⟨_, rfl⟩
  | case4 i source s total j hj t hread ih => exact ih (h.read hread).1
  | case5 => exact ⟨_, rfl⟩
  | case6 => exact ⟨_, rfl⟩
  | case7 i source s total j hj b chunk t hread k state hdrain ih => exact ih (h.read hread).1

namespace Session

variable {app : App} {s : Session}

theorem exists_error_of_ending (h : s.socket.incoming.Ending) :
    ∃ e, (s.onReadable app).result = .error e := by
  obtain ⟨e, he⟩ := Inbox.exists_error_of_ending s.policy (handleUnit s.policy app) s.inbox
    (.start s.handle) 0 h
  obtain ⟨notices, heq⟩ := onReadable_eq app s
  exact ⟨e, by rw [heq]; exact congrArg (Except.map fun _ => ()) he⟩

/-! ### Serving -/

/-- Reading touches neither the writer nor the other direction of the socket. -/
theorem onReadable_keeps (app : App) (s : Session) :
    (s.onReadable app).session.writer = s.writer ∧
      (s.onReadable app).session.socket.outgoing = s.socket.outgoing ∧
      (s.onReadable app).session.interest = s.interest ∧
      (s.onReadable app).session.socket.refusal = s.socket.refusal := by
  obtain ⟨notices, heq⟩ := onReadable_eq app s
  rw [heq]
  exact ⟨rfl, rfl, rfl, rfl⟩

/-- If reading fails, nothing else is done. -/
theorem serve_of_read_error {e : SessionError} (h : (s.onReadable app).result = .error e) :
    s.serve app true = s.onReadable app := by
  simp only [serve, if_true, Step.andThen, h]
  rw [← h]

/-- The readiness of a registered session is brought up to date, unless the system refuses it. -/
theorem result_updateInterest (hregistered : s.interest.isSome) :
    s.updateInterest.result = .ok () ∨
      ∃ detail, s.socket.refusal = some detail ∧ s.updateInterest.result = .error (.io detail) := by
  unfold updateInterest
  split
  · next hnone => simp [hnone] at hregistered
  · split
    · exact .inl rfl
    · split
      · next detail hrefusal => exact .inr ⟨detail, hrefusal, rfl⟩
      · exact .inl rfl

/-- If it does not, everything that is pending is sent to a willing socket; and then the work is
done, unless the system refuses to wait for another readiness. -/
theorem serve_of_read_ok (hregistered : s.interest.isSome) (hwilling : s.socket.outgoing.Willing)
    (h : (s.onReadable app).result = .ok ()) :
    (s.serve app true).session.unsent = [] ∧
      (s.serve app true).session.socket.outgoing.taken =
        s.socket.outgoing.taken ++ (s.onReadable app).session.unsent ∧
      ((s.serve app true).result = .ok () ∨
        ∃ detail, s.socket.refusal = some detail ∧
          (s.serve app true).result = .error (.io detail)) := by
  obtain ⟨-, hsink, hinterest, hrefusal⟩ := onReadable_keeps app s
  rw [← hsink] at hwilling ⊢
  rw [← hinterest] at hregistered
  rw [← hrefusal]
  obtain ⟨hsent, hunsent, htaken⟩ := onWritable_of_willing hwilling
  have hresult := result_updateInterest (s := (s.onReadable app).session.onWritable.session)
    hregistered
  obtain ⟨interest, result, hupdated⟩ :=
    exists_updateInterest_eq (s.onReadable app).session.onWritable.session
  simp only [serve, if_true, Step.andThen, h, hsent, hupdated] at hresult ⊢
  exact ⟨hunsent, htaken, hresult⟩

/-- A session that was asked to close sends what is pending on its heartbeat. -/
theorem beat_of_closeRequested (hclose : s.handle.closeRequested = true) :
    ∃ effects, s.beat app = ⟨s.onWritable.session, effects, .ok .closed⟩ := by
  obtain ⟨notices, hbeat⟩ := onHeartbeat_of_closeRequested app hclose
  exact ⟨notices.map .notice ++ [], by simp only [beat, Step.andThen, hbeat]⟩

/-- Giving up a session gives its socket nothing, and leaves nothing to be sent. -/
theorem finalize_unsent (s : Session) :
    s.finalize.1.unsent = [] ∧ s.finalize.1.socket.outgoing = s.socket.outgoing := by
  obtain ⟨handle, socket, inbox, ⟨_ | inFlight⟩, policy, interest⟩ := s <;> exact ⟨rfl, rfl⟩

end Session

namespace Hub

variable {app : App} {hub : Hub} {id : ConnectionId} {e : Entry}

/-- A session is replaced and then closed. -/
theorem close_update {s : Session} (he : hub.find? id = some e) (hs : s.id = id)
    (cause : CloseCause) :
    (close id cause (hub.update id s)).hub.find? id = none ∧
      (close id cause (hub.update id s)).hub.released =
        hub.released ++ [{ e with session := s.finalize.1 }] := by
  have hfind : (hub.update id s).find? id = some { e with session := s } := by
    rw [find?_update hub hs, if_pos rfl, he]
    rfl
  refine ⟨by rw [find?_close, if_pos rfl], ?_⟩
  rw [released_close, hfind]
  rfl

/-- Where reading does not fail, everything that is pending was sent, and the session stays, unless
the system refuses to wait for another readiness. -/
theorem find?_serve_of_read_ok (hkeeps : app.Keeps) (he : hub.find? id = some e)
    (hregistered : e.session.interest.isSome) (hwilling : e.session.socket.outgoing.Willing)
    (hread : (e.session.onReadable app).result = .ok ()) :
    ∃ s : Session, s.unsent = [] ∧ s.socket.outgoing.taken =
        e.session.socket.outgoing.taken ++ (e.session.onReadable app).session.unsent ∧
      ((hub.serve app true id).hub.find? id = some { e with session := s } ∨
        e.session.socket.refusal.isSome ∧ (hub.serve app true id).hub.find? id = none ∧
          (hub.serve app true id).hub.released = hub.released ++ [{ e with session := s }]) := by
  obtain ⟨hunsent, htaken, hresult⟩ := Session.serve_of_read_ok hregistered hwilling hread
  obtain ⟨_, hstep⟩ := Session.exists_renames_serve hkeeps e.session true
  have hid := hstep.id.trans (id_of_find? he)
  rcases hresult with hok | ⟨detail, hrefusal, herror⟩
  · refine ⟨_, hunsent, htaken, .inl ?_⟩
    rw [serve_of_ok he hok, find?_update hub hid, if_pos rfl, he]
    rfl
  · obtain ⟨hfind, hreleased⟩ := close_update he hid (.failed (.io detail))
    obtain ⟨hnothing, hsink⟩ := Session.finalize_unsent (e.session.serve app true).session
    rw [serve_of_error he herror]
    refine ⟨_, hnothing, by rw [hsink, htaken], .inr ⟨?_, hfind, hreleased⟩⟩
    rw [hrefusal]
    rfl

/-- Where it fails, the session is removed, and its socket was given nothing. -/
theorem find?_serve_of_read_error (hkeeps : app.Keeps) (he : hub.find? id = some e)
    {cause : SessionError} (hread : (e.session.onReadable app).result = .error cause) :
    (hub.serve app true id).hub.find? id = none ∧
      ∃ s : Session, (hub.serve app true id).hub.released =
          hub.released ++ [{ e with session := s }] ∧
        s.unsent = [] ∧ s.socket.outgoing = e.session.socket.outgoing := by
  have hserve := Session.serve_of_read_error hread
  obtain ⟨_, hstep⟩ := Session.exists_renames_serve hkeeps e.session true
  obtain ⟨hfind, hreleased⟩ := close_update he (hstep.id.trans (id_of_find? he)) (.failed cause)
  obtain ⟨hunsent, hsink⟩ := Session.finalize_unsent (e.session.serve app true).session
  rw [serve_of_error he (by rw [hserve]; exact hread)]
  refine ⟨hfind, _, hreleased, hunsent, hsink.trans ?_⟩
  rw [hserve]
  exact (Session.onReadable_keeps app e.session).2.1

theorem find?_beat_of_ne (hkeeps : app.Keeps) {i : ConnectionId} (hne : id ≠ i) (hub : Hub) :
    (hub.beat app i).1.hub.find? id = hub.find? id :=
  (view_beat_of_ne (r := .start hub) hkeeps hne).2

/-- The heartbeats of other sessions. -/
theorem find?_beatAll_of_not_mem (hkeeps : app.Keeps) {ids : List ConnectionId} (hid : id ∉ ids)
    (hub : Hub) : (hub.beatAll app ids).1.hub.find? id = hub.find? id := by
  induction ids generalizing hub with
  | nil => rfl
  | cons i ids ih =>
    obtain ⟨hne, hrest⟩ := List.ne_and_not_mem_of_not_mem_cons hid
    exact (ih hrest _).trans (find?_beat_of_ne hkeeps hne hub)

/-- On a heartbeat a session that was asked to close sends what is pending, and is to be closed.
The heartbeats of others before it and behind it leave it as it is. -/
theorem find?_beatAll_of_closeRequested (hkeeps : app.Keeps) {ids : List ConnectionId}
    (hnodup : ids.Nodup) (hid : id ∈ ids) (he : hub.find? id = some e)
    (hclose : e.session.handle.closeRequested = true) :
    (hub.beatAll app ids).1.hub.find? id =
        some { e with session := e.session.onWritable.session } ∧
      id ∈ (hub.beatAll app ids).2.map Prod.fst := by
  induction ids generalizing hub with
  | nil => simp at hid
  | cons i ids ih =>
    obtain ⟨hnew, hnodup⟩ := List.nodup_cons.1 hnodup
    by_cases hi : id = i
    · subst hi
      obtain ⟨effects, hbeat⟩ : ∃ effects,
          e.session.beat app = ⟨e.session.onWritable.session, effects, .ok .closed⟩ :=
        Session.beat_of_closeRequested hclose
      have hturn : hub.beat app id =
          (⟨hub.update id e.session.onWritable.session, effects⟩, some .requested) := by
        simp only [beat, he, hbeat]
        rfl
      have hsame : e.session.onWritable.session.id = id := id_of_find? he
      simp only [beatAll, hturn]
      refine ⟨?_, List.mem_cons_self⟩
      rw [find?_beatAll_of_not_mem hkeeps hnew, find?_update hub hsame, if_pos rfl, he]
      rfl
    · have hrest := ih hnodup ((List.mem_cons.1 hid).resolve_left hi)
        ((find?_beat_of_ne hkeeps hi hub).trans he)
      refine ⟨hrest.1, ?_⟩
      simp only [beatAll, List.map_append]
      exact List.mem_append_right _ hrest.2

/-- Sessions are closed; one that was closed before stays so. -/
theorem released_forEach_close_of_none (closings : List (ConnectionId × CloseCause)) {t : Turn}
    (hf : t.hub.find? id = none) (hmem : e ∈ t.hub.released) :
    (t.forEach closings fun x => close x.1 x.2).hub.find? id = none ∧
      e ∈ (t.forEach closings fun x => close x.1 x.2).hub.released := by
  induction closings generalizing t with
  | nil => exact ⟨hf, hmem⟩
  | cons x closings ih =>
    refine ih (t := t.andThen (close x.1 x.2)) ?_ ?_
    · refine (find?_close x.1 x.2 t.hub id).trans ?_
      rw [hf, ite_self]
    · show e ∈ (close x.1 x.2 t.hub).hub.released
      rw [released_close]
      exact List.mem_append_left _ hmem

/-- Sessions are closed, and one of them is there.  The induction is on those that are to be
closed. -/
theorem released_forEach_close {closings : List (ConnectionId × CloseCause)} {t : Turn}
    (hid : id ∈ closings.map Prod.fst) (he : t.hub.find? id = some e) :
    (t.forEach closings fun x => close x.1 x.2).hub.find? id = none ∧
      { e with session := e.session.finalize.1 } ∈
        (t.forEach closings fun x => close x.1 x.2).hub.released := by
  induction closings generalizing t with
  | nil => simp at hid
  | cons x closings ih =>
    have hfind := find?_close x.1 x.2 t.hub id
    by_cases hx : id = x.1
    · rw [if_pos hx] at hfind
      refine released_forEach_close_of_none closings (t := t.andThen (close x.1 x.2)) hfind ?_
      show _ ∈ (close x.1 x.2 t.hub).hub.released
      rw [released_close, ← hx, he]
      exact List.mem_append_right _ (List.mem_singleton.2 rfl)
    · rw [if_neg hx, he] at hfind
      exact ih (t := t.andThen (close x.1 x.2)) ((List.mem_cons.1 hid).resolve_left hx) hfind

/-- **A session that was asked to close is closed on the next heartbeat, after everything that is
pending was sent.** -/
theorem released_heartbeat_of_closeRequested (hkeeps : app.Keeps) (hs : hub.Sound) (tour : Tour)
    (he : hub.find? id = some e) (hwilling : e.session.socket.outgoing.Willing)
    (hclose : e.session.handle.closeRequested = true) :
    (hub.heartbeatIn app (tour.order hub.ids)).hub.find? id = none ∧
      ∃ s : Session, { e with session := s } ∈
          (hub.heartbeatIn app (tour.order hub.ids)).hub.released ∧ s.unsent = [] ∧
        s.socket.outgoing.taken = e.session.socket.outgoing.taken ++ e.session.unsent := by
  obtain ⟨-, -, htaken⟩ := Session.onWritable_of_willing hwilling
  obtain ⟨hunsent, hsink⟩ := Session.finalize_unsent e.session.onWritable.session
  obtain ⟨hfind, hasked⟩ := find?_beatAll_of_closeRequested hkeeps
    ((tour.perm hub.ids).nodup_iff.2 hs.nodup) ((tour.perm hub.ids).mem_iff.2 (mem_ids.2 ⟨e, he⟩))
    he hclose
  obtain ⟨hnone, hreleased⟩ := released_forEach_close hasked hfind
  exact ⟨hnone, _, hreleased, hunsent, by rw [hsink, htaken]⟩

/-- **Which replies get out before a session is removed.**  When its socket can be read, the
replies of all units that are handled are queued, in order.  If reading does not fail, a willing
socket has been given everything that was pending and everything that was queued; and then the
session stays, unless the system refuses to wait for another readiness.  If reading fails, the
session is removed, the socket has been given nothing, and what was queued is lost; and this is what
happens wherever the other side has ended.  A session that was asked to close is removed on its
heartbeat, and its socket has been given everything that was pending. -/
theorem replies_of_ready (hp : app.Proper) (hs : hub.Sound) (he : hub.find? id = some e)
    (hregistered : e.session.interest.isSome) (hwilling : e.session.socket.outgoing.Willing) :
    ∃ (report : Session.Report) (queued : List Packet),
      report.round = ⟨app, e.session, .readable⟩ ∧ report.Right ∧
      e.session.handle.Queued (e.session.onReadable app).session.handle
        (report.taken.flatMap e.session.policy.replies) queued ∧
      ((e.session.onReadable app).result = .ok () → ∃ s : Session, s.unsent = [] ∧
        s.socket.outgoing.taken = e.session.socket.outgoing.taken ++ e.session.unsent ++
            queued.flatMap Packet.bytes ∧
        ((hub.serve app true id).hub.find? id = some { e with session := s } ∨
          e.session.socket.refusal.isSome ∧ (hub.serve app true id).hub.find? id = none ∧
            (hub.serve app true id).hub.released = hub.released ++ [{ e with session := s }])) ∧
      (∀ cause, (e.session.onReadable app).result = .error cause →
        (hub.serve app true id).hub.find? id = none ∧
        ∃ s : Session, (hub.serve app true id).hub.released =
            hub.released ++ [{ e with session := s }] ∧
          s.unsent = [] ∧ s.socket.outgoing = e.session.socket.outgoing) ∧
      (e.session.socket.incoming.Ending →
        ∃ cause, (e.session.onReadable app).result = .error cause) ∧
      (e.session.handle.closeRequested = true → ∀ tour : Tour,
        (hub.heartbeatIn app (tour.order hub.ids)).hub.find? id = none ∧
        ∃ s : Session, { e with session := s } ∈
            (hub.heartbeatIn app (tour.order hub.ids)).hub.released ∧ s.unsent = [] ∧
          s.socket.outgoing.taken = e.session.socket.outgoing.taken ++ e.session.unsent) := by
  obtain ⟨⟨round, arrived, ks, failure⟩, hround, hright⟩ :=
    Session.exists_report ⟨app, e.session, .readable⟩
  obtain rfl : round = ⟨app, e.session, .readable⟩ := hround
  obtain ⟨s, hchain, hsession⟩ := hright.chain
  -- Only a heartbeat sends after it has handled units.
  have hread : (e.session.onReadable app).session = s := hsession.resolve_right (by simp)
  rw [← hread] at hchain
  obtain ⟨queued, hqueued⟩ := hchain.exists_queued hp
  refine ⟨_, queued, rfl, hright, hqueued, fun hok => ?_,
    fun cause => find?_serve_of_read_error hp.keeps he, Session.exists_error_of_ending,
    fun hclose tour => released_heartbeat_of_closeRequested hp.keeps hs tour he hwilling hclose⟩
  obtain ⟨t, hunsent, hsent, hends⟩ := find?_serve_of_read_ok hp.keeps he hregistered hwilling hok
  have hwaiting : (e.session.onReadable app).session.handle.outbox.waiting =
    e.session.handle.outbox.waiting ++ queued := hqueued.1
  refine ⟨t, hunsent, hsent.trans ?_, hends⟩
  simp only [Session.unsent, (Session.onReadable_keeps app e.session).1, hwaiting,
    List.flatMap_append, List.append_assoc]

/-- A session whose client has sent a ping, and may have ended behind it. -/
def pinged (ended : Bool) : Session :=
  let s := (Session.narrow [0x89, 0x00]).register.session
  { s with socket := { s.socket with incoming := { s.socket.incoming with ended } } }

/-- A hub with that session alone. -/
def pingedHub (ended : Bool) : Hub :=
  { new default with entries := [⟨0, pinged ended⟩], tracker := ⟨8, 1, 1⟩ }

theorem find?_pingedHub (ended : Bool) : (pingedHub ended).find? ⟨7⟩ = some ⟨0, pinged ended⟩ :=
  rfl

theorem sound_pingedHub (ended : Bool) : (pingedHub ended).Sound where
  nodup := List.nodup_singleton _
  gone := fun _ hid => nomatch hid
  bound id hid := by
    obtain rfl : id = ⟨7⟩ := List.mem_singleton.1 hid
    show 7 < 8
    decide

theorem willing_pinged (ended : Bool) : (pinged ended).socket.outgoing.Willing :=
  fun _ ha => nomatch ha

theorem ending_pinged : (pinged true).socket.incoming.Ending :=
  ⟨rfl, fun _ ha => .inr ⟨[0x89, 0x00], List.mem_singleton.1 ha⟩⟩

theorem waiting_pinged (ended : Bool) :
    ((pinged ended).onReadable Session.quiet).session.handle.outbox.waiting =
      [⟨[0x8A, 0x00], 1, .pong⟩] := by
  cases ended <;> decide +kernel

theorem proper_quiet : Session.quiet.Proper := ⟨fun _ _ => .refl, fun _ _ => Effect.quiet_nil⟩

/-- The pong gets out, unless the client has ended: then it is queued and lost. -/
theorem replies_of_ready_ping : ∃ s gone : Session,
    ((pingedHub false).serve Session.quiet true ⟨7⟩).hub.find? ⟨7⟩ = some ⟨0, s⟩ ∧
      s.socket.outgoing.taken = [0x8A, 0x00] ∧
      ((pinged true).onReadable Session.quiet).session.handle.outbox.waiting =
        [⟨[0x8A, 0x00], 1, .pong⟩] ∧
      ((pingedHub true).serve Session.quiet true ⟨7⟩).hub.find? ⟨7⟩ = none ∧
      ((pingedHub true).serve Session.quiet true ⟨7⟩).hub.released = [⟨0, gone⟩] ∧
      gone.socket.outgoing.taken = [] := by
  obtain ⟨-, queued, -, -, ⟨hqueued, -⟩, hok, -⟩ := replies_of_ready proper_quiet
    (sound_pingedHub false) (find?_pingedHub false) rfl (willing_pinged false)
  obtain ⟨-, -, -, -, -, -, herror, hending, -⟩ := replies_of_ready proper_quiet
    (sound_pingedHub true) (find?_pingedHub true) rfl (willing_pinged true)
  obtain ⟨s, -, hsent, hends⟩ := hok (by decide +kernel)
  -- Nobody refuses anything here.
  have hfind := hends.resolve_right fun hrefused => absurd hrefused.1 (by decide)
  obtain ⟨cause, hcause⟩ := hending ending_pinged
  obtain ⟨hnone, gone, hreleased, -, hsink⟩ := herror cause hcause
  obtain rfl : queued = [⟨[0x8A, 0x00], 1, .pong⟩] := hqueued.symm.trans (waiting_pinged false)
  exact ⟨s, gone, hfind, hsent, waiting_pinged true, hnone, hreleased, by rw [hsink]; rfl⟩

/-- Where the other side has ended, what was queued is not given to the socket before the session is
removed. -/
theorem not_replies_of_ending :
    ¬ ∀ (app : App) (hub : Hub) (id : ConnectionId) (e gone : Entry) (queued : List Packet),
      app.Proper → hub.Sound → hub.find? id = some e → e.session.interest.isSome →
      e.session.socket.outgoing.Willing → e.session.socket.incoming.Ending →
      (e.session.onReadable app).session.handle.outbox.waiting =
        e.session.handle.outbox.waiting ++ queued →
      (hub.serve app true id).hub.released = hub.released ++ [gone] →
      gone.session.socket.outgoing.taken =
        e.session.socket.outgoing.taken ++ e.session.unsent ++ queued.flatMap Packet.bytes := by
  intro h
  obtain ⟨cause, hcause⟩ : ∃ cause,
      ((pinged true).onReadable Session.quiet).result = .error cause :=
    Session.exists_error_of_ending ending_pinged
  obtain ⟨-, gone, hreleased, -, hsink⟩ :=
    find?_serve_of_read_error proper_quiet.keeps (find?_pingedHub true) hcause
  have hgiven := h Session.quiet (pingedHub true) ⟨7⟩ _ _ _ proper_quiet (sound_pingedHub true)
    (find?_pingedHub true) rfl (willing_pinged true) ending_pinged (waiting_pinged true) hreleased
  have hnothing : gone.socket.outgoing.taken = [] := by rw [hsink]; rfl
  rw [hnothing] at hgiven
  exact absurd hgiven (by decide)

end Hub

end WebSocket
