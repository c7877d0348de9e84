import WebSocket.Proofs.Session.Departures
import WebSocket.Proofs.Session.Pending
import WebSocket.Proofs.Session.Reads

/-!
# What the byte counters count

The bytes that a session reads are counted at the end of a reading that ends well, and the bytes
that it writes when all of a packet is written.  So a reading that fails is not counted at all, and
it fails whenever the client has ended the connection; and what was accepted of a packet that could
not be written to its end is not counted either.  Apart from that the counters are exact.

## Main definitions

* `Counter.isVolume`, `Effect.Dry` — the counters of bytes and packets, and effects that leave them
  alone.
* `Reading` — how many bytes a reading took, and how it ended.
* `Session.Metered` — a session, with what it told and what it read.
* `Session.Metered.Act`, `Session.Metered.run` — what may happen to it, in any order.
* `Session.Metered.Sound` — the invariant of such a run.

## Main results

* `Inbox.length_of_receiveFrom` — a reading that ends well returns how many bytes it took.
* `Session.Metered.Sound.act`, `Session.Metered.sound_run` — the invariant holds in every run.
* `Session.Metered.bytes_metered` — **what the byte counters come to when a session is gone.**
-/

namespace WebSocket

/-! ### Counters of bytes and packets -/

/-- The counters of bytes, and of packets that were sent or could not be. -/
def Counter.isVolume : Counter → Bool
  | .bytesRead | .bytesWritten | .packetsSent _ | .packetsFailed _ => true
  | _ => false

namespace Effect

/-- The counters of bytes and packets do not move. -/
structure Dry (effects : List Effect) : Prop where
  total (c : Counter) (hc : c.isVolume) : Notice.total c (notices effects) = 0

theorem dry_nil : Dry [] := ⟨fun _ _ => rfl⟩

theorem Dry.append {effects more : List Effect} (h : Dry effects) (hmore : Dry more) :
    Dry (effects ++ more) := by
  refine ⟨fun c hc => ?_⟩
  rw [notices_append, Notice.total_append, h.total c hc, hmore.total c hc]

end Effect

/-- An application that leaves the counters of bytes and packets alone. -/
def App.Dry (app : App) : Prop := ∀ h m, Effect.Dry ((app h m).notices.map .notice)

namespace Session

variable {app : App} {w : Work}

theorem Work.dry_tell (hw : Effect.Dry w.effects) {told : List Notice}
    (htold : Effect.Dry (told.map .notice)) : Effect.Dry (w.tell told).effects := by
  rw [Work.effects_tell]
  exact hw.append htold

theorem Work.dry_act (hw : Effect.Dry w.effects) (d : Duty) : Effect.Dry (w.act d).1.effects := by
  cases d with
  | bindForwarded address =>
    simp only [Work.act, Work.effects_tell]
    exact hw.append ⟨fun _ _ => rfl⟩
  | reply m =>
    simp only [Work.act]
    split
    · exact hw
    · exact hw

theorem Work.dry_handOver (happ : app.Dry) (hw : Effect.Dry w.effects) (m : Message) :
    Effect.Dry (w.handOver app m).1.effects := by
  refine Work.dry_tell ?_ (happ w.handle m)
  simp only [Work.effects, List.reverse_cons]
  exact hw.append ⟨fun _ _ => rfl⟩

/-- Handling a unit moves other counters only. -/
theorem dry_handleUnit (happ : app.Dry) (p : Policy) (hw : Effect.Dry w.effects) (unit : Bytes) :
    Effect.Dry (handleUnit p app w unit).1.effects := by
  unfold handleUnit
  cases p.decode unit with
  | error e => exact hw
  | ok m =>
    have hreceived : Effect.Dry (List.map .notice [.count (.messagesReceived m.kind) 1,
        .log (.messageReceived w.handle.id m.summary)]) := by
      refine ⟨fun c hc => ?_⟩
      cases c <;> first | rfl | simp [Counter.isVolume] at hc
    have htold := Work.dry_tell hw hreceived
    have hduties : Simulates (fun w v => w = v ∧ Effect.Dry w.effects) Work.act Work.act :=
      simulates_of_keeps fun _ d hw => Work.dry_act hw d
    have hperformed := (perform_simulates hduties (p.duties m) ⟨rfl, htold⟩).1.2
    simp only
    generalize perform Work.act _ (p.duties m) = r at hperformed ⊢
    obtain ⟨w', err⟩ := r
    cases err with
    | some e => exact hperformed
    | none =>
      cases m.isControl with
      | true => exact hperformed
      | false => exact Work.dry_handOver happ hperformed m

end Session

/-! ### Readings -/

/-- A reading that ends well returns how many bytes it took.  The induction is on the reads. -/
theorem Inbox.length_of_receiveFrom {σ : Type} {p : Policy}
    {handle : σ → Bytes → σ × Option SessionError} {i : Inbox} {source : Source} {s : σ}
    {total n : Nat} (h : (receiveFrom p handle i source s total).1.result = .ok n) :
    total + source.content.length =
      n + (receiveFrom p handle i source s total).2.content.length := by
  unfold receiveFrom at h ⊢
  fun_induction reception p handle i source s total with
  | case1 | case3 | case5 | case6 => simp at h
  | case2 i source s total j hj t hread =>
    obtain rfl : total = n := Except.ok.inj h
    rw [Source.content_read_of_ne hread (by simp)]
  | case4 i source s total j hj t hread ih =>
    rw [← Source.content_read_of_ne hread (by simp)]
    exact ih h
  | case7 i source s total j hj b chunk t hread k state hdrain ih =>
    rw [Source.content_read hread, List.length_append, ← Nat.add_assoc]
    exact ih h

/-- A reading of the socket: how many bytes it took, and whether it ended well. -/
structure Reading where
  taken : Nat
  well : Bool
  deriving DecidableEq, Repr

/-! ### What is counted -/

/-- What is told of many things moves a counter by what is told of each. -/
theorem Notice.total_flatMap {α : Type} (c : Counter) (f : α → List Notice) (xs : List α) :
    total c (xs.flatMap f) = (xs.map fun x => total c (f x)).sum := by
  induction xs with
  | nil => rfl
  | cons x xs ih => rw [List.flatMap_cons, total_append, ih, List.map_cons, List.sum_cons]

/-- What moves a counter by one for each thing of a kind, and not for others, counts them. -/
theorem Notice.total_flatMap_countP {α : Type} {c : Counter} {f : α → List Notice} {p : α → Bool}
    (h : ∀ x, total c (f x) = if p x then 1 else 0) (xs : List α) :
    total c (xs.flatMap f) = xs.countP p := by
  rw [total_flatMap, List.map_congr_left fun x _ => h x]
  induction xs with
  | nil => rfl
  | cons x xs ih => rw [List.map_cons, List.sum_cons, ih, List.countP_cons, Nat.add_comm]

/-- What moves a counter for none of many things does not move it. -/
theorem Notice.total_flatMap_eq_zero {α : Type} {c : Counter} {f : α → List Notice}
    (h : ∀ x, total c (f x) = 0) (xs : List α) : total c (xs.flatMap f) = 0 := by
  have hcount := total_flatMap_countP (p := fun _ => false) h xs
  rw [hcount, List.countP_false]
  rfl

/-- The counters of bytes and packets move alike. -/
def Notice.SameVolume (told other : List Notice) : Prop :=
  ∀ c : Counter, c.isVolume → Notice.total c told = Notice.total c other

theorem Notice.SameVolume.append {told other more rest : List Notice} (h : SameVolume told other)
    (hmore : SameVolume more rest) : SameVolume (told ++ more) (other ++ rest) := by
  intro c hc
  rw [total_append, total_append, h c hc, hmore c hc]

/-- What is counted of a reading. -/
def Reading.counts (r : Reading) : List Notice := if r.well then [.count .bytesRead r.taken] else []

/-- What is counted of a packet that has left. -/
def Departure.counts (d : Departure) : List Notice :=
  if d.isWhole then
    [.count (.packetsSent d.packet.kind) 1, .count .bytesWritten d.packet.bytes.length]
  else [.count (.packetsFailed d.packet.kind) 1]

/-- The rest of what is told of packets are events. -/
theorem Departure.sameVolume_notices (id : ConnectionId) (departures : List Departure) :
    Notice.SameVolume (departures.flatMap (Departure.notices id))
      (departures.flatMap Departure.counts) := by
  intro c _
  have heach : ∀ d ∈ departures, Notice.total c (d.notices id) = Notice.total c d.counts := by
    intro d _
    unfold Departure.notices Departure.counts
    split <;> rfl
  rw [Notice.total_flatMap, Notice.total_flatMap, List.map_congr_left heach]

/-- The readings that ended badly are missing from the count of the bytes read. -/
theorem Reading.total_counts (readings : List Reading) :
    Notice.total .bytesRead (readings.flatMap counts) +
        ((readings.filter fun r => !r.well).map taken).sum =
      (readings.map taken).sum := by
  induction readings with
  | nil => rfl
  | cons r readings ih =>
    obtain ⟨taken, well⟩ := r
    cases well <;> simp [counts, Notice.total] at ih ⊢ <;> omega

theorem Reading.missing_eq_zero_iff (readings : List Reading) :
    ((readings.filter fun r => !r.well).map taken).sum = 0 ↔
      ∀ r ∈ readings, r.well = false → r.taken = 0 := by
  rw [List.sum_eq_zero_iff, List.forall_mem_map]
  simp [List.mem_filter]

theorem Reading.total_counts_of_ne {c : Counter} (hc : c ≠ .bytesRead) (readings : List Reading) :
    Notice.total c (readings.flatMap counts) = 0 := by
  refine Notice.total_flatMap_eq_zero (fun r => ?_) readings
  unfold counts
  split
  · simp [Notice.total, hc.symm]
  · rfl

/-- The packets that were not written to their end are missing from the count of the bytes
written. -/
theorem Departure.total_counts (departures : List Departure) :
    Notice.total .bytesWritten (departures.flatMap counts) +
        ((departures.filter fun d => !d.isWhole).flatMap bytes).length =
      (departures.flatMap bytes).length := by
  induction departures with
  | nil => rfl
  | cons d departures ih =>
    rw [List.flatMap_cons, List.flatMap_cons, Notice.total_append, List.length_append, ← ih]
    cases hwhole : d.isWhole with
    | true =>
      have hbytes : d.bytes = d.packet.bytes := bytes_of_le (of_decide_eq_true hwhole)
      simp [counts, hwhole, hbytes, Notice.total, Nat.add_assoc]
    | false =>
      simp [counts, hwhole, Notice.total]
      omega

theorem Departure.missing_eq_zero_iff (departures : List Departure) :
    ((departures.filter fun d => !d.isWhole).flatMap bytes).length = 0 ↔
      ∀ d ∈ departures, d.isWhole = false → d.bytes = [] := by
  rw [List.length_eq_zero_iff, List.flatMap_eq_nil_iff]
  simp [List.mem_filter]

theorem Departure.total_bytesRead (departures : List Departure) :
    Notice.total .bytesRead (departures.flatMap counts) = 0 := by
  refine Notice.total_flatMap_eq_zero (fun d => ?_) departures
  unfold counts
  split <;> rfl

theorem Departure.total_packetsSent (kind : MessageKind) (departures : List Departure) :
    Notice.total (.packetsSent kind) (departures.flatMap counts) =
      departures.countP fun d => d.isWhole && d.packet.kind = kind := by
  refine Notice.total_flatMap_countP (fun d => ?_) departures
  cases hwhole : d.isWhole <;> simp [counts, hwhole, Notice.total]

theorem Departure.total_packetsFailed (kind : MessageKind) (departures : List Departure) :
    Notice.total (.packetsFailed kind) (departures.flatMap counts) =
      departures.countP fun d => !d.isWhole && d.packet.kind = kind := by
  refine Notice.total_flatMap_countP (fun d => ?_) departures
  cases hwhole : d.isWhole <;> simp [counts, hwhole, Notice.total]

/-! ### The work of a session -/

namespace Session

/-- How many bytes reading a session takes, and how it ends. -/
def reading (app : App) (s : Session) : Reading where
  taken :=
    s.socket.incoming.content.length - (s.onReadable app).session.socket.incoming.content.length
  well := (s.onReadable app).result.isOk

/-- What a step of a session does to the socket and to the counters of bytes and packets, if the
sink was given `before` and then the front of a packet. -/
structure Step.Flows {α : Type} (st : Step α) (before : Bytes) (readings : List Reading)
    (departures : List Departure) : Prop where
  taken : st.session.socket.outgoing.taken =
    before ++ departures.flatMap Departure.bytes ++ st.session.writer.front
  unfinished : st.session.writer.Unfinished
  told : Notice.SameVolume (Effect.notices st.effects)
    (readings.flatMap Reading.counts ++ departures.flatMap Departure.counts)

variable {app : App} {s : Session} {before : Bytes}

theorem simulates_dry (happ : app.Dry) (p : Policy) :
    Simulates (fun w v => w = v ∧ Effect.Dry w.effects) (handleUnit p app) (handleUnit p app) :=
  simulates_of_keeps fun _ unit hw => dry_handleUnit happ p hw unit

/-- Reading gives nothing to the sink, and is counted if it ends well. -/
theorem flows_onReadable (happ : app.Dry) (hs : s.writer.Unfinished)
    (htaken : s.socket.outgoing.taken = before ++ s.writer.front) :
    (s.onReadable app).Flows before [s.reading app] [] := by
  have hstart : Effect.Dry (Work.start s.handle).effects := Effect.dry_nil
  have hdry := (Inbox.receiveFrom_simulates (p := s.policy) (simulates_dry happ s.policy) s.inbox
    s.socket.incoming ⟨rfl, hstart⟩ 0).1.state.2
  have hlength := fun n => @Inbox.length_of_receiveFrom _ s.policy (handleUnit s.policy app)
    s.inbox s.socket.incoming (.start s.handle) 0 n
  simp only [reading, onReadable, Inbox.receive]
  generalize Inbox.receiveFrom s.policy (handleUnit s.policy app) s.inbox s.socket.incoming
    (.start s.handle) 0 = call at hdry hlength ⊢
  obtain ⟨⟨inbox, w, result⟩, incoming⟩ := call
  have hgiven :
      s.socket.outgoing.taken = before ++ [].flatMap Departure.bytes ++ s.writer.front := by
    rw [List.flatMap_nil, List.append_nil]
    exact htaken
  cases result with
  | error e => exact ⟨hgiven, hs, hdry.total⟩
  | ok n =>
    refine ⟨hgiven, hs, fun c hc => ?_⟩
    have hn : 0 + s.socket.incoming.content.length = n + incoming.content.length := hlength n rfl
    have hcount : s.socket.incoming.content.length - incoming.content.length = n := by omega
    simp only [Effect.notices_append, Notice.total_append, hdry.total c hc, hcount, Nat.zero_add]
    rfl

/-- A step of the writer. -/
theorem flows_onWritable (hs : s.writer.Unfinished)
    (htaken : s.socket.outgoing.taken = before ++ s.writer.front) :
    ∃ departures, s.onWritable.Flows before [] departures := by
  obtain ⟨departures, htold, hgiven, hunfinished⟩ := Writer.departs_flush hs htaken
  refine ⟨departures, hgiven, hunfinished, ?_⟩
  simp only [onWritable, Effect.notices_notice, htold]
  exact Departure.sameVolume_notices s.id departures

/-- What is told besides does not matter, if it leaves the counters of bytes and packets alone. -/
theorem Step.Flows.of_dry {α β : Type} {st : Step α} {st' : Step β} {readings : List Reading}
    {departures : List Departure} {earlier later : List Effect}
    (h : st.Flows before readings departures) (hsession : st'.session = st.session)
    (heffects : st'.effects = earlier ++ st.effects ++ later) (hearlier : Effect.Dry earlier)
    (hlater : Effect.Dry later) : st'.Flows before readings departures := by
  refine ⟨by rw [hsession]; exact h.taken, by rw [hsession]; exact h.unfinished, fun c hc => ?_⟩
  rw [heffects, Effect.notices_append, Effect.notices_append, Notice.total_append,
    Notice.total_append, hearlier.total c hc, hlater.total c hc, h.told c hc]
  omega

/-- A heartbeat reads nothing. -/
theorem flows_onHeartbeat (happ : app.Dry) (hs : s.writer.Unfinished)
    (htaken : s.socket.outgoing.taken = before ++ s.writer.front) :
    ∃ departures, (s.onHeartbeat app).Flows before [] departures := by
  unfold onHeartbeat
  split
  · -- It was asked to close, and sends what it can.
    obtain ⟨departures, hsent⟩ := flows_onWritable hs htaken
    refine ⟨departures, hsent.of_dry rfl rfl Effect.dry_nil ?_⟩
    split
    · exact Effect.dry_nil
    · exact ⟨fun _ _ => rfl⟩
  · have hstart : Effect.Dry (Work.start s.handle).effects := Effect.dry_nil
    have hdry : Effect.Dry (s.redrive app).effects :=
      (Inbox.drain_simulates (p := s.policy) (simulates_dry happ s.policy) s.inbox
        ⟨rfl, hstart⟩).state.2
    obtain ⟨departures, hsent⟩ :
        ∃ departures, (s.redrive app).session.onWritable.Flows before [] departures :=
      flows_onWritable hs htaken
    simp only
    split
    · refine ⟨[], ?_, hs, hdry.total⟩
      rw [List.flatMap_nil, List.append_nil]
      exact htaken
    · exact ⟨departures, hsent.of_dry rfl (List.append_nil _).symm hdry Effect.dry_nil⟩

/-- Giving up a session gives nothing to the sink, and nothing of a packet is left. -/
theorem flows_finalize (hs : s.writer.Unfinished)
    (htaken : s.socket.outgoing.taken = before ++ s.writer.front) :
    ∃ departures, (⟨s.finalize.1, s.finalize.2, .ok ()⟩ : Step Unit).Flows before [] departures ∧
      s.finalize.1.writer = .idle := by
  obtain ⟨departures, ⟨htold, hgiven, hunfinished⟩, hidle, hsink⟩ :=
    Writer.departs_abort hs htaken
  rw [hsink] at hgiven
  refine ⟨departures, ⟨hgiven, hunfinished, fun c hc => ?_⟩, hidle⟩
  have hcounted := Departure.sameVolume_notices s.id departures c hc
  simp only [finalize, Effect.notices_notice, Notice.total_append, htold, hcounted]
  split <;> simp [Notice.total]

/-! ### Whole runs -/

/-- A session, with what it told and what it read. -/
structure Metered where
  session : Session
  told : List Notice
  readings : List Reading

namespace Metered

/-- What happens to a session. -/
inductive Act
  | read (app : App)
  | write
  | beat (app : App)
  /-- Somebody uses its handle, another readiness is waited for, and reads and writes will find
  something else. -/
  | change (handle : Handle) (interest : Option Interest) (incoming : Source)
      (found : List Acceptance)

/-- The application that is asked leaves the counters of bytes and packets alone. -/
def Act.Dry : Act → Prop
  | read app | beat app => app.Dry
  | write | change .. => True

/-- A session that has done nothing yet. -/
def new (s : Session) : Metered := ⟨s, [], []⟩

/-- A session after a step. -/
def after {α : Type} (m : Metered) (st : Step α) (readings : List Reading) : Metered :=
  ⟨st.session, m.told ++ Effect.notices st.effects, m.readings ++ readings⟩

/-- One act, whether it fails or not. -/
def act (m : Metered) : Act → Metered
  | .read app => m.after (m.session.onReadable app) [m.session.reading app]
  | .write => m.after m.session.onWritable []
  | .beat app => m.after (m.session.onHeartbeat app) []
  | .change handle interest incoming found =>
    let outgoing := { m.session.socket.outgoing with acceptances := found }
    let socket := { m.session.socket with incoming, outgoing }
    { m with session := { m.session with handle, interest, socket } }

/-- Acts in order. -/
def run (m : Metered) (acts : List Act) : Metered := acts.foldl act m

/-- The session is given up. -/
def close (m : Metered) : Metered :=
  m.after (⟨m.session.finalize.1, m.session.finalize.2, .ok ()⟩ : Step Unit) []

/-- How a session, its socket and the counters stand to each other, when the sink had been given
`before` at the start. -/
structure Sound (before : Bytes) (departures : List Departure) (m : Metered) : Prop where
  taken : m.session.socket.outgoing.taken =
    before ++ departures.flatMap Departure.bytes ++ m.session.writer.front
  unfinished : m.session.writer.Unfinished
  told : Notice.SameVolume m.told
    (m.readings.flatMap Reading.counts ++ departures.flatMap Departure.counts)

variable {m : Metered} {departures : List Departure}

theorem sound_new (id : ConnectionId) (peer : SocketAddress) (socket : Socket)
    (settings : SessionSettings) :
    Sound socket.outgoing.taken [] (new (.new id peer socket settings)) where
  taken := by
    rw [List.flatMap_nil, List.append_nil]
    exact (List.append_nil _).symm
  unfinished := Writer.unfinished_idle
  told := fun _ _ => rfl

/-- What leaves in a step leaves after what has left before. -/
theorem Sound.after {α : Type} {st : Step α} {readings : List Reading} {more : List Departure}
    (hm : m.Sound before departures)
    (hst : st.Flows (before ++ departures.flatMap Departure.bytes) readings more) :
    (m.after st readings).Sound before (departures ++ more) := by
  refine ⟨?_, hst.unfinished, fun c hc => ?_⟩
  · rw [List.flatMap_append, ← List.append_assoc]
    exact hst.taken
  · have hbefore := hm.told c hc
    have hstep := hst.told c hc
    simp only [Metered.after, List.flatMap_append, Notice.total_append] at hbefore hstep ⊢
    omega

/-- **What every act keeps.** -/
theorem Sound.act (hm : m.Sound before departures) {a : Act} (ha : a.Dry) :
    ∃ more, (m.act a).Sound before (departures ++ more) := by
  cases a with
  | read app => exact ⟨[], hm.after (flows_onReadable ha hm.unfinished hm.taken)⟩
  | write =>
    obtain ⟨more, hmore⟩ := flows_onWritable hm.unfinished hm.taken
    exact ⟨more, hm.after hmore⟩
  | beat app =>
    obtain ⟨more, hmore⟩ := flows_onHeartbeat ha hm.unfinished hm.taken
    exact ⟨more, hm.after hmore⟩
  | change handle interest incoming found =>
    refine ⟨[], ?_⟩
    rw [List.append_nil]
    exact ⟨hm.taken, hm.unfinished, hm.told⟩

/-- **The invariant holds in every run.**  The induction is on the acts. -/
theorem sound_run (hm : m.Sound before departures) {acts : List Act} (hacts : ∀ a ∈ acts, a.Dry) :
    ∃ more, (m.run acts).Sound before (departures ++ more) := by
  induction acts generalizing m departures with
  | nil => exact ⟨[], by rwa [List.append_nil]⟩
  | cons a acts ih =>
    obtain ⟨first, hfirst⟩ := hm.act (hacts a List.mem_cons_self)
    obtain ⟨rest, hrest⟩ := ih hfirst fun b hb => hacts b (List.mem_cons_of_mem a hb)
    exact ⟨first ++ rest, by rwa [← List.append_assoc]⟩

/-- **What the byte counters come to when a session is gone**, in every run of its reads, writes and
heartbeats, whatever they find and whether they fail or not.  The bytes that the sink was given are
those that were accepted of the packets that have left, each of which was told to be sent if all of
it was accepted, and else to have failed.  The counter of the bytes read is short of them by what
was taken by readings that ended badly, and the counter of the bytes written by what was accepted of
packets that failed; so each of them is exact exactly if there is nothing of this. -/
theorem bytes_metered (id : ConnectionId) (peer : SocketAddress) (socket : Socket)
    (settings : SessionSettings) (acts : List Act) (hacts : ∀ a ∈ acts, a.Dry) :
    let gone := ((new (.new id peer socket settings)).run acts).close
    let read := (gone.readings.map Reading.taken).sum
    ∃ departures : List Departure,
      let written := (departures.flatMap Departure.bytes).length
      gone.session.socket.outgoing.taken =
          socket.outgoing.taken ++ departures.flatMap Departure.bytes ∧
        (∀ kind, Notice.total (.packetsSent kind) gone.told =
            departures.countP (fun d => d.isWhole && d.packet.kind = kind) ∧
          Notice.total (.packetsFailed kind) gone.told =
            departures.countP fun d => !d.isWhole && d.packet.kind = kind) ∧
        (Notice.total .bytesRead gone.told +
            ((gone.readings.filter fun r => !r.well).map Reading.taken).sum = read ∧
          Notice.total .bytesWritten gone.told +
            ((departures.filter fun d => !d.isWhole).flatMap Departure.bytes).length = written) ∧
        (Notice.total .bytesRead gone.told = read ↔
          ∀ r ∈ gone.readings, r.well = false → r.taken = 0) ∧
        (Notice.total .bytesWritten gone.told = written ↔
          ∀ d ∈ departures, d.isWhole = false → d.bytes = []) := by
  intro gone read
  obtain ⟨earlier, hrun⟩ := sound_run (sound_new id peer socket settings) hacts
  obtain ⟨last, hlast, hidle⟩ := flows_finalize hrun.unfinished hrun.taken
  obtain ⟨htaken, -, htold⟩ : gone.Sound socket.outgoing.taken ([] ++ earlier ++ last) :=
    hrun.after hlast
  generalize [] ++ earlier ++ last = departures at htaken htold
  have hfront : gone.session.writer.front = [] := congrArg Writer.front hidle
  rw [hfront, List.append_nil] at htaken
  have hreadings := Reading.total_counts gone.readings
  have hdepartures := Departure.total_counts departures
  have hread := htold .bytesRead rfl
  have hwritten := htold .bytesWritten rfl
  rw [Notice.total_append, Departure.total_bytesRead, Nat.add_zero] at hread
  rw [Notice.total_append, Reading.total_counts_of_ne (by simp), Nat.zero_add] at hwritten
  rw [← hread] at hreadings
  rw [← hwritten] at hdepartures
  refine ⟨departures, htaken, fun kind => ⟨?_, ?_⟩, ⟨hreadings, hdepartures⟩, ?_, ?_⟩
  · rw [htold _ rfl, Notice.total_append, Reading.total_counts_of_ne (by simp), Nat.zero_add,
      Departure.total_packetsSent]
  · rw [htold _ rfl, Notice.total_append, Reading.total_counts_of_ne (by simp), Nat.zero_add,
      Departure.total_packetsFailed]
  · rw [← Reading.missing_eq_zero_iff]
    omega
  · rw [← Departure.missing_eq_zero_iff]
    omega

/-- A socket on which a ping and the end of the connection have arrived. -/
def pingedOnce : Socket := ⟨⟨[.bytes [0x89, 0x00]], true⟩, .new [], false, none⟩

/-- The handle of a session to which a pong was added. -/
def ponging : Handle :=
  { Handle.new ⟨7⟩ ⟨.v4 127 0 0 1, 4000, 0⟩ 1 with
    outbox := (Outbox.new 1).count.append ⟨[0x8A, 0x00], 1, .pong⟩ }

/-- A session that is given up after some acts. -/
def goneAfter (socket : Socket) (acts : List Act) : Metered :=
  ((new (.new ⟨7⟩ ⟨.v4 127 0 0 1, 4000, 0⟩ socket ⟨1, 16, ⟨200, false, ""⟩⟩)).run acts).close

/-- The ping and the end of the connection are read at once. -/
def endedAtOnce : List Act := [.read quiet]

/-- The pong is cut off after its first byte. -/
def cutOff : List Act :=
  [.change ponging none ⟨[], false⟩ [.bytes 1, .failed "broken pipe"], .write]

/-- What is missing from the counts is the ping in one run, and a byte of the pong in the other. -/
theorem bytes_metered_lost :
    ((∀ a ∈ endedAtOnce, a.Dry) ∧
      Notice.total .bytesRead (goneAfter pingedOnce endedAtOnce).told + 2 = 2) ∧
    (∀ a ∈ cutOff, a.Dry) ∧ ∃ departures : List Departure,
      departures.flatMap Departure.bytes = [0x8A] ∧
        departures.countP (fun d => !d.isWhole && d.packet.kind = .pong) = 1 ∧
        Notice.total .bytesWritten (goneAfter .fresh cutOff).told +
          ((departures.filter fun d => !d.isWhole).flatMap Departure.bytes).length = 1 := by
  have hended : ∀ a ∈ endedAtOnce, a.Dry := by
    simpa [endedAtOnce] using show (Act.read quiet).Dry from fun _ _ => Effect.dry_nil
  have hcutOff : ∀ a ∈ cutOff, a.Dry := by simp [cutOff, Act.Dry]
  refine ⟨⟨hended, ?_⟩, hcutOff, ?_⟩
  · obtain ⟨-, -, -, ⟨hread, -⟩, -⟩ := bytes_metered ⟨7⟩ ⟨.v4 127 0 0 1, 4000, 0⟩ pingedOnce
      ⟨1, 16, ⟨200, false, ""⟩⟩ endedAtOnce hended
    have hreadings : (goneAfter pingedOnce endedAtOnce).readings = [⟨2, false⟩] := by
      decide +kernel
    change Notice.total .bytesRead (goneAfter pingedOnce endedAtOnce).told +
      (((goneAfter pingedOnce endedAtOnce).readings.filter fun r => !r.well).map
        Reading.taken).sum = ((goneAfter pingedOnce endedAtOnce).readings.map Reading.taken).sum
      at hread
    rwa [hreadings] at hread
  · obtain ⟨departures, htaken, hkinds, ⟨-, hwritten⟩, -⟩ := bytes_metered ⟨7⟩
      ⟨.v4 127 0 0 1, 4000, 0⟩ .fresh ⟨1, 16, ⟨200, false, ""⟩⟩ cutOff hcutOff
    have hgiven : (goneAfter .fresh cutOff).session.socket.outgoing.taken = [0x8A] := by cbv
    have hfailed : Notice.total (.packetsFailed .pong) (goneAfter .fresh cutOff).told = 1 := by cbv
    have hbytes : departures.flatMap Departure.bytes = [0x8A] := htaken.symm.trans hgiven
    rw [hbytes] at hwritten
    exact ⟨departures, hbytes, (hkinds .pong).2.symm.trans hfailed, hwritten⟩

/-- Neither counter has counted anything. -/
theorem not_bytes_metered_exact :
    (((goneAfter pingedOnce endedAtOnce).readings.map Reading.taken).sum = 2 ∧
      Notice.total .bytesRead (goneAfter pingedOnce endedAtOnce).told = 0) ∧
    (goneAfter .fresh cutOff).session.socket.outgoing.taken = [0x8A] ∧
      Notice.total .bytesWritten (goneAfter .fresh cutOff).told = 0 :=
  ⟨by decide +kernel, by cbv, by cbv⟩

end Metered

end Session

end WebSocket
