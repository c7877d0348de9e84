import WebSocket.Proofs.Session.Receiving

/-!
# Reading does not depend on the pieces

Bytes arrive in pieces that neither side chose, and a session is visited whenever its socket is
readable or its heartbeat is due.  What is handed over, how reading ends, and what is left in the
buffer are the carving of the whole stream, whatever the pieces, the visits and the capacity to
start with.

The invariant between two reads is `Inbox.Settled`: no unit is complete, and a unit counts as half
received exactly when there are bytes.  That the buffer is full at the same byte in every run comes
from `Inbox.makeRoom?_eq_none`: it is full exactly when it holds as many bytes as the limit allows.

## Main definitions

* `Source.Steady` — a source that gives bytes and interruptions, and then has nothing.
* `Visit`, `Inbox.attend`, `Inbox.reading` — visits to an inbox, up to the first that fails.
* `Hands` — visits that hand over a stream.

## Main results

* `Inbox.receiveFrom_follows` — reading goes along the carving of the stream.
* `Inbox.carve_eq_reading` — **reading comes to the carving of the stream.**
* `Inbox.reading_chunking` — **two readings of one stream come to the same.**
-/

namespace WebSocket

/-! ### Sources -/

/-- A source that gives bytes, at least one at a time, or is interrupted, until it has nothing for
now. -/
structure Source.Steady (s : Source) : Prop where
  lasting : s.ended = false
  proper : ∀ a ∈ s.arrivals, a = .interrupted ∨ ∃ b rest, a = .bytes (b :: rest)

/-- A read from such a source finds nothing more, is interrupted, or takes bytes off the front. -/
theorem Source.Steady.read {s : Source} (h : s.Steady) {room : Nat} (hroom : 0 < room) :
    (s.read room = (.blocked, s) ∧ s.content = []) ∨
      (∃ t : Source, s.read room = (.interrupted, t) ∧ t.Steady ∧ t.content = s.content) ∨
      ∃ b chunk, ∃ t : Source, s.read room = (.bytes (b :: chunk), t) ∧ t.Steady ∧
        (b :: chunk).length ≤ room ∧ s.content = b :: chunk ++ t.content := by
  obtain ⟨arrivals, ended⟩ := s
  obtain rfl : ended = false := h.lasting
  cases arrivals with
  | nil => exact .inl ⟨rfl, rfl⟩
  | cons a later =>
    have hlater : (⟨later, false⟩ : Source).Steady :=
      ⟨rfl, fun a' ha' => h.proper a' (List.mem_cons_of_mem a ha')⟩
    rcases h.proper a (List.mem_cons_self ..) with rfl | ⟨b, rest, rfl⟩
    · exact .inr (.inl ⟨⟨later, false⟩, rfl, hlater, rfl⟩)
    · obtain ⟨chunk, stay, hread, hstay⟩ := Source.read_cons hroom b rest later false
      refine .inr (.inr ⟨b, chunk, _, hread, ⟨rfl, fun a' ha' => ?_⟩,
        Source.length_read_le hread, Source.content_read hread⟩)
      rcases List.mem_append.1 ha' with ha' | ha'
      · exact .inr (hstay a' ha')
      · exact hlater.proper a' ha'

namespace Inbox

/-! ### What holds between two reads -/

/-- An inbox between two reads: no unit in it is complete, and one is half received when there are
bytes. -/
structure Settled (p : Policy) (i : Inbox) : Prop where
  ceiling : i.buffer.ceiling = p.limit
  pending : p.boundary i.buffer.contents = .ok .incomplete
  assembling : i.assembling = !i.buffer.contents.isEmpty

theorem settled_new (p : Policy) (hlimit : 1 ≤ p.limit) (initial : Nat) :
    (new initial p.limit).Settled p where
  ceiling := by
    show max p.limit 1 = p.limit
    omega
  pending := Policy.boundary_of_undecided ⟨List.nil_prefix, Nat.succ_pos 2⟩
  assembling := rfl

/-- More room does not unsettle. -/
theorem Settled.makeRoom {p : Policy} {i j : Inbox} (h : i.Settled p)
    (hj : i.makeRoom? = some j) : j.Settled p := by
  obtain ⟨hcontents, hceiling, hassembling, -⟩ := makeRoom?_eq_some hj
  refine ⟨hceiling.trans h.ceiling, ?_, ?_⟩
  · rw [hcontents]
    exact h.pending
  · rw [hassembling, hcontents]
    exact h.assembling

/-- Whoever takes the units only writes them down. -/
def record (units : List Bytes) (unit : Bytes) : List Bytes × Option SessionError :=
  (units ++ [unit], none)

theorem accepts_record {units new taken : List Bytes} (h : Accepts record units new taken) :
    taken = units ++ new := by
  induction h with
  | nil units => rw [List.append_nil]
  | @cons units _ _ unit new ht _ ih =>
    obtain rfl : units ++ [unit] = _ := congrArg Prod.fst ht
    rw [ih, List.append_assoc, List.singleton_append]

/-- A pass over an inbox is on the way to a carving of the stream: it has handed over the first
units of it, and either the rest of the carving is that of the bytes it keeps and the `later` ones,
or it ended as the carving does. -/
inductive Follows {α : Type} (p : Policy) (c : Carving) (units : List Bytes) (later : Bytes) :
    Pass (List Bytes) α → Prop
  | going {i : Inbox} {new : List Bytes} {a : α} :
      i.Settled p → c = (p.carve (i.buffer.contents ++ later)).after new →
      Follows p c units later ⟨i, units ++ new, .ok a⟩
  | ended {i : Inbox} {new : List Bytes} {e : SessionError} :
      c = ⟨new, .error e⟩ → Follows p c units later ⟨i, units ++ new, .error e⟩

namespace Follows

variable {α : Type} {p : Policy} {units : List Bytes} {later : Bytes}

/-- A pass that has handed over nothing. -/
theorem idle {i : Inbox} (hi : i.Settled p) (a : α) :
    Follows p (p.carve (i.buffer.contents ++ later)) units later ⟨i, units, .ok a⟩ := by
  have h : Follows p (p.carve (i.buffer.contents ++ later)) units later
      ⟨i, units ++ [], .ok a⟩ := .going hi rfl
  rwa [List.append_nil] at h

/-- A pass that has ended before it handed over anything. -/
theorem broken (i : Inbox) (e : SessionError) :
    Follows p ⟨[], .error e⟩ units later (⟨i, units, .error e⟩ : Pass (List Bytes) α) := by
  have h : Follows p ⟨[], .error e⟩ units later
      (⟨i, units ++ [], .error e⟩ : Pass (List Bytes) α) := .ended rfl
  rwa [List.append_nil] at h

/-- Units that were handed over before stand in front. -/
theorem after {c : Carving} {new : List Bytes} {pass : Pass (List Bytes) α}
    (h : Follows p c (units ++ new) later pass) : Follows p (c.after new) units later pass := by
  cases h with
  | going hi hc =>
    rw [List.append_assoc, hc, Carving.after_after]
    exact .going hi rfl
  | ended hc =>
    rw [List.append_assoc, hc]
    exact .ended rfl

end Follows

/-! ### One drain, one call -/

/-- Handing over the units in a buffer with new bytes goes along the carving. -/
theorem drain_follows {p : Policy} {i : Inbox} (hceiling : i.buffer.ceiling = p.limit)
    (hassembling : i.assembling = !i.buffer.contents.isEmpty) (units : List Bytes)
    (later : Bytes) :
    Follows p (p.carve (i.buffer.contents ++ later)) units later (drain p record i units) := by
  obtain ⟨new, rest, taken, hcarved, haccepts, hused, hstopped⟩ :=
    handOver_spec p record i.buffer.contents 0 units
  obtain rfl := accepts_record haccepts
  have hfits : i.buffer.contents.length ≤ p.limit := by
    rw [Buffer.length_contents, ← hceiling]
    exact Nat.le_trans i.buffer.filled_le i.buffer.storage_le
  have hcarve := hcarved.carve_append hfits later
  -- The bytes that stay are those behind the units.
  have hrest : (i.release (handOver p record i.buffer.contents 0 units).used).buffer.contents =
      rest := by
    rw [contents_release, hused, Nat.zero_add, ← hcarved.append_eq, List.drop_left]
  unfold drain
  simp only
  generalize handOver p record i.buffer.contents 0 units = h at *
  obtain ⟨used, state, result⟩ := h
  simp only at hstopped hrest
  cases hstopped with
  | waiting hi =>
    refine .going ⟨(ceiling_release i used).trans hceiling, ?_, ?_⟩ ?_
    · rw [hrest]
      exact hi
    · exact assembling_release hassembling used
    · rw [hrest]
      exact hcarve
  | violated he =>
    have hlen : rest.length ≤ p.limit := by
      have := congrArg List.length hcarved.append_eq
      rw [List.length_append] at this
      omega
    refine .ended ?_
    rw [hcarve, Policy.carve_append_error he hlen later]
    simp [Carving.after]
  | refused hn he =>
    -- Whoever only writes units down refuses none.
    simp [record] at he

/-- A call that ends well leaves room. -/
theorem room_pos_of_receiveFrom {σ : Type} {p : Policy}
    {handle : σ → Bytes → σ × Option SessionError} {i : Inbox} {source : Source} {s : σ}
    {total n : Nat} (h : (receiveFrom p handle i source s total).1.result = .ok n) :
    0 < (receiveFrom p handle i source s total).1.inbox.buffer.room := by
  unfold receiveFrom at h ⊢
  fun_induction reception p handle i source s total with
  | case1 => simp at h
  | case2 i source s total j hj => exact (makeRoom?_eq_some hj).2.2.2
  | case3 => simp at h
  | case4 _ _ _ _ _ _ _ _ ih => exact ih h
  | case5 => simp at h
  | case6 => simp at h
  | case7 _ _ _ _ _ _ _ _ _ _ _ _ _ ih => exact ih h

/-- What a read of bytes finds in a steady source, for an inbox with room. -/
theorem read_bytes {i j : Inbox} (hj : i.makeRoom? = some j) {source t : Source}
    (hsource : source.Steady) {chunk : Bytes}
    (hread : source.read j.buffer.room = (.bytes chunk, t)) :
    t.Steady ∧ chunk.length ≤ j.buffer.room ∧ source.content = chunk ++ t.content ∧
      chunk ≠ [] := by
  obtain ⟨-, -, -, hroom⟩ := makeRoom?_eq_some hj
  rcases hsource.read hroom with ⟨hr, -⟩ | ⟨_, hr, -⟩ | ⟨b, rest, t', hr, ht, hfits, hcontent⟩
  · simp [hr] at hread
  · simp [hr] at hread
  · obtain ⟨rfl, rfl⟩ : b :: rest = chunk ∧ t' = t := by simpa [hr] using hread
    exact ⟨ht, hfits, hcontent, by simp⟩

/-- Bytes that were read and the drain after them go along the carving. -/
theorem drain_take_follows {p : Policy} {i j : Inbox} (hi : i.Settled p)
    (hj : i.makeRoom? = some j) {source t : Source} (hsource : source.Steady) {chunk : Bytes}
    (hread : source.read j.buffer.room = (.bytes chunk, t)) (units : List Bytes)
    (later : Bytes) :
    Follows p (p.carve (i.buffer.contents ++ (source.content ++ later))) units
      (t.content ++ later) (drain p record (j.take chunk) units) := by
  obtain ⟨hcontents, hceiling, -, -⟩ := makeRoom?_eq_some hj
  obtain ⟨-, hfits, hcontent, hne⟩ := read_bytes hj hsource hread
  have htake := contents_take hfits
  have hassembling : (j.take chunk).assembling = !(j.take chunk).buffer.contents.isEmpty := by
    rw [htake, assembling_take]
    cases chunk <;> simp at hne ⊢
  have hstream : i.buffer.contents ++ (source.content ++ later) =
      (j.take chunk).buffer.contents ++ (t.content ++ later) := by
    rw [htake, hcontents, hcontent, List.append_assoc, List.append_assoc]
  rw [hstream]
  exact drain_follows (i := j.take chunk) (hceiling.trans hi.ceiling) hassembling units
    (t.content ++ later)

/-- **Reading goes along the carving of the stream**, whatever the pieces. -/
theorem receiveFrom_follows {p : Policy} {i : Inbox} (hi : i.Settled p) {source : Source}
    (hsource : source.Steady) (units : List Bytes) (total : Nat) (later : Bytes) :
    Follows p (p.carve (i.buffer.contents ++ (source.content ++ later))) units later
      (receiveFrom p record i source units total).1 := by
  unfold receiveFrom
  fun_induction reception p record i source units total with
  | case1 i source units total hnone =>
    -- The buffer is full at its largest size, which is the limit.
    have hfull := makeRoom?_eq_none hnone
    rw [hi.ceiling] at hfull
    rw [hi.ceiling, Policy.carve_append_full hi.pending hfull]
    exact .broken i (.bufferFull p.limit)
  | case2 i source units total j hj t hread =>
    obtain ⟨hcontents, -, -, hroom⟩ := makeRoom?_eq_some hj
    -- Nothing has arrived, and what stays is still to be carved.
    rcases hsource.read hroom with ⟨-, hnothing⟩ | ⟨_, hr, -⟩ | ⟨_, _, _, hr, -⟩
    · rw [hnothing, List.nil_append, ← hcontents]
      exact .idle (hi.makeRoom hj) total
    · simp [hr] at hread
    · simp [hr] at hread
  | case3 i source units total j hj detail t hread =>
    obtain ⟨-, -, -, hroom⟩ := makeRoom?_eq_some hj
    rcases hsource.read hroom with ⟨hr, -⟩ | ⟨_, hr, -⟩ | ⟨_, _, _, hr, -⟩ <;> simp [hr] at hread
  | case4 i source units total j hj t hread ih =>
    obtain ⟨hcontents, -, -, hroom⟩ := makeRoom?_eq_some hj
    rcases hsource.read hroom with ⟨hr, -⟩ | ⟨t', hr, ht, hcontent⟩ | ⟨_, _, _, hr, -⟩
    · simp [hr] at hread
    · obtain rfl : t' = t := by simpa [hr] using hread
      rw [← hcontents, ← hcontent]
      exact ih (hi.makeRoom hj) ht
    · simp [hr] at hread
  | case5 i source units total j hj t hread =>
    obtain ⟨-, -, -, hroom⟩ := makeRoom?_eq_some hj
    rcases hsource.read hroom with ⟨hr, -⟩ | ⟨_, hr, -⟩ | ⟨_, _, _, hr, -⟩ <;> simp [hr] at hread
  | case6 i source units total j hj b chunk t hread k state e hdrain =>
    -- The drain after this read failed, and the carving ends in the same way.
    have hstep := drain_take_follows hi hj hsource hread units later
    rw [hdrain] at hstep
    generalize p.carve (i.buffer.contents ++ (source.content ++ later)) = c at hstep ⊢
    cases hstep with
    | ended hc => exact .ended hc
  | case7 i source units total j hj b chunk t hread k state hdrain ih =>
    -- The units of this read are the first of the carving, and reading goes on behind them.
    have hstep := drain_take_follows hi hj hsource hread units later
    rw [hdrain] at hstep
    generalize p.carve (i.buffer.contents ++ (source.content ++ later)) = c at hstep ⊢
    cases hstep with
    | going hk hc =>
      rw [hc]
      exact (ih hk (read_bytes hj hsource hread).1).after

end Inbox

/-! ### Visits -/

/-- A visit to an inbox. -/
inductive Visit
  /-- The socket is readable, and reads find what the source gives. -/
  | readable (source : Source)
  /-- The heartbeat is due. -/
  | heartbeat

namespace Visit

/-- The bytes that arrive with a visit. -/
def content : Visit → Bytes
  | readable source => source.content
  | heartbeat => []

/-- What arrives with a visit are bytes and interruptions. -/
def Steady : Visit → Prop
  | readable source => source.Steady
  | heartbeat => True

/-- What a visit comes to. -/
def pass {σ : Type} (p : Policy) (handle : σ → Bytes → σ × Option SessionError) (i : Inbox)
    (s : σ) : Visit → Inbox.Pass σ Unit
  | readable source =>
    let call := (i.receive p handle source s).1
    ⟨call.inbox, call.state, call.result.map fun _ => ()⟩
  | heartbeat => i.drain p handle s

end Visit

/-- Visits that hand over a stream, in pieces of any size, at least one byte each, with
interruptions and pauses between them. -/
structure Hands (visits : List Visit) (stream : Bytes) : Prop where
  steady : ∀ v ∈ visits, v.Steady
  content : visits.flatMap Visit.content = stream

namespace Inbox

variable {p : Policy}

/-- Visits to an inbox one after the other, up to the first that fails. -/
def attend {σ : Type} (p : Policy) (handle : σ → Bytes → σ × Option SessionError) :
    List Visit → Inbox → σ → Pass σ Unit
  | [], i, s => ⟨i, s, .ok ()⟩
  | v :: visits, i, s =>
    match v.pass p handle i s with
    | ⟨i, s, .ok ()⟩ => attend p handle visits i s
    | ⟨i, s, .error e⟩ => ⟨i, s, .error e⟩

/-- A heartbeat where no unit is complete hands over nothing and changes nothing. -/
theorem drain_of_pending {σ : Type} {handle : σ → Bytes → σ × Option SessionError} {i : Inbox}
    (h : p.boundary i.buffer.contents = .ok .incomplete) (s : σ) :
    i.drain p handle s = ⟨i, s, .ok ()⟩ := by
  have hnothing : handOver p handle i.buffer.contents 0 s = ⟨0, s, .ok ()⟩ := by
    rw [handOver]
    split
    · next he => rw [h] at he; simp at he
    · rfl
    · next hn => rw [h] at hn; simp at hn
  rw [drain, hnothing]
  simp [release]

/-- A visit goes along the carving, and one that ends well leaves less in the buffer than may be
there. -/
theorem pass_follows {i : Inbox} (hi : i.Settled p) (hroom : i.buffer.contents.length < p.limit)
    {v : Visit} (hv : v.Steady) (units : List Bytes) (later : Bytes) :
    Follows p (p.carve (i.buffer.contents ++ (v.content ++ later))) units later
        (v.pass p record i units) ∧
      ((v.pass p record i units).result = .ok () →
        (v.pass p record i units).inbox.buffer.contents.length <
          (v.pass p record i units).inbox.buffer.ceiling) := by
  cases v with
  | heartbeat =>
    rw [Visit.pass, drain_of_pending hi.pending, hi.ceiling]
    exact ⟨.idle hi (), fun _ => hroom⟩
  | readable source =>
    have hcall := receiveFrom_follows hi hv units 0 later
    have hleft : ∀ n, (receiveFrom p record i source units 0).1.result = .ok n → _ :=
      fun n hn => length_contents_lt_of_room (room_pos_of_receiveFrom hn)
    simp only [Visit.pass, Visit.content, receive]
    generalize (receiveFrom p record i source units 0).1 = call at hcall hleft ⊢
    cases hcall with
    | going hj hc => exact ⟨.going hj hc, fun _ => hleft _ rfl⟩
    | ended hc => exact ⟨.ended hc, fun h => by simp [Except.map] at h⟩

/-- Visits go along the carving to its end.  The induction is on the visits; between two of them the
inbox is settled and has room. -/
theorem attend_follows (visits : List Visit) (hsteady : ∀ v ∈ visits, v.Steady) {i : Inbox}
    (hi : i.Settled p) (hroom : i.buffer.contents.length < p.limit) (units : List Bytes) :
    Follows p (p.carve (i.buffer.contents ++ visits.flatMap Visit.content)) units []
        (attend p record visits i units) ∧
      ((attend p record visits i units).result = .ok () →
        (attend p record visits i units).inbox.buffer.contents.length < p.limit) := by
  induction visits generalizing i units with
  | nil => exact ⟨.idle hi (), fun _ => hroom⟩
  | cons v visits ih =>
    have hv := hsteady v (List.mem_cons_self ..)
    have hvisits : ∀ v' ∈ visits, v'.Steady := fun v' hv' =>
      hsteady v' (List.mem_cons_of_mem v hv')
    obtain ⟨hpass, hleft⟩ := pass_follows hi hroom hv units (visits.flatMap Visit.content)
    rw [attend, List.flatMap_cons]
    generalize p.carve (i.buffer.contents ++ (v.content ++ visits.flatMap Visit.content)) = c
      at hpass ⊢
    generalize v.pass p record i units = call at hpass hleft ⊢
    cases hpass with
    | @going j new a hj hc =>
      have hroom' : j.buffer.contents.length < p.limit := by
        rw [← hj.ceiling]
        exact hleft rfl
      obtain ⟨hrest, hend⟩ := ih hvisits hj hroom' (units ++ new)
      rw [hc]
      exact ⟨hrest.after, hend⟩
    | ended hc => exact ⟨.ended hc, fun h => by simp at h⟩

/-- What visits to a new inbox come to, with the units written down. -/
def reading (p : Policy) (initial : Nat) (visits : List Visit) : Pass (List Bytes) Unit :=
  attend p record visits (new initial p.limit) []

/-- **Reading comes to the carving of the stream**: the units of the carving are handed over, and
reading ends as the carving does, with what is left of the stream in the buffer. -/
theorem carve_eq_reading (hlimit : 1 ≤ p.limit) {visits : List Visit} {stream : Bytes}
    (h : Hands visits stream) (initial : Nat) :
    p.carve stream =
        ⟨(reading p initial visits).state,
          (reading p initial visits).result.map fun _ =>
            (reading p initial visits).inbox.buffer.contents⟩ ∧
      ((reading p initial visits).result = .ok () →
        (reading p initial visits).inbox.Settled p) := by
  have hroom : (new initial p.limit).buffer.contents.length < p.limit := hlimit
  obtain ⟨hfollows, hleft⟩ :=
    attend_follows visits h.steady (settled_new p hlimit initial) hroom []
  have hstart : (new initial p.limit).buffer.contents ++ visits.flatMap Visit.content = stream :=
    h.content
  rw [hstart] at hfollows
  unfold reading
  generalize attend p record visits (new initial p.limit) [] = run at hfollows hleft ⊢
  cases hfollows with
  | @going i units a hi hc =>
    rw [List.append_nil, Policy.carve_of_incomplete hi.pending (hleft rfl)] at hc
    exact ⟨by simpa [Carving.after, Except.map] using hc, fun _ => hi⟩
  | ended hc => exact ⟨by simpa [Except.map] using hc, fun h => by simp at h⟩

/-- **Reading does not depend on the pieces**, nor on the visits and the capacity to start with.
Two readings of one stream hand over the same units in the same order, and either both take in the
whole stream and keep the same bytes, or both end with the same error, which is a violation of the
protocol or a full buffer. -/
theorem reading_chunking (p : Policy) (hlimit : 1 ≤ p.limit) {stream : Bytes}
    {visits visits' : List Visit} (h : Hands visits stream) (h' : Hands visits' stream)
    (initial initial' : Nat) :
    (reading p initial visits).state = (reading p initial' visits').state ∧
      (((reading p initial visits).result = .ok () ∧ (reading p initial' visits').result = .ok () ∧
          (reading p initial visits).state.flatten ++
            (reading p initial visits).inbox.buffer.contents = stream ∧
          (reading p initial visits).inbox.buffer.contents =
            (reading p initial' visits').inbox.buffer.contents ∧
          (reading p initial visits).inbox.buffer.filled =
            (reading p initial' visits').inbox.buffer.filled ∧
          (reading p initial visits).inbox.assembling =
            (reading p initial' visits').inbox.assembling) ∨
        ∃ e, (reading p initial visits).result = .error e ∧
          (reading p initial' visits').result = .error e ∧
          ((∃ cause, e = .protocol cause) ∨ e = .bufferFull p.limit)) := by
  obtain ⟨hcarve, hsettled⟩ := carve_eq_reading hlimit h initial
  obtain ⟨hcarve', hsettled'⟩ := carve_eq_reading hlimit h' initial'
  generalize reading p initial visits = run at *
  generalize reading p initial' visits' = run' at *
  have hsame := hcarve.symm.trans hcarve'
  rw [Carving.mk.injEq] at hsame
  obtain ⟨hunits, hresult⟩ := hsame
  refine ⟨hunits, ?_⟩
  cases hr : run.result with
  | error e =>
    cases hr' : run'.result with
    | ok => simp [hr, hr', Except.map] at hresult
    | error e' =>
      obtain rfl : e = e' := by simpa [hr, hr', Except.map] using hresult
      refine .inr ⟨e, rfl, rfl, Policy.carve_error_cases p stream ?_⟩
      rw [hcarve, hr]
      rfl
  | ok =>
    cases hr' : run'.result with
    | error e' => simp [hr, hr', Except.map] at hresult
    | ok =>
      have hcontents : run.inbox.buffer.contents = run'.inbox.buffer.contents := by
        simpa [hr, hr', Except.map] using hresult
      refine .inl ⟨rfl, rfl, ?_, hcontents, ?_, ?_⟩
      · have hwhole := Policy.carve_append_eq p stream
        rw [hcarve, hr] at hwhole
        exact hwhole _ rfl
      · rw [← Buffer.length_contents, ← Buffer.length_contents, hcontents]
      · rw [(hsettled hr).assembling, (hsettled' hr').assembling, hcontents]

/-- A ping that arrives in three pieces with the beginning of a pong behind it is handed over as it
is when all of this arrives at once. -/
theorem reading_chunking_ping :
    (reading ⟨64, true, ""⟩ 1
        [.readable ⟨[.bytes [0x89, 0x80, 1], .interrupted], false⟩, .heartbeat,
          .readable ⟨[.bytes [2], .bytes [3, 4, 0x8A, 0x80]], false⟩]).state =
        [[0x89, 0x80, 1, 2, 3, 4]] ∧
      (reading ⟨64, true, ""⟩ 16
        [.readable ⟨[.bytes [0x89, 0x80, 1, 2, 3, 4, 0x8A, 0x80]], false⟩]).state =
        [[0x89, 0x80, 1, 2, 3, 4]] := by
  have hpieces : Hands
      [.readable ⟨[.bytes [0x89, 0x80, 1], .interrupted], false⟩, .heartbeat,
        .readable ⟨[.bytes [2], .bytes [3, 4, 0x8A, 0x80]], false⟩]
      [0x89, 0x80, 1, 2, 3, 4, 0x8A, 0x80] := by
    refine ⟨?_, rfl⟩
    rintro v (_ | ⟨_, _ | ⟨_, _ | ⟨_, ⟨⟩⟩⟩⟩)
    · exact ⟨rfl, by simp⟩
    · trivial
    · exact ⟨rfl, by simp⟩
  have hwhole : Hands [.readable ⟨[.bytes [0x89, 0x80, 1, 2, 3, 4, 0x8A, 0x80]], false⟩]
      [0x89, 0x80, 1, 2, 3, 4, 0x8A, 0x80] := by
    refine ⟨?_, rfl⟩
    rintro v (_ | ⟨_, ⟨⟩⟩)
    exact ⟨rfl, by simp⟩
  have hsame := (reading_chunking ⟨64, true, ""⟩ (by decide) hpieces hwhole 1 16).1
  have hunits : (reading ⟨64, true, ""⟩ 16
      [.readable ⟨[.bytes [0x89, 0x80, 1, 2, 3, 4, 0x8A, 0x80]], false⟩]).state =
      [[0x89, 0x80, 1, 2, 3, 4]] := by decide +kernel
  exact ⟨hsame.trans hunits, hunits⟩

end Inbox

end WebSocket
