import WebSocket.Proofs.Session.Chunking
import WebSocket.Proofs.Session.Renaming

/-!
# The reads of an inbox

An inbox is read into, drained, grown and shrunk, and any of this may end early: the socket fails or
ends, a unit is refused, or the buffer is as large as it may be.  However it ends, nothing that was
read is lost or handed over twice, and the buffer is no larger than it must be once it is empty.  A
read without room for a byte would find no byte and so look like the end of the connection; no such
read is ever made.

## Main definitions

* `Inbox.attendReads` — the reads that visits make, with the room for each and what it found.
* `Inbox.Answer`, `Inbox.noting` — a handler with its answers written down.
* `Inbox.Fit` — what holds of an inbox between any two steps.
* `Inbox.Visited` — what visits come to.

## Main results

* `Inbox.Fit.release`, `Inbox.Fit.receiveFrom` — an inbox stays fit.
* `Inbox.reception_spec`, `Inbox.reception_of_peerClosed` — what the reads of a call find.
* `Inbox.attend_invariants` — **what holds after any visits to an inbox.**
-/

namespace WebSocket

namespace Inbox

/-! ### The inbox between two steps -/

/-- What holds of an inbox between any two steps: it starts with room for `least` bytes and has room
for `most` of them at most, it has as much as at the start when it is empty, and a unit is half
received when there are bytes. -/
structure Fit (least most : Nat) (i : Inbox) : Prop where
  initial : i.buffer.initial = least
  ceiling : i.buffer.ceiling = most
  shrunk : i.buffer.filled = 0 → i.buffer.capacity = least
  assembling : i.assembling = !i.buffer.contents.isEmpty

variable {least most : Nat} {i j : Inbox}

theorem fit_new (initial ceiling : Nat) :
    (new initial ceiling).Fit (max 1 (min initial (max ceiling 1))) (max ceiling 1) where
  initial := rfl
  ceiling := rfl
  shrunk := fun _ => List.length_replicate
  assembling := rfl

/-- An inbox grows only when it is full, and so not when it is empty. -/
theorem Fit.makeRoom (h : i.Fit least most) (hj : i.makeRoom? = some j) : j.Fit least most := by
  obtain ⟨hcontents, hceiling, hassembling, -⟩ := makeRoom?_eq_some hj
  have hfilled : j.buffer.filled = i.buffer.filled := by
    rw [← Buffer.length_contents, hcontents, Buffer.length_contents]
  unfold makeRoom? at hj
  split at hj
  · next hfull =>
    obtain ⟨c, hgrow, rfl⟩ := Option.map_eq_some_iff.1 hj
    rw [Buffer.isFull, beq_iff_eq] at hfull
    have hpos := i.buffer.capacity_pos
    refine ⟨(Buffer.initial_grow? hgrow).trans h.initial, hceiling.trans h.ceiling,
      fun hempty => ?_, ?_⟩
    · -- A full buffer has bytes, so it is not empty when it has grown.
      omega
    · rw [hassembling, hcontents]
      exact h.assembling
  · obtain rfl : i = j := by simpa using hj
    exact h

theorem Fit.take (h : i.Fit least most) {chunk : Bytes} (hne : chunk ≠ [])
    (hroom : chunk.length ≤ i.buffer.room) : (i.take chunk).Fit least most := by
  have hcontents := contents_take hroom
  have hlength : 0 < (i.take chunk).buffer.contents.length := by
    rw [hcontents, List.length_append]
    exact Nat.lt_of_lt_of_le (List.length_pos_iff.2 hne) (Nat.le_add_left ..)
  refine ⟨h.initial, h.ceiling, fun hempty => ?_, ?_⟩
  · rw [Buffer.length_contents] at hlength
    omega
  · rw [assembling_take, List.isEmpty_eq_false_iff.2 (List.ne_nil_of_length_pos hlength)]
    rfl

/-- Bytes that are handed over make room, and an empty inbox shrinks back. -/
theorem Fit.release (h : i.Fit least most) (n : Nat) : (i.release n).Fit least most := by
  refine ⟨?_, (ceiling_release i n).trans h.ceiling, ?_, assembling_release h.assembling n⟩
  · unfold Inbox.release
    repeat' split
    all_goals exact h.initial
  · unfold Inbox.release
    split
    · exact h.shrunk
    · split
      · exact fun _ => (Buffer.capacity_reset _).trans h.initial
      · next hzero hless =>
        -- Bytes are left, for less was handed over than there was.
        intro hempty
        rw [Buffer.filled_consume] at hempty
        omega

variable {σ : Type} {p : Policy} {handle : σ → Bytes → σ × Option SessionError}

theorem Fit.drain (h : i.Fit least most) (p : Policy)
    (handle : σ → Bytes → σ × Option SessionError) (s : σ) :
    (drain p handle i s).inbox.Fit least most := h.release _

/-- An inbox stays fit while it is read into.  The induction is on the reads. -/
theorem Fit.receiveFrom (h : i.Fit least most) (p : Policy)
    (handle : σ → Bytes → σ × Option SessionError) (source : Source) (s : σ) (total : Nat) :
    (receiveFrom p handle i source s total).1.inbox.Fit least most := by
  unfold Inbox.receiveFrom
  fun_induction Inbox.reception p handle i source s total with
  | case1 => exact h
  | case2 i source s total j hj => exact h.makeRoom hj
  | case3 i source s total j hj => exact h.makeRoom hj
  | case4 i source s total j hj t hread ih => exact ih (h.makeRoom hj)
  | case5 i source s total j hj => exact h.makeRoom hj
  | case6 i source s total j hj b chunk t hread k state e hdrain =>
    have htaken := (h.makeRoom hj).take (List.cons_ne_nil b chunk) (Source.length_read_le hread)
    have hdrained := htaken.drain p handle s
    rwa [hdrain] at hdrained
  | case7 i source s total j hj b chunk t hread k state hdrain ih =>
    have htaken := (h.makeRoom hj).take (List.cons_ne_nil b chunk) (Source.length_read_le hread)
    have hdrained := htaken.drain p handle s
    rw [hdrain] at hdrained
    exact ih hdrained

/-! ### The reads of a call -/

/-- The bytes that reads found, in order. -/
def Read.content (reads : List Read) : Bytes := reads.flatMap fun r => r.found.content

theorem Read.content_append (reads later : List Read) :
    content (reads ++ later) = content reads ++ content later :=
  List.flatMap_append

/-- The reads of a call find what the source no longer gives, and there is room for every one of
them.  The induction is on the reads. -/
theorem reception_spec (p : Policy) (handle : σ → Bytes → σ × Option SessionError) (i : Inbox)
    (source : Source) (s : σ) (total : Nat) :
    source.content = Read.content (reception p handle i source s total).reads ++
        (reception p handle i source s total).source.content ∧
      ∀ r ∈ (reception p handle i source s total).reads, 0 < r.room := by
  fun_induction reception p handle i source s total with
  | case1 => exact ⟨rfl, by simp⟩
  | case2 i source s total j hj t hread =>
    obtain ⟨-, -, -, hroom⟩ := makeRoom?_eq_some hj
    exact ⟨(Source.content_read_of_ne hread (by simp)).symm, by simpa using hroom⟩
  | case3 i source s total j hj detail t hread =>
    obtain ⟨-, -, -, hroom⟩ := makeRoom?_eq_some hj
    exact ⟨(Source.content_read_of_ne hread (by simp)).symm, by simpa using hroom⟩
  | case4 i source s total j hj t hread ih =>
    obtain ⟨-, -, -, hroom⟩ := makeRoom?_eq_some hj
    have hcontent := Source.content_read_of_ne hread (by simp)
    exact ⟨hcontent.symm.trans ih.1, List.forall_mem_cons.2 ⟨hroom, ih.2⟩⟩
  | case5 i source s total j hj t hread =>
    obtain ⟨-, -, -, hroom⟩ := makeRoom?_eq_some hj
    exact ⟨Source.content_read hread, by simpa using hroom⟩
  | case6 i source s total j hj b chunk t hread k state e hdrain =>
    obtain ⟨-, -, -, hroom⟩ := makeRoom?_eq_some hj
    refine ⟨?_, by simpa using hroom⟩
    simpa [Read.content, Arrival.content] using Source.content_read hread
  | case7 i source s total j hj b chunk t hread k state hdrain ih =>
    obtain ⟨-, -, -, hroom⟩ := makeRoom?_eq_some hj
    refine ⟨?_, List.forall_mem_cons.2 ⟨hroom, ih.2⟩⟩
    rw [Source.content_read hread, ih.1]
    simp [Reception.behind, Read.content, Arrival.content]

/-! ### The answers of a handler -/

/-- A unit that was handed over, and why it was refused, if it was. -/
structure Answer where
  unit : Bytes
  refusal : Option SessionError

/-- The bytes of the units that were not refused, in order. -/
def Answer.taken (answers : List Answer) : Bytes :=
  (answers.filter fun a => a.refusal.isNone).flatMap Answer.unit

theorem Answer.taken_append (answers more : List Answer) :
    taken (answers ++ more) = taken answers ++ taken more := by
  rw [taken, List.filter_append, List.flatMap_append]
  rfl

theorem Answer.taken_accepted (units : List Bytes) :
    taken (units.map fun unit => ⟨unit, none⟩) = units.flatten := by
  induction units with
  | nil => rfl
  | cons unit units ih => exact congrArg (unit ++ ·) ih

/-- A handler that also writes down its answers. -/
def noting (handle : σ → Bytes → σ × Option SessionError) (s : σ × List Answer) (unit : Bytes) :
    (σ × List Answer) × Option SessionError :=
  let (t, refusal) := handle s.1 unit
  ((t, s.2 ++ [⟨unit, refusal⟩]), refusal)

/-- Writing down the answers changes none of them. -/
theorem simulates_noting (handle : σ → Bytes → σ × Option SessionError) :
    Simulates (fun s t => t.1 = s) handle (noting handle) := by
  rintro s t unit rfl
  exact ⟨rfl, rfl⟩

theorem accepts_noting {s t : σ × List Answer} {units : List Bytes}
    (h : Accepts (noting handle) s units t) :
    t.2 = s.2 ++ units.map fun unit => ⟨unit, none⟩ := by
  induction h with
  | nil => exact (List.append_nil _).symm
  | @cons s t u unit units ht _ ih =>
    obtain ⟨rfl, hrefusal⟩ := Prod.mk.inj ht
    rw [ih, hrefusal, List.append_assoc]
    rfl

/-- A unit that was refused is the last that was handed over. -/
theorem noting_refused {s t : σ × List Answer} {unit : Bytes} {e : SessionError}
    (h : noting handle s unit = (t, some e)) : t.2 = s.2 ++ [⟨unit, some e⟩] := by
  obtain ⟨rfl, hrefusal⟩ := Prod.mk.inj h
  rw [← hrefusal]

/-- A unit that was refused is not one of those that were taken. -/
theorem Ended.taken {α : Type} {t u : σ × List Answer} {rest : Bytes} {caughtUp : Prop}
    {result : Except SessionError α} (h : Ended p (noting handle) t rest caughtUp u result) :
    Answer.taken u.2 = Answer.taken t.2 := by
  cases h with
  | refused hn he =>
    rw [noting_refused he, Answer.taken_append]
    exact List.append_nil _
  | violated he => rfl
  | rested hrest hresult => rfl

/-- Where draining fails and the bytes are no violation of the protocol, the last unit was
refused. -/
theorem exists_refused_of_drain {s : σ × List Answer} {e : SessionError}
    (h : (drain p (noting handle) i s).result = .error e) (he : ∀ cause, e ≠ .protocol cause) :
    ∃ unit, (drain p (noting handle) i s).state.2.getLast? = some ⟨unit, some e⟩ := by
  obtain ⟨units, t, -, -, hstopped⟩ := drain_spec p (noting handle) i s
  rw [h] at hstopped
  generalize (drain p (noting handle) i s).inbox.buffer.contents = rest at hstopped
  generalize (drain p (noting handle) i s).state = state at hstopped ⊢
  cases hstopped with
  | violated => exact absurd rfl (he _)
  | refused hn hrefused =>
    rw [noting_refused hrefused]
    exact ⟨_, List.getLast?_concat ..⟩

/-- **A connection is taken for ended only where it has ended**: if a call says so, then either the
last unit was refused with these words, or the last read found the end. -/
theorem reception_of_peerClosed {source : Source} {s : σ × List Answer} {total : Nat}
    (h : (reception p (noting handle) i source s total).pass.result = .error .peerClosed) :
    (∃ unit, (reception p (noting handle) i source s total).pass.state.2.getLast? =
        some ⟨unit, some .peerClosed⟩) ∨
      ∃ before room, (reception p (noting handle) i source s total).reads =
        before ++ [⟨room, .bytes []⟩] := by
  fun_induction reception p (noting handle) i source s total with
  | case1 | case2 | case3 => simp at h
  | case4 i source s total j hj t hread ih =>
    refine (ih h).imp_right ?_
    rintro ⟨before, room, hlast⟩
    exact ⟨_ :: before, room, congrArg (List.cons _) hlast⟩
  | case5 => exact .inr ⟨[], _, rfl⟩
  | case6 i source s total j hj b chunk t hread k state e hdrain =>
    -- This is no violation of the protocol, so it was the handler that failed.
    obtain rfl : e = .peerClosed := by simpa using h
    have hrefused := exists_refused_of_drain (congrArg Pass.result hdrain) (by simp)
    rw [hdrain] at hrefused
    exact .inl hrefused
  | case7 i source s total j hj b chunk t hread k state hdrain ih =>
    refine (ih h).imp_right ?_
    rintro ⟨before, room, hlast⟩
    exact ⟨_ :: before, room, congrArg (List.cons _) hlast⟩

/-! ### Visits -/

/-- The reads of a visit. -/
def visitReads (p : Policy) (handle : σ → Bytes → σ × Option SessionError) (i : Inbox) (s : σ) :
    Visit → List Read
  | .readable source => (reception p handle i source s 0).reads
  | .heartbeat => []

/-- The reads of visits one after the other, up to the first that fails. -/
def attendReads (p : Policy) (handle : σ → Bytes → σ × Option SessionError) :
    List Visit → Inbox → σ → List Read
  | [], _, _ => []
  | v :: visits, i, s =>
    visitReads p handle i s v ++
      match v.pass p handle i s with
      | ⟨i, s, .ok ()⟩ => attendReads p handle visits i s
      | ⟨_, _, .error _⟩ => []

/-- What visits come to that found an inbox without a complete unit, and these answers already
written down. -/
structure Visited (p : Policy) (least most : Nat) (i : Inbox) (answers : List Answer)
    (reads : List Read) (pass : Pass (σ × List Answer) Unit) : Prop where
  fit : pass.inbox.Fit least most
  /-- The units that were taken and the bytes that stay are what was read. -/
  kept : Answer.taken pass.state.2 ++ pass.inbox.buffer.contents =
    Answer.taken answers ++ (i.buffer.contents ++ Read.content reads)
  room : ∀ r ∈ reads, 0 < r.room
  closed : pass.result = .error .peerClosed →
    (∃ unit, pass.state.2.getLast? = some ⟨unit, some .peerClosed⟩) ∨
      ∃ before room, reads = before ++ [⟨room, .bytes []⟩]
  caughtUp : pass.result = .ok () → p.boundary pass.inbox.buffer.contents = .ok .incomplete

/-- Units cut off the front of the bytes, and the end of the call: nothing is lost. -/
theorem taken_append_eq {α : Type} {s t u : σ × List Answer} {data rest : Bytes}
    {units : List Bytes} {caughtUp : Prop} {result : Except SessionError α}
    (hcarved : Carved p data units rest) (haccepts : Accepts (noting handle) s units t)
    (hended : Ended p (noting handle) t rest caughtUp u result) :
    Answer.taken u.2 ++ rest = Answer.taken s.2 ++ data := by
  rw [hended.taken, accepts_noting haccepts, Answer.taken_append, Answer.taken_accepted,
    List.append_assoc, hcarved.append_eq]

/-- A call that ended well and has caught up left no complete unit. -/
theorem Ended.pending {α : Type} {t u : σ} {rest : Bytes} {caughtUp : Prop} {a : α}
    (h : Ended p handle t rest caughtUp u (.ok a)) (hcaught : caughtUp) :
    p.boundary rest = .ok .incomplete := by
  cases h with
  | rested hrest hresult => exact hrest hcaught

/-- One visit. -/
theorem visited_pass (hi : i.Fit least most)
    (hpending : p.boundary i.buffer.contents = .ok .incomplete) (s : σ × List Answer)
    (v : Visit) :
    Visited p least most i s.2 (visitReads p (noting handle) i s v)
      (v.pass p (noting handle) i s) := by
  cases v with
  | heartbeat =>
    obtain ⟨units, t, hcarved, haccepts, hstopped⟩ := drain_spec p (noting handle) i s
    have hended : Ended p (noting handle) t _ True _ _ := hstopped.ended
    refine ⟨hi.drain p _ s, ?_, by simp [visitReads], fun hclosed => ?_, fun hok => ?_⟩
    · have hkept := taken_append_eq hcarved haccepts hended
      rwa [← List.append_nil i.buffer.contents] at hkept
    · exact .inl (exists_refused_of_drain hclosed (by simp))
    · change (drain p (noting handle) i s).result = .ok () at hok
      rw [hok] at hended
      exact hended.pending trivial
  | readable source =>
    obtain ⟨arrived, units, t, hcontent, hcarved, haccepts, hended⟩ :=
      receiveFrom_spec p (noting handle) i source s 0
    obtain ⟨hreads, hroom⟩ := reception_spec p (noting handle) i source s 0
    -- What arrived is what the reads found, for both are what the source no longer gives.
    obtain rfl : arrived = Read.content (reception p (noting handle) i source s 0).reads :=
      List.append_cancel_right (hcontent.symm.trans hreads)
    refine ⟨hi.receiveFrom p _ source s 0, taken_append_eq hcarved haccepts hended, hroom,
      fun hclosed => reception_of_peerClosed (eq_error_of_map hclosed), fun hok => ?_⟩
    simp only [Visit.pass, receive] at hok
    cases hresult : (receiveFrom p (noting handle) i source s 0).1.result with
    | error e => simp [hresult, Except.map] at hok
    | ok n =>
      rw [hresult] at hended
      exact hended.pending (.inr hpending)

/-- Visits one after the other. -/
theorem Visited.after {j : Inbox} {answers more : List Answer} {reads later : List Read}
    {s : σ} {run : Pass (σ × List Answer) Unit}
    (h : Visited p least most i answers reads ⟨j, (s, more), .ok ()⟩)
    (hrun : Visited p least most j more later run) :
    Visited p least most i answers (reads ++ later) run where
  fit := hrun.fit
  kept := by
    rw [hrun.kept, ← List.append_assoc, h.kept, Read.content_append, List.append_assoc,
      List.append_assoc]
  room := by
    intro r hr
    rcases List.mem_append.1 hr with hr | hr
    · exact h.room r hr
    · exact hrun.room r hr
  closed := by
    intro hclosed
    refine (hrun.closed hclosed).imp_right ?_
    rintro ⟨before, room, rfl⟩
    exact ⟨reads ++ before, room, (List.append_assoc ..).symm⟩
  caughtUp := hrun.caughtUp

/-- Visits to an inbox without a complete unit.  The induction is on the visits; each finds none
because the one before it ended well. -/
theorem visited_attend (visits : List Visit) (hi : i.Fit least most)
    (hpending : p.boundary i.buffer.contents = .ok .incomplete) (s : σ × List Answer) :
    Visited p least most i s.2 (attendReads p (noting handle) visits i s)
      (attend p (noting handle) visits i s) := by
  induction visits generalizing i s with
  | nil =>
    refine ⟨hi, ?_, by simp [attendReads], by simp [attend], fun _ => hpending⟩
    show Answer.taken s.2 ++ i.buffer.contents = Answer.taken s.2 ++ (i.buffer.contents ++ [])
    rw [List.append_nil]
  | cons v visits ih =>
    have hv : Visited p least most i s.2 (visitReads p (noting handle) i s v)
        (v.pass p (noting handle) i s) := visited_pass hi hpending s v
    rw [attendReads, attend]
    generalize v.pass p (noting handle) i s = call at hv ⊢
    obtain ⟨j, ⟨t, more⟩, result⟩ := call
    cases result with
    | error e =>
      -- Nothing is read after a visit that failed.
      rw [List.append_nil]
      exact hv
    | ok => exact hv.after (ih hv.fit (hv.caughtUp rfl) (t, more))

section

variable {τ : Type} {R : σ → τ → Prop} {f : σ → Bytes → σ × Option SessionError}
  {g : τ → Bytes → τ × Option SessionError}

/-- A visit with two handlers side by side. -/
theorem pass_simulates (hfg : Simulates R f g) (v : Visit) (i : Inbox) {s : σ} {t : τ}
    (hst : R s t) : (v.pass p f i s).Simulates R (v.pass p g i t) := by
  cases v with
  | heartbeat => exact drain_simulates hfg i hst
  | readable source =>
    obtain ⟨⟨hinbox, hresult, hstate⟩, -⟩ := receiveFrom_simulates (p := p) hfg i source hst 0
    exact ⟨hinbox, congrArg (Except.map fun _ => ()) hresult, hstate⟩

/-- Visits with two handlers side by side. -/
theorem attend_simulates (hfg : Simulates R f g) (visits : List Visit) (i : Inbox) {s : σ} {t : τ}
    (hst : R s t) : (attend p f visits i s).Simulates R (attend p g visits i t) := by
  induction visits generalizing i s t with
  | nil => exact ⟨rfl, rfl, hst⟩
  | cons v visits ih =>
    obtain ⟨hinbox, hresult, hstate⟩ := pass_simulates (p := p) hfg v i hst
    rw [attend, attend]
    generalize v.pass p f i s = a at hinbox hresult hstate ⊢
    generalize v.pass p g i t = b at hinbox hresult hstate ⊢
    obtain ⟨j, s', result⟩ := a
    obtain ⟨k, t', result'⟩ := b
    obtain rfl : k = j := hinbox
    obtain rfl : result' = result := hresult
    cases result' with
    | ok => exact ih k hstate
    | error e => exact ⟨rfl, rfl, hstate⟩

end

/-- **What holds after any visits to an inbox**, whatever the limit and the capacities, whatever the
reads find, and whoever takes the units and refuses one of them:

* the units that were taken and the bytes that stay are exactly what was read;
* a unit is half received exactly if there are bytes;
* the capacity is between the one to start with and the ceiling, and the one to start with when
  there are no bytes, where the ceiling counts as one byte at least;
* there is room for every read, and so the connection is taken for ended only if the last read found
  its end, or a unit was refused with these words;
* where every visit ended well no unit is complete, and a heartbeat hands over nothing and changes
  nothing. -/
theorem attend_invariants (p : Policy) (initial ceiling : Nat)
    (handle : σ → Bytes → σ × Option SessionError) (s : σ) (visits : List Visit) :
    let run := attend p (noting handle) visits (new initial ceiling) (s, [])
    let reads := attendReads p (noting handle) visits (new initial ceiling) (s, [])
    let least := max 1 (min initial (max ceiling 1))
    attend p handle visits (new initial ceiling) s = ⟨run.inbox, run.state.1, run.result⟩ ∧
      Answer.taken run.state.2 ++ run.inbox.buffer.contents = Read.content reads ∧
      (run.inbox.assembling = true ↔ 0 < run.inbox.buffer.filled) ∧
      (least ≤ run.inbox.buffer.capacity ∧ run.inbox.buffer.capacity ≤ max ceiling 1 ∧
        (run.inbox.buffer.filled = 0 → run.inbox.buffer.capacity = least)) ∧
      ((∀ r ∈ reads, 0 < r.room) ∧ (run.result = .error .peerClosed →
        (∃ unit, run.state.2.getLast? = some ⟨unit, some .peerClosed⟩) ∨
          ∃ before room, reads = before ++ [⟨room, .bytes []⟩])) ∧
      (run.result = .ok () → p.boundary run.inbox.buffer.contents = .ok .incomplete ∧
        ∀ (handle : σ → Bytes → σ × Option SessionError) (t : σ),
          run.inbox.drain p handle t = ⟨run.inbox, t, .ok ()⟩) := by
  intro run reads least
  have hstart : p.boundary (new initial ceiling).buffer.contents = .ok .incomplete :=
    Policy.boundary_of_undecided ⟨List.nil_prefix, Nat.succ_pos 2⟩
  have hvisited : Visited p least (max ceiling 1) (new initial ceiling) [] reads run :=
    visited_attend visits (fit_new initial ceiling) hstart (s, [])
  have hplain : attend p handle visits (new initial ceiling) s =
      ⟨run.inbox, run.state.1, run.result⟩ := by
    have hst : (s, ([] : List Answer)).1 = s := rfl
    obtain ⟨hinbox, hresult, hstate⟩ : (attend p handle visits (new initial ceiling) s).Simulates
        (fun s t => t.1 = s) run := attend_simulates (simulates_noting handle) visits _ hst
    rw [hinbox, hresult, hstate]
  obtain ⟨hfit, hkept, hroom, hclosed, hcaughtUp⟩ := hvisited
  refine ⟨hplain, hkept, ?_, ⟨?_, ?_, hfit.shrunk⟩, ⟨hroom, hclosed⟩, fun hok => ?_⟩
  · rw [hfit.assembling, ← Buffer.length_contents, List.length_pos_iff, Bool.not_eq_true',
      List.isEmpty_eq_false_iff]
  · rw [← hfit.initial]
    exact run.inbox.buffer.initial_le
  · rw [← hfit.ceiling]
    exact run.inbox.buffer.storage_le
  · exact ⟨hcaughtUp hok, fun handle t => drain_of_pending (hcaughtUp hok) t⟩

/-- A ceiling of zero does not keep the buffer from having room for a byte. -/
theorem capacity_of_no_ceiling :
    ¬ (attend ⟨64, true, ""⟩ record [.heartbeat] (new 1 0) []).inbox.buffer.capacity ≤ 0 := by
  decide +kernel

end Inbox

end WebSocket
