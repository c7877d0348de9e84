import WebSocket.Proofs.Session.Units

/-!
# Receiving

An inbox is read into and drained, whoever takes its units and whatever reading finds: units may be
refused, the socket may fail or end, and the buffer may have no room.  In every case the units that
were taken are cut off the front of the bytes that arrived, and the other bytes stay.

## Main definitions

* `SessionError.IsTransport` — errors of the socket and the buffer.
* `Inbox.Ended` — how a call ended.

## Main results

* `Inbox.makeRoom?_eq_none`, `Inbox.makeRoom?_eq_some` — when there is room.
* `Inbox.drain_spec`, `Inbox.receiveFrom_spec` — **what draining and reading come to.**
-/

namespace WebSocket

/-- The socket or the buffer is the cause. -/
def SessionError.IsTransport : SessionError → Prop
  | .io _ | .peerClosed | .bufferFull _ | .writeZero => True
  | .protocol _ | .outboxFull _ | .closed | .panicked _ => False

namespace Inbox

/-- An inbox finds no room when its buffer holds as many bytes as it may. -/
theorem makeRoom?_eq_none {i : Inbox} (h : i.makeRoom? = none) :
    i.buffer.contents.length = i.buffer.ceiling := by
  unfold makeRoom? at h
  split at h
  · next hfull =>
    have hgrow : i.buffer.capacity = i.buffer.ceiling :=
      Buffer.grow?_eq_none.1 (Option.map_eq_none_iff.1 h)
    rw [Buffer.isFull, beq_iff_eq] at hfull
    rw [Buffer.length_contents, hfull, hgrow]
  · simp at h

/-- An inbox with room is the same inbox, with room for a byte. -/
theorem makeRoom?_eq_some {i j : Inbox} (h : i.makeRoom? = some j) :
    j.buffer.contents = i.buffer.contents ∧ j.buffer.ceiling = i.buffer.ceiling ∧
      j.assembling = i.assembling ∧ 0 < j.buffer.room := by
  unfold makeRoom? at h
  split at h
  · next hfull =>
    obtain ⟨c, hgrow, rfl⟩ := Option.map_eq_some_iff.1 h
    have hlt := Buffer.capacity_lt_grow? hgrow
    have hfilled := Buffer.filled_grow? hgrow
    rw [Buffer.isFull, beq_iff_eq] at hfull
    refine ⟨Buffer.contents_grow? hgrow, Buffer.ceiling_grow? hgrow, rfl, ?_⟩
    simp only [Buffer.room]
    omega
  · next hfull =>
    obtain rfl : i = j := by simpa using h
    have hle : i.buffer.filled ≤ i.buffer.capacity := i.buffer.filled_le
    rw [Buffer.isFull, beq_iff_eq] at hfull
    refine ⟨rfl, rfl, rfl, ?_⟩
    simp only [Buffer.room]
    omega

/-- Where there is room, less is buffered than may be. -/
theorem length_contents_lt_of_room {i : Inbox} (h : 0 < i.buffer.room) :
    i.buffer.contents.length < i.buffer.ceiling := by
  have hle : i.buffer.capacity ≤ i.buffer.ceiling := i.buffer.storage_le
  rw [Buffer.length_contents]
  simp only [Buffer.room] at h
  omega

theorem contents_take {i : Inbox} {chunk : Bytes} (h : chunk.length ≤ i.buffer.room) :
    (i.take chunk).buffer.contents = i.buffer.contents ++ chunk := by
  rw [take, Buffer.contents_put, List.take_of_length_le h]

@[simp] theorem assembling_take (i : Inbox) (chunk : Bytes) : (i.take chunk).assembling = true :=
  rfl

theorem ceiling_release (i : Inbox) (n : Nat) :
    (i.release n).buffer.ceiling = i.buffer.ceiling := by
  unfold release
  repeat' split
  all_goals rfl

/-- A unit is half received when bytes are left, as it was before. -/
theorem assembling_release {i : Inbox} (h : i.assembling = !i.buffer.contents.isEmpty) (n : Nat) :
    (i.release n).assembling = !(i.release n).buffer.contents.isEmpty := by
  unfold release
  split
  · exact h
  · split
    · rfl
    · next hzero hless =>
      have hfilled : 0 < i.buffer.contents.length := by
        rw [Buffer.length_contents]
        omega
      have hempty : i.buffer.contents.isEmpty = false := by
        rw [List.isEmpty_eq_false_iff]
        exact List.ne_nil_of_length_pos hfilled
      have hleft : (i.buffer.consume n).contents.isEmpty = false := by
        rw [List.isEmpty_eq_false_iff]
        refine List.ne_nil_of_length_pos ?_
        rw [Buffer.length_contents, Buffer.filled_consume]
        omega
      show i.assembling = !(i.buffer.consume n).contents.isEmpty
      rw [h, hempty, hleft]

/-! ### What a call comes to -/

variable {σ : Type}

/-- How a call ended that has taken units up to a state `t` and before `rest`; if `caughtUp` holds
it can have left no complete unit. -/
inductive Ended {α : Type} (p : Policy) (handle : σ → Bytes → σ × Option SessionError) (t : σ)
    (rest : Bytes) (caughtUp : Prop) : σ → Except SessionError α → Prop
  /-- The next unit was refused. -/
  | refused {n : Nat} {u : σ} {e : SessionError} :
      p.boundary rest = .ok (.complete n) → handle t (rest.take n) = (u, some e) →
      Ended p handle t rest caughtUp u (.error e)
  /-- What follows can be no unit. -/
  | violated {cause : ProtocolError} :
      p.boundary rest = .error cause →
      Ended p handle t rest caughtUp t (.error (.protocol cause))
  /-- No further unit was found, and only the socket or the buffer can have failed. -/
  | rested {result : Except SessionError α} :
      (caughtUp → p.boundary rest = .ok .incomplete) →
      (∀ e, result = .error e → e.IsTransport) → Ended p handle t rest caughtUp t result

variable {p : Policy} {handle : σ → Bytes → σ × Option SessionError}

/-- Draining ends in one of these ways. -/
theorem Stopped.ended {t u : σ} {rest : Bytes} {caughtUp : Prop}
    {result : Except SessionError Unit} (h : Stopped p handle t rest u result) :
    Ended p handle t rest caughtUp u result := by
  cases h with
  | waiting hwaiting => exact .rested (fun _ => hwaiting) (by simp)
  | violated he => exact .violated he
  | refused hn he => exact .refused hn he

/-- **What draining comes to.** -/
theorem drain_spec (p : Policy) (handle : σ → Bytes → σ × Option SessionError) (i : Inbox)
    (s : σ) :
    ∃ units t, Carved p i.buffer.contents units (drain p handle i s).inbox.buffer.contents ∧
      Accepts handle s units t ∧
      Stopped p handle t (drain p handle i s).inbox.buffer.contents (drain p handle i s).state
        (drain p handle i s).result := by
  obtain ⟨units, rest, t, hcarved, haccepts, hused, hstopped⟩ :=
    handOver_spec p handle i.buffer.contents 0 s
  -- The bytes that stay are those behind the units.
  have hrest : (drain p handle i s).inbox.buffer.contents = rest := by
    simp only [drain]
    rw [contents_release, hused, Nat.zero_add, ← hcarved.append_eq, List.drop_left]
  rw [hrest]
  exact ⟨units, t, hcarved, haccepts, hstopped⟩

/-- A call on an inbox that read `arrived` and took `units`, up to a state `t`.  It left no complete
unit if it read anything, or if there was none before. -/
structure Received {α : Type} (p : Policy) (handle : σ → Bytes → σ × Option SessionError)
    (i : Inbox) (source : Source) (s : σ) (call : Pass σ α × Source) (arrived : Bytes)
    (units : List Bytes) (t : σ) : Prop where
  /-- The bytes that were read are no longer to be found. -/
  content : source.content = arrived ++ call.2.content
  /-- The units are the first of the bytes that were there and those that were read. -/
  carved : Carved p (i.buffer.contents ++ arrived) units call.1.inbox.buffer.contents
  accepts : Accepts handle s units t
  ended : Ended p handle t call.1.inbox.buffer.contents
    (arrived ≠ [] ∨ p.boundary i.buffer.contents = .ok .incomplete) call.1.state call.1.result

/-- A call that read nothing and took nothing. -/
theorem received_nothing {α : Type} {i k : Inbox} {source t : Source} {s : σ}
    {result : Except SessionError α} (hcontents : k.buffer.contents = i.buffer.contents)
    (ht : t.content = source.content) (hresult : ∀ e, result = .error e → e.IsTransport) :
    Received p handle i source s (⟨k, s, result⟩, t) [] [] s where
  content := ht.symm
  carved := by
    rw [List.append_nil, hcontents]
    exact .nil _
  accepts := .nil s
  ended := .rested (fun h => by rw [hcontents]; exact h.resolve_left (absurd rfl)) hresult

/-- Units that were taken before others of the same call. -/
theorem Received.after {α : Type} {i j : Inbox} {source source' : Source} {s t u : σ}
    {call : Pass σ α × Source} {chunk arrived : Bytes} {units more : List Bytes}
    (h : Received p handle j source' t call arrived more u)
    (hcontent : source.content = chunk ++ source'.content)
    (hcarved : Carved p (i.buffer.contents ++ chunk) units j.buffer.contents)
    (haccepts : Accepts handle s units t)
    (hwaiting : p.boundary j.buffer.contents = .ok .incomplete) :
    Received p handle i source s call (chunk ++ arrived) (units ++ more) u where
  content := by rw [hcontent, h.content, List.append_assoc]
  carved := by
    rw [← List.append_assoc]
    exact (hcarved.append arrived).trans h.carved
  accepts := haccepts.trans h.accepts
  ended := by
    obtain ⟨⟨k, state, result⟩, source''⟩ := call
    cases h.ended with
    | refused hn he => exact .refused hn he
    | violated he => exact .violated he
    | rested hrest hresult => exact .rested (fun _ => hrest (.inr hwaiting)) hresult

/-- **What reading comes to**: of the bytes that were there and those that arrived, units are cut
off the front and taken.  The induction follows the reads. -/
theorem receiveFrom_spec (p : Policy) (handle : σ → Bytes → σ × Option SessionError) (i : Inbox)
    (source : Source) (s : σ) (total : Nat) :
    ∃ arrived units t,
      Received p handle i source s (receiveFrom p handle i source s total) arrived units t := by
  unfold receiveFrom
  fun_induction reception p handle i source s total with
  | case1 i source s total hnone =>
    refine ⟨[], [], s, received_nothing rfl rfl ?_⟩
    rintro e ⟨⟩
    trivial
  | case2 i source s total j hj t hread =>
    obtain ⟨hcontents, -⟩ := makeRoom?_eq_some hj
    exact ⟨[], [], s,
      received_nothing hcontents (Source.content_read_of_ne hread (by simp)) (by simp)⟩
  | case3 i source s total j hj detail t hread =>
    obtain ⟨hcontents, -⟩ := makeRoom?_eq_some hj
    refine ⟨[], [], s,
      received_nothing hcontents (Source.content_read_of_ne hread (by simp)) ?_⟩
    rintro e ⟨⟩
    trivial
  | case4 i source s total j hj t hread ih =>
    obtain ⟨hcontents, -⟩ := makeRoom?_eq_some hj
    obtain ⟨arrived, units, u, h⟩ := ih
    have hcontent := Source.content_read_of_ne hread (by simp)
    exact ⟨arrived, units, u, ⟨hcontent ▸ h.content, hcontents ▸ h.carved, h.accepts,
      hcontents ▸ h.ended⟩⟩
  | case5 i source s total j hj t hread =>
    obtain ⟨hcontents, -⟩ := makeRoom?_eq_some hj
    refine ⟨[], [], s, received_nothing hcontents (Source.content_read hread).symm ?_⟩
    rintro e ⟨⟩
    trivial
  | case6 i source s total j hj b chunk t hread k state e hdrain =>
    obtain ⟨hcontents, -⟩ := makeRoom?_eq_some hj
    obtain ⟨units, u, hcarved, haccepts, hstopped⟩ := drain_spec p handle (j.take (b :: chunk)) s
    rw [hdrain] at hcarved hstopped
    rw [contents_take (Source.length_read_le hread), hcontents] at hcarved
    refine ⟨b :: chunk, units, u, ⟨Source.content_read hread, hcarved, haccepts, ?_⟩⟩
    cases hstopped with
    | violated he => exact .violated he
    | refused hn he => exact .refused hn he
  | case7 i source s total j hj b chunk t hread k state hdrain ih =>
    obtain ⟨hcontents, -⟩ := makeRoom?_eq_some hj
    obtain ⟨units, u, hcarved, haccepts, hstopped⟩ := drain_spec p handle (j.take (b :: chunk)) s
    rw [hdrain] at hcarved hstopped
    rw [contents_take (Source.length_read_le hread), hcontents] at hcarved
    obtain ⟨arrived, more, v, h⟩ := ih
    -- The drain ended well, so what it left is no complete unit.
    cases hstopped with
    | waiting hwaiting =>
      exact ⟨b :: chunk ++ arrived, units ++ more, v,
        h.after (Source.content_read hread) hcarved haccepts hwaiting⟩

end Inbox
end WebSocket
