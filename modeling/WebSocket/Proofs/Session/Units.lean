import WebSocket.Session.Inbox
import WebSocket.Proofs.Policy.Boundary

/-!
# The units of a stream

What a server reads from a connection is a matter of the bytes alone: they are cut into units from
the front, until one is refused or does not fit into the buffer.  This file says so without a buffer
in sight, and shows that handing over the units at the front of a buffer is a part of it.

## Main definitions

* `Carved` — units cut off the front of a byte string.
* `Carving`, `Policy.carve` — what a whole stream comes to.
* `Inbox.Accepts` — units taken by whoever takes them.

## Main results

* `Carved.append`, `Carved.trans` — more bytes, and more units.
* `Carved.carve_append` — cutting a part of a stream first changes nothing.
* `Inbox.handOver_spec` — **what handing over units comes to.**
-/

namespace WebSocket

/-- `Carved p data units rest`: the units are cut off the front of `data`, and `rest` is left. -/
inductive Carved (p : Policy) : Bytes → List Bytes → Bytes → Prop
  | nil (data : Bytes) : Carved p data [] data
  | cons {data rest : Bytes} {n : Nat} {units : List Bytes} :
      p.boundary data = .ok (.complete n) → Carved p (data.drop n) units rest →
      Carved p data (data.take n :: units) rest

/-- Nothing is lost by cutting. -/
theorem Carved.append_eq {p : Policy} {data rest : Bytes} {units : List Bytes}
    (h : Carved p data units rest) : units.flatten ++ rest = data := by
  induction h with
  | nil => rfl
  | cons _ _ ih => rw [List.flatten_cons, List.append_assoc, ih, List.take_append_drop]

/-- Units stay what they are whatever follows. -/
theorem Carved.append {p : Policy} {data rest : Bytes} {units : List Bytes}
    (h : Carved p data units rest) (more : Bytes) :
    Carved p (data ++ more) units (rest ++ more) := by
  induction h with
  | nil data => exact .nil _
  | @cons data rest n units hn _ ih =>
    have hle := (Policy.boundary_bounds hn).2
    have hwhole : p.boundary (data ++ more) = .ok (.complete n) := by
      have hown := Policy.boundary_take_append hn (data.drop n ++ more)
      rwa [← List.append_assoc, List.take_append_drop] at hown
    rw [← List.drop_append_of_le_length hle] at ih
    rw [← List.take_append_of_le_length hle]
    exact .cons hwhole ih

theorem Carved.trans {p : Policy} {data rest rest' : Bytes} {units units' : List Bytes}
    (h : Carved p data units rest) (h' : Carved p rest units' rest') :
    Carved p data (units ++ units') rest' := by
  induction h with
  | nil => exact h'
  | cons hn _ ih => exact .cons hn (ih h')

/-- What a stream comes to: its units, and what is left of it or why reading ended. -/
structure Carving where
  units : List Bytes
  result : Except SessionError Bytes

/-- The carving of a stream whose first units are these. -/
def Carving.after (units : List Bytes) (c : Carving) : Carving := ⟨units ++ c.units, c.result⟩

theorem Carving.after_after (units units' : List Bytes) (c : Carving) :
    (c.after units').after units = c.after (units ++ units') := by
  simp [after]

namespace Policy

/-- What a stream comes to for a reader with a buffer of the size of the limit: unit after unit is
cut off, each within the first bytes that fit into the buffer. -/
def carve (p : Policy) (stream : Bytes) : Carving :=
  match _h : p.boundary (stream.take p.limit) with
  | .error e => ⟨[], .error (.protocol e)⟩
  | .ok .incomplete =>
    if stream.length < p.limit then ⟨[], .ok stream⟩ else ⟨[], .error (.bufferFull p.limit)⟩
  | .ok (.complete n) => (p.carve (stream.drop n)).after [stream.take n]
termination_by stream.length
decreasing_by
  have := boundary_bounds _h
  simp only [List.length_take, List.length_drop] at *
  omega

variable {p : Policy} {data : Bytes}

/-- Reading ends with a violation of the protocol or with a full buffer. -/
theorem carve_error_cases (p : Policy) (stream : Bytes) {e : SessionError}
    (h : (p.carve stream).result = .error e) :
    (∃ cause, e = .protocol cause) ∨ e = .bufferFull p.limit := by
  fun_induction carve p stream with
  | case1 stream cause => exact .inl ⟨cause, by simpa using h.symm⟩
  | case2 => simp at h
  | case3 => exact .inr (by simpa using h.symm)
  | case4 stream n hn ih => exact ih h

/-- A stream that was carved to its end is its units and what is left. -/
theorem carve_append_eq (p : Policy) (stream rest : Bytes)
    (h : (p.carve stream).result = .ok rest) : (p.carve stream).units.flatten ++ rest = stream := by
  fun_induction carve p stream with
  | case1 => simp at h
  | case2 stream => simpa using h.symm
  | case3 => simp at h
  | case4 stream n hn ih =>
    have hrest := ih h
    show (stream.take n :: (p.carve (stream.drop n)).units).flatten ++ rest = stream
    rw [List.flatten_cons, List.append_assoc, hrest, List.take_append_drop]

/-- A part that fits into the buffer is not a head that has not ended in time. -/
theorem not_overlongHead (hlen : data.length ≤ p.limit) : ¬ OverlongHead p.limit data := by
  rintro ⟨-, -, hlong⟩
  omega

theorem carve_append_error {e : ProtocolError} (h : p.boundary data = .error e)
    (hlen : data.length ≤ p.limit) (more : Bytes) :
    p.carve (data ++ more) = ⟨[], .error (.protocol e)⟩ := by
  have hwhole : p.boundary ((data ++ more).take p.limit) = .error e := by
    rw [List.take_append, List.take_of_length_le hlen]
    exact boundary_append_error h (not_overlongHead hlen) _
  rw [carve]
  split
  · next e' he => rw [hwhole] at he; simpa using he.symm
  · next hn => rw [hwhole] at hn; simp at hn
  · next hn => rw [hwhole] at hn; simp at hn

theorem carve_append_complete {n : Nat} (h : p.boundary data = .ok (.complete n))
    (hlen : data.length ≤ p.limit) (more : Bytes) :
    p.carve (data ++ more) = (p.carve (data.drop n ++ more)).after [data.take n] := by
  have hn := (boundary_bounds h).2
  have hwhole : p.boundary ((data ++ more).take p.limit) = .ok (.complete n) := by
    have := boundary_take_append h (data.drop n ++ more.take (p.limit - data.length))
    rw [← List.append_assoc, List.take_append_drop] at this
    rwa [List.take_append, List.take_of_length_le hlen]
  rw [carve]
  split
  · next he => rw [hwhole] at he; simp at he
  · next hi => rw [hwhole] at hi; simp at hi
  · next m hm =>
    obtain rfl : n = m := by simpa [hwhole] using hm
    rw [List.drop_append_of_le_length hn, List.take_append_of_le_length hn]

/-- A full buffer without a unit in it is the end, whatever follows. -/
theorem carve_append_full (h : p.boundary data = .ok .incomplete) (hlen : data.length = p.limit)
    (more : Bytes) : p.carve (data ++ more) = ⟨[], .error (.bufferFull p.limit)⟩ := by
  have hwhole : (data ++ more).take p.limit = data := by rw [← hlen, List.take_left]
  have hlong : ¬ (data ++ more).length < p.limit := by
    rw [List.length_append]
    omega
  rw [carve]
  split
  · next he => rw [hwhole, h] at he; simp at he
  · exact if_neg hlong
  · next hn => rw [hwhole, h] at hn; simp at hn

theorem carve_of_incomplete (h : p.boundary data = .ok .incomplete) (hlen : data.length < p.limit) :
    p.carve data = ⟨[], .ok data⟩ := by
  have hwhole : data.take p.limit = data := List.take_of_length_le (Nat.le_of_lt hlen)
  rw [carve]
  split
  · next he => rw [hwhole, h] at he; simp at he
  · exact if_pos hlen
  · next hn => rw [hwhole, h] at hn; simp at hn

end Policy

/-- **Cutting a part of a stream first changes nothing**, as long as the part fits into the
buffer. -/
theorem Carved.carve_append {p : Policy} {data rest : Bytes} {units : List Bytes}
    (h : Carved p data units rest) (hlen : data.length ≤ p.limit) (more : Bytes) :
    p.carve (data ++ more) = (p.carve (rest ++ more)).after units := by
  induction h with
  | nil => rfl
  | @cons data rest n units hn _ ih =>
    have hdrop : (data.drop n).length ≤ p.limit := by
      rw [List.length_drop]
      omega
    rw [Policy.carve_append_complete hn hlen, ih hdrop, Carving.after_after,
      List.singleton_append]

namespace Inbox

variable {σ : Type}

/-- Units taken one after the other, none refused, from one state to another. -/
inductive Accepts (handle : σ → Bytes → σ × Option SessionError) : σ → List Bytes → σ → Prop
  | nil (s : σ) : Accepts handle s [] s
  | cons {s t u : σ} {unit : Bytes} {units : List Bytes} :
      handle s unit = (t, none) → Accepts handle t units u → Accepts handle s (unit :: units) u

theorem Accepts.trans {handle : σ → Bytes → σ × Option SessionError} {s t u : σ}
    {units units' : List Bytes} (h : Accepts handle s units t) (h' : Accepts handle t units' u) :
    Accepts handle s (units ++ units') u := by
  induction h with
  | nil => exact h'
  | cons ht _ ih => exact .cons ht (ih h')

/-- How handing over ended before `rest`, in a state `s` reached by the units that were taken. -/
inductive Stopped (p : Policy) (handle : σ → Bytes → σ × Option SessionError) (s : σ)
    (rest : Bytes) : σ → Except SessionError Unit → Prop
  /-- No further unit is complete. -/
  | waiting : p.boundary rest = .ok .incomplete → Stopped p handle s rest s (.ok ())
  /-- What follows can be no unit. -/
  | violated {e : ProtocolError} :
      p.boundary rest = .error e → Stopped p handle s rest s (.error (.protocol e))
  /-- The next unit was refused. -/
  | refused {n : Nat} {t : σ} {e : SessionError} :
      p.boundary rest = .ok (.complete n) → handle s (rest.take n) = (t, some e) →
      Stopped p handle s rest t (.error e)

/-- **What handing over units comes to**: units are cut off the front and taken, up to the first
that is incomplete, broken or refused, and their bytes are counted. -/
theorem handOver_spec (p : Policy) (handle : σ → Bytes → σ × Option SessionError) (data : Bytes)
    (used : Nat) (s : σ) :
    ∃ units rest t, Carved p data units rest ∧ Accepts handle s units t ∧
      (handOver p handle data used s).used = used + units.flatten.length ∧
      Stopped p handle t rest (handOver p handle data used s).state
        (handOver p handle data used s).result := by
  fun_induction handOver p handle data used s with
  | case1 data used s e he => exact ⟨[], data, s, .nil data, .nil s, rfl, .violated he⟩
  | case2 data used s hi => exact ⟨[], data, s, .nil data, .nil s, rfl, .waiting hi⟩
  | case3 data used s n hn t e he => exact ⟨[], data, s, .nil data, .nil s, rfl, .refused hn he⟩
  | case4 data used s n hn t ht ih =>
    obtain ⟨units, rest, u, hcarved, haccepts, hused, hstopped⟩ := ih
    refine ⟨data.take n :: units, rest, u, .cons hn hcarved, .cons ht haccepts, ?_, hstopped⟩
    have := Policy.boundary_bounds hn
    rw [hused, List.flatten_cons, List.length_append, List.length_take]
    omega

end Inbox
end WebSocket
