import WebSocket.Client.Error
import WebSocket.Session.Socket

/-!
# What a client reads

A client waits for one thing after the other.  It reads until the thing it waits for stands at the
front of what has arrived, cuts it off, and keeps the rest for the next one.

## Main definitions

* `Incoming` — the bytes that were read and not used, and those that will arrive.
* `Incoming.readMore` — one read.
* `Incoming.readUntil` — reading until something can be cut off.

## Main results

* `Incoming.content_readMore` — a read neither loses nor adds a byte.
-/

namespace WebSocket

/-- What a client has read and not used, and what it will read. -/
structure Incoming where
  buffer : Bytes
  source : Source
  deriving DecidableEq, Repr

namespace Incoming

/-- The most that one read takes. -/
def readSize : Nat := 4096

/-- All bytes that the client has not used. -/
def content (i : Incoming) : Bytes := i.buffer ++ i.source.content

/-- One read, which waits no longer than it may. -/
def readMore (i : Incoming) : Except ClientError Incoming :=
  match i.source.read readSize with
  | (.bytes [], _) => .error .serverClosed
  | (.bytes (b :: chunk), source) => .ok ⟨i.buffer ++ b :: chunk, source⟩
  | (.blocked, _) => .error (.io "Resource temporarily unavailable (os error 11)")
  | (.interrupted, _) => .error (.io "Interrupted system call (os error 4)")
  | (.failed detail, _) => .error (.io detail)

/-- The source that a read of some bytes leaves. -/
theorem readMore_eq_ok {i j : Incoming} (h : i.readMore = .ok j) :
    ∃ chunk, chunk ≠ [] ∧ i.source.read readSize = (.bytes chunk, j.source) ∧
      j.buffer = i.buffer ++ chunk := by
  unfold readMore at h
  split at h
  · simp at h
  · next b chunk source hr =>
    obtain rfl : Incoming.mk (i.buffer ++ b :: chunk) source = j := by simpa using h
    exact ⟨b :: chunk, by simp, hr, rfl⟩
  · simp at h
  · simp at h
  · simp at h

/-- A read neither loses nor adds a byte. -/
theorem content_readMore {i j : Incoming} (h : i.readMore = .ok j) : j.content = i.content := by
  obtain ⟨chunk, _, hr, hb⟩ := readMore_eq_ok h
  rw [content, content, hb, Source.content_read hr, List.append_assoc]

/-- A read uses up some of what will arrive. -/
theorem weight_readMore {i j : Incoming} (h : i.readMore = .ok j) :
    j.source.weight < i.source.weight := by
  obtain ⟨chunk, hc, hr, _⟩ := readMore_eq_ok h
  have := Source.weight_read_bytes hr
  have := List.length_pos_iff.2 hc
  omega

/-- Reading until `cut` finds something at the front of what was read; what it leaves is kept. -/
def readUntil {α : Type} (cut : Bytes → Except ClientError (Option (α × Bytes))) (i : Incoming) :
    Except ClientError (α × Incoming) :=
  match cut i.buffer with
  | .error e => .error e
  | .ok (some (a, rest)) => .ok (a, { i with buffer := rest })
  | .ok none =>
    match _h : i.readMore with
    | .error e => .error e
    | .ok j => readUntil cut j
termination_by i.source.weight
decreasing_by exact weight_readMore _h

end Incoming

end WebSocket
