import WebSocket.Client.Incoming

/-!
# What a client waits for arrives

A client tries to cut something off the front of what has arrived, and reads on while it cannot.  As
long as no part of the thing can be taken for it, the client gets it at the same byte whatever the
pieces are, and every byte behind it is left: some in the buffer, the others still to be read.

## Main definitions

* `Source.Flowing` — a source that gives bytes and nothing else.
* `Incoming.Cuts` — a byte string that is cut off as it is, and no part of it.

## Main results

* `Incoming.readUntil_of_cuts` — **what stands at the front of the stream is read, and nothing
  else.**
-/

namespace WebSocket

/-- A source that gives bytes, at least one at a time, until it has nothing more. -/
def Source.Flowing (s : Source) : Prop := ∀ a ∈ s.arrivals, ∃ b rest, a = .bytes (b :: rest)

namespace Incoming

/-- Where bytes are still to come a read gives some of them. -/
theorem readMore_of_flowing {i : Incoming} (h : i.source.Flowing) (hne : i.source.content ≠ []) :
    ∃ j, i.readMore = .ok j ∧ j.source.Flowing ∧ j.content = i.content := by
  obtain ⟨buffer, ⟨arrivals, ended⟩⟩ := i
  cases arrivals with
  | nil => exact absurd rfl hne
  | cons a later =>
    obtain ⟨⟨b, rest, rfl⟩, hlater⟩ := List.forall_mem_cons.1 h
    obtain ⟨chunk, stay, hread, hstay⟩ :=
      Source.read_cons (show 0 < readSize by decide) b rest later ended
    have hmore : (⟨buffer, ⟨.bytes (b :: rest) :: later, ended⟩⟩ : Incoming).readMore =
        .ok ⟨buffer ++ b :: chunk, ⟨stay ++ later, ended⟩⟩ := by
      simp only [readMore, hread]
    refine ⟨_, hmore, fun a ha => ?_, content_readMore hmore⟩
    rcases List.mem_append.1 ha with ha | ha
    · exact hstay a ha
    · exact hlater a ha

variable {α : Type} {cut : Bytes → Except ClientError (Option (α × Bytes))} {front : Bytes} {a : α}

/-- The bytes `front` are cut off a stream as `a`, whatever follows them, and no part of them is
taken for something or refused. -/
structure Cuts (cut : Bytes → Except ClientError (Option (α × Bytes))) (front : Bytes) (a : α) :
    Prop where
  whole : ∀ more, cut (front ++ more) = .ok (some (a, more))
  part : ∀ m < front.length, cut (front.take m) = .ok none

/-- Either all of `front` has arrived and it is cut off, or more bytes are to come. -/
theorem Cuts.arrived_or_waiting (h : Cuts cut front a) {buffer more later : Bytes}
    (hstream : buffer ++ more = front ++ later) :
    (∃ rest, cut buffer = .ok (some (a, rest)) ∧ rest ++ more = later) ∨
      cut buffer = .ok none ∧ more ≠ [] := by
  rcases List.append_eq_append_iff.1 hstream with ⟨missing, hfront, hmore⟩ | ⟨rest, hbuffer, hlater⟩
  · cases missing with
    | nil =>
      obtain rfl : buffer = front := by simpa using hfront.symm
      have hwhole := h.whole []
      rw [List.append_nil] at hwhole
      exact .inl ⟨[], hwhole, by simpa using hmore⟩
    | cons b missing =>
      right
      have hpart := h.part buffer.length (by simp [hfront])
      rw [hfront, List.take_left] at hpart
      exact ⟨hpart, by simp [hmore]⟩
  · left
    rw [hbuffer]
    exact ⟨rest, h.whole rest, hlater.symm⟩

/-- **What stands at the front of the stream is read, and nothing else**: what follows it is left,
in the buffer and in the source, whatever the pieces it arrives in. -/
theorem readUntil_of_cuts (h : Cuts cut front a) {i : Incoming} (hflow : i.source.Flowing)
    {later : Bytes} (hstream : i.content = front ++ later) :
    ∃ j, i.readUntil cut = .ok (a, j) ∧ j.source.Flowing ∧ j.content = later := by
  -- The induction goes along the reads: each leaves the same stream with less of it to come.
  fun_induction readUntil cut i with
  | case1 i e hcut =>
    rcases h.arrived_or_waiting hstream with ⟨rest, hfound, -⟩ | ⟨hnone, -⟩
    · simp [hfound] at hcut
    · simp [hnone] at hcut
  | case2 i b rest hcut =>
    rcases h.arrived_or_waiting hstream with ⟨rest', hfound, hlater⟩ | ⟨hnone, -⟩
    · obtain ⟨rfl, rfl⟩ : b = a ∧ rest = rest' := by simpa [hcut] using hfound
      exact ⟨_, rfl, hflow, hlater⟩
    · simp [hnone] at hcut
  | case3 i hcut e hread =>
    rcases h.arrived_or_waiting hstream with ⟨rest, hfound, -⟩ | ⟨-, hmore⟩
    · simp [hfound] at hcut
    · obtain ⟨j, hj, -⟩ := readMore_of_flowing hflow hmore
      simp [hj] at hread
  | case4 i hcut j hread ih =>
    rcases h.arrived_or_waiting hstream with ⟨rest, hfound, -⟩ | ⟨-, hmore⟩
    · simp [hfound] at hcut
    · obtain ⟨k, hk, hflow', hcontent⟩ := readMore_of_flowing hflow hmore
      obtain rfl : k = j := by simpa [hread] using hk.symm
      exact ih hflow' (hcontent.trans hstream)

end Incoming

end WebSocket
