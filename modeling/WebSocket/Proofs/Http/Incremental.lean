import WebSocket.Http.Request
import WebSocket.Proofs.Incremental

/-!
# Requests in a growing byte string

The end of a head is the first empty line, so it does not move when more bytes arrive, and what a
head declares depends on the head alone.  A request can therefore be looked for again and again.

## Main definitions

* `Text.FirstAt` — where a separator first stands.
* `Http.requestSize` — the length of a request as its head declares it, within a limit.

## Main results

* `Text.cut_append`, `Text.cut_eq_none_of_append` — the first occurrence of a separator stays where
  it is.
* `Text.firstAt_of_cut` — a cut is made there.
* `Http.incremental_requestBoundary` — **finding the end of a request is incremental.**
-/

namespace WebSocket

namespace Text

variable {α : Type} [BEq α] [LawfulBEq α]

/-- A list that is long enough decides by itself whether it begins with a separator. -/
theorem isPrefixOf_append {sep xs : List α} (h : sep.length ≤ xs.length) (ys : List α) :
    sep.isPrefixOf (xs ++ ys) = sep.isPrefixOf xs := by
  rw [Bool.eq_iff_iff, List.isPrefixOf_iff_prefix, List.isPrefixOf_iff_prefix]
  constructor
  · intro hp
    exact List.prefix_of_prefix_length_le hp (List.prefix_append xs ys) h
  · intro hp
    exact hp.trans (List.prefix_append xs ys)

/-- **The first occurrence of a separator stays the first**, whatever follows it. -/
theorem cut_append {sep xs before after : List α} (h : cut sep xs = some (before, after))
    (more : List α) : cut sep (before ++ sep ++ more) = some (before, more) := by
  induction xs generalizing before with
  | nil =>
    cases sep with
    | nil =>
      obtain ⟨rfl, rfl⟩ : [] = before ∧ [] = after := by simpa [cut] using h
      cases more <;> simp [cut]
    | cons => simp [cut] at h
  | cons x xs ih =>
    unfold cut at h
    split at h
    · obtain ⟨rfl, -⟩ : [] = before ∧ (x :: xs).drop sep.length = after := by simpa using h
      cases sep with
      | nil => cases more <;> simp [cut]
      | cons => simp [cut]
    · next hnot =>
      obtain ⟨⟨front, tail⟩, hcut, heq⟩ := Option.map_eq_some_iff.1 h
      obtain ⟨rfl, rfl⟩ : x :: front = before ∧ tail = after := by simpa using heq
      -- The separator is no longer than the bytes up to its occurrence behind `x`.
      have hlong : sep.length ≤ (x :: front ++ sep).length := by
        simp only [List.length_append]
        omega
      have hxs := cut_eq_some hcut
      have hnot' : ¬ sep.isPrefixOf (x :: front ++ sep ++ more) = true := by
        rw [isPrefixOf_append hlong]
        rw [hxs, ← List.cons_append, ← List.cons_append, isPrefixOf_append hlong] at hnot
        exact hnot
      have hrec := ih hcut
      simp only [List.cons_append] at hnot' ⊢
      rw [cut, if_neg hnot', hrec]
      rfl

/-- A separator that is found in a longer list only reaches into the part that was added. -/
theorem cut_eq_none_of_append {sep xs more before after : List α} (h : cut sep xs = none)
    (hmore : cut sep (xs ++ more) = some (before, after)) :
    xs.length < before.length + sep.length := by
  rw [← List.length_append]
  refine Nat.lt_of_not_le fun hle => ?_
  have hsplit := cut_eq_some hmore
  have hfront : before ++ sep <+: xs :=
    List.prefix_of_prefix_length_le ⟨after, hsplit.symm⟩ (List.prefix_append xs more) hle
  obtain ⟨tail, rfl⟩ := hfront
  rw [cut_append hmore tail] at h
  simp at h

/-! ### Where a separator first stands -/

/-- A separator stands at position `n` of a list, and at none before it. -/
structure FirstAt (sep xs : List α) (n : Nat) : Prop where
  here : sep <+: xs.drop n
  first : ∀ m < n, ¬ sep <+: xs.drop m

/-- **What stands in front of a cut ends where the separator first stands.** -/
theorem firstAt_of_cut {sep xs before after : List α} (h : cut sep xs = some (before, after)) :
    FirstAt sep xs before.length := by
  constructor
  · rw [cut_eq_some h, List.append_assoc, List.drop_left]
    exact List.prefix_append sep after
  · intro m hm hp
    induction xs generalizing before m with
    | nil =>
      unfold cut at h
      split at h
      · obtain ⟨rfl, -⟩ : [] = before ∧ [] = after := by simpa using h
        simp at hm
      · simp at h
    | cons x xs ih =>
      unfold cut at h
      split at h
      · obtain ⟨rfl, -⟩ : [] = before ∧ _ = after := by simpa using h
        simp at hm
      · next hnot =>
        obtain ⟨⟨front, tail⟩, hcut, heq⟩ := Option.map_eq_some_iff.1 h
        obtain ⟨rfl, rfl⟩ : x :: front = before ∧ tail = after := by simpa using heq
        cases m with
        | zero => exact hnot (List.isPrefixOf_iff_prefix.2 hp)
        | succ m => exact ih hcut m (by simpa using hm) hp

end Text

namespace Http

/-- The length of a request with this head, as the head declares it; one over the limit is
refused. -/
def requestSize (limit : Nat) (head : Bytes) : Except ProtocolError Nat := do
  let body ← declaredLength (headLines head).tail
  let total ← requestLength head.length body
  if total > limit then .error (.tooLarge total limit) else .ok total

/-- A request can be told by its head. -/
theorem requestSize_eq_ok {limit total : Nat} {head : Bytes} :
    requestSize limit head = .ok total ↔
      ∃ body, declaredLength (headLines head).tail = .ok body ∧
        head.length + headEnd.length + body = total ∧ total < Text.wordLimit ∧ total ≤ limit := by
  unfold requestSize
  cases hbody : declaredLength (headLines head).tail with
  | error e => simp [bind, Except.bind]
  | ok body =>
    simp only [bind, Except.bind, requestLength, Except.ok.injEq, exists_eq_left']
    by_cases hword : head.length + headEnd.length + body < Text.wordLimit
    · rw [if_pos hword]
      by_cases hlim : head.length + headEnd.length + body > limit
      · simp only [if_pos hlim, reduceCtorEq, false_iff]
        omega
      · simp only [if_neg hlim, Except.ok.injEq]
        omega
    · rw [if_neg hword]
      simp only [reduceCtorEq, false_iff]
      omega

/-- A head that does not fit within the limit is refused, for one reason or another. -/
theorem requestSize_eq_error_of_long {limit : Nat} {head : Bytes}
    (h : limit < head.length + headEnd.length) : ∃ e, requestSize limit head = .error e := by
  cases hsize : requestSize limit head with
  | error e => exact ⟨e, rfl⟩
  | ok total =>
    obtain ⟨body, -, hsum, -, hle⟩ := requestSize_eq_ok.1 hsize
    omega

theorem requestBoundary_of_cutHead_none {limit : Nat} {data : Bytes} (h : cutHead data = none) :
    requestBoundary limit data = .ok none := by
  simp only [requestBoundary, h]

/-- Where a head has been found, it alone says where the request ends. -/
theorem requestBoundary_of_cutHead {limit : Nat} {data head rest : Bytes}
    (h : cutHead data = some (head, rest)) :
    requestBoundary limit data =
      (requestSize limit head).map fun total =>
        if Bytes.reaches total data then some total else none := by
  simp only [requestBoundary, h, requestSize, bind, Except.bind]
  cases declaredLength (headLines head).tail with
  | error e => rfl
  | ok body =>
    simp only
    cases requestLength head.length body with
    | error e => rfl
    | ok total =>
      simp only
      split <;> rfl

/-- **What a complete request is**: a head that declares a length, and as many bytes. -/
theorem requestBoundary_eq_some {limit n : Nat} {data : Bytes} :
    requestBoundary limit data = .ok (some n) ↔
      ∃ head rest, cutHead data = some (head, rest) ∧ requestSize limit head = .ok n ∧
        n ≤ data.length := by
  constructor
  · intro h
    match hcut : cutHead data with
    | none => simp [requestBoundary_of_cutHead_none hcut] at h
    | some (head, rest) =>
      rw [requestBoundary_of_cutHead hcut] at h
      cases hsize : requestSize limit head with
      | error e => simp [hsize, Except.map] at h
      | ok total =>
        simp only [hsize, Except.map, Except.ok.injEq, Option.ite_none_right_eq_some,
          Option.some.injEq, Bytes.reaches_iff] at h
        obtain ⟨hle, rfl⟩ := h
        exact ⟨head, rest, rfl, hsize, hle⟩
  · rintro ⟨head, rest, hcut, hsize, hle⟩
    rw [requestBoundary_of_cutHead hcut, hsize]
    simp [Except.map, hle]

/-- A request is refused for its head. -/
theorem requestBoundary_eq_error {limit : Nat} {data : Bytes} {e : ProtocolError} :
    requestBoundary limit data = .error e ↔
      ∃ head rest, cutHead data = some (head, rest) ∧ requestSize limit head = .error e := by
  cases hcut : cutHead data with
  | none => simp [requestBoundary_of_cutHead_none hcut]
  | some parts =>
    obtain ⟨head, rest⟩ := parts
    rw [requestBoundary_of_cutHead hcut]
    cases hsize : requestSize limit head <;> simp [Except.map, hsize]

/-- More bytes than a request may have, and still none found: its head has not ended. -/
theorem cutHead_eq_none_of_long {limit : Nat} {data : Bytes}
    (h : requestBoundary limit data = .ok none) (hlong : limit < data.length) :
    cutHead data = none := by
  match hcut : cutHead data with
  | none => rfl
  | some (head, rest) =>
    rw [requestBoundary_of_cutHead hcut] at h
    cases hsize : requestSize limit head with
    | error e => simp [hsize, Except.map] at h
    | ok total =>
      obtain ⟨body, -, -, -, hle⟩ := requestSize_eq_ok.1 hsize
      have hshort : ¬ total ≤ data.length := by simpa [hsize, Except.map] using h
      omega

/-- **Finding the end of a request is incremental.** -/
theorem incremental_requestBoundary (limit : Nat) :
    Incremental id (requestBoundary limit) where
  found := by
    intro data n hn
    obtain ⟨head, rest, hcut, hsize, hle⟩ := requestBoundary_eq_some.1 hn
    obtain ⟨body, -, hsum, -, -⟩ := requestSize_eq_ok.1 hsize
    have hlen : (data.take n).length = n := by
      rw [List.length_take]
      omega
    refine ⟨data.take n, data.drop n, (List.take_append_drop n data).symm, hlen, fun more => ?_⟩
    -- The head and its end stand in the first `n` bytes.
    have hdata := Text.cut_eq_some hcut
    have hfront : head ++ headEnd <+: data.take n := by
      refine List.prefix_of_prefix_length_le ⟨rest, hdata.symm⟩ (List.take_prefix n data) ?_
      rw [hlen, List.length_append]
      omega
    obtain ⟨tail, htail⟩ := hfront
    rw [requestBoundary_eq_some]
    refine ⟨head, tail ++ more, ?_, hsize, ?_⟩
    · rw [← htail, List.append_assoc (head ++ headEnd)]
      exact Text.cut_append hcut (tail ++ more)
    · rw [List.length_append, hlen]
      exact Nat.le_add_right _ _
  refused := by
    intro data e he more
    obtain ⟨head, rest, hcut, hsize⟩ := requestBoundary_eq_error.1 he
    rw [requestBoundary_eq_error]
    refine ⟨head, rest ++ more, ?_, hsize⟩
    rw [Text.cut_eq_some hcut, List.append_assoc (head ++ headEnd)]
    exact Text.cut_append hcut (rest ++ more)

end Http
end WebSocket
