/-!
# Cutting lists at a separator

Request heads are cut at line breaks, header lines at a colon, targets at a question mark, and byte
streams at an empty line.  All of these are one operation: find where a separator first stands.

## Main definitions

* `cut` — the part before the first occurrence of a separator and the part after it.
* `cutLast` — the same for the last occurrence of one element.
* `splitOn` — the parts between all occurrences.
* `replaceAll` — every occurrence replaced, from left to right.

## Main results

* `cut_eq_some` — what `cut` returns puts its argument back together.
* `length_replaceAll_le` — replacing by something no longer does not lengthen.
-/

namespace WebSocket

namespace Text

variable {α : Type} [BEq α]

/-- The part of the list before the first occurrence of `sep`, and the part after it. -/
def cut (sep : List α) : List α → Option (List α × List α)
  | [] => if sep.isEmpty then some ([], []) else none
  | x :: xs =>
    if sep.isPrefixOf (x :: xs) then some ([], (x :: xs).drop sep.length)
    else (cut sep xs).map fun parts => (x :: parts.1, parts.2)

/-- What `cut` returns puts its argument back together. -/
theorem cut_eq_some [LawfulBEq α] {sep xs before after : List α}
    (h : cut sep xs = some (before, after)) : xs = before ++ sep ++ after := by
  induction xs generalizing before after with
  | nil =>
    unfold cut at h
    split at h
    · next hs => simp_all
    · simp at h
  | cons x xs ih =>
    unfold cut at h
    split at h
    · next hs =>
      obtain ⟨rest, hr⟩ := List.isPrefixOf_iff_prefix.1 hs
      obtain ⟨rfl, rfl⟩ : [] = before ∧ (x :: xs).drop sep.length = after := by simpa using h
      rw [← hr]; simp
    · obtain ⟨parts, hp, he⟩ := Option.map_eq_some_iff.1 h
      obtain ⟨rfl, rfl⟩ : x :: parts.1 = before ∧ parts.2 = after := by simpa using he
      simp [ih hp]

/-- What stands before a single element is what comes before its first occurrence. -/
theorem takeWhile_eq_cut [LawfulBEq α] (x : α) (xs : List α) :
    xs.takeWhile (· != x) =
      match cut [x] xs with
      | some (before, _) => before
      | none => xs := by
  induction xs with
  | nil => rfl
  | cons y xs ih =>
    by_cases hy : y = x
    · have hhead : [x].isPrefixOf (y :: xs) = true := by simp [List.isPrefixOf, hy]
      rw [List.takeWhile_cons_of_neg (by simp [hy]), cut, if_pos hhead]
    · have hnot : ¬ [x].isPrefixOf (y :: xs) = true := by
        simpa [List.isPrefixOf] using Ne.symm hy
      rw [List.takeWhile_cons_of_pos (by simpa using hy), ih, cut, if_neg hnot]
      cases cut [x] xs <;> rfl

theorem length_cut [LawfulBEq α] {sep xs before after : List α}
    (h : cut sep xs = some (before, after)) :
    xs.length = before.length + sep.length + after.length := by
  rw [cut_eq_some h]; simp only [List.length_append]

/-- The part of the list before the last occurrence of `x`, and the part after it. -/
def cutLast (x : α) (xs : List α) : Option (List α × List α) :=
  (cut [x] xs.reverse).map fun parts => (parts.2.reverse, parts.1.reverse)

/-- The parts of the list between the occurrences of a separator that is not empty; for an empty
one, the list itself. -/
def splitOn [LawfulBEq α] (sep : List α) (xs : List α) : List (List α) :=
  match _h : cut sep xs with
  | none => [xs]
  | some (before, after) =>
    if _hs : sep.length = 0 then [xs] else before :: splitOn sep after
termination_by xs.length
decreasing_by
  have := length_cut _h
  omega

/-- Every occurrence of `old` replaced by `new`, found from left to right without overlap. -/
def replaceAll [LawfulBEq α] (old new : List α) (xs : List α) : List α :=
  match _h : cut old xs with
  | none => xs
  | some (before, after) =>
    if _ho : old.length = 0 then xs else before ++ new ++ replaceAll old new after
termination_by xs.length
decreasing_by
  have := length_cut _h
  omega

/-- Replacing by something no longer does not lengthen. -/
theorem length_replaceAll_le [LawfulBEq α] {old new : List α} (hle : new.length ≤ old.length)
    (xs : List α) : (replaceAll old new xs).length ≤ xs.length := by
  fun_induction replaceAll old new xs with
  | case1 => exact Nat.le_refl _
  | case2 => exact Nat.le_refl _
  | case3 xs before after h ho ih =>
    have := length_cut h
    simp only [List.length_append]
    omega

/-- Replacing an occurrence by something shorter shortens. -/
theorem length_replaceAll_lt [LawfulBEq α] {old new : List α} (hlt : new.length < old.length)
    {xs : List α} (hx : (cut old xs).isSome) : (replaceAll old new xs).length < xs.length := by
  obtain ⟨⟨before, after⟩, h⟩ := Option.isSome_iff_exists.1 hx
  have := length_cut h
  have := length_replaceAll_le (Nat.le_of_lt hlt) after
  rw [replaceAll]
  split
  · next hn => simp [h] at hn
  · next b a hc =>
    obtain ⟨rfl, rfl⟩ : before = b ∧ after = a := by simpa [h] using hc
    split
    · omega
    · simp only [List.length_append]
      omega

end Text

end WebSocket
