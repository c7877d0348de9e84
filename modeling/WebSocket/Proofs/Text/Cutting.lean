import WebSocket.Text.Blank
import WebSocket.Text.Cut
import WebSocket.Text.Lines

/-!
# What was put together is cut apart again

Lines are joined with line ends, words with blanks, names with colons, and the readers look for the
first place at which a separator stands.  They find the places where it was put as long as the parts
do not have the first element of the separator in them.

## Main definitions

* `Text.Solid` — a text without blanks.

## Main results

* `Text.cut_append_of_not_mem` — a part without the separator is passed over.
* `Text.cut_intercalate` — an empty part is the first place with two separators in a row.
* `Text.splitOn_intercalate`, `Text.lines_flatMap`, `Text.words_append` — **parts, lines and words
  that were put together are found again**.
* `Text.intercalate_splitOn` — parts that were cut out are joined again.
* `Text.not_isInfix_of_mem_splitOn` — no part has the separator in it.
* `Text.lines_flatMap_of_not_isInfix` — what a reader of line feeds makes of lines that end with a
  carriage return and a line feed.
-/

namespace WebSocket

namespace Text

section Intercalate

variable {α : Type} (sep : List α)

/-- Joined parts with a separator behind them are the parts with a separator behind each. -/
theorem intercalate_append_sep {parts : List (List α)} (hne : parts ≠ []) :
    sep.intercalate parts ++ sep = parts.flatMap (· ++ sep) := by
  induction parts with
  | nil => exact absurd rfl hne
  | cons part parts ih =>
    cases parts with
    | nil => simp
    | cons next parts =>
      rw [List.intercalate_cons_cons, List.append_assoc, List.append_assoc,
        ih (List.cons_ne_nil next parts), ← List.append_assoc]
      rfl

theorem intercalate_eq_append (part : List α) (parts : List (List α)) :
    ∃ behind, sep.intercalate (part :: parts) = part ++ behind := by
  cases parts with
  | nil => exact ⟨[], by simp⟩
  | cons next parts => exact ⟨sep ++ sep.intercalate (next :: parts), by simp⟩

/-- Parts that are joined in two portions, with a separator between the two. -/
theorem intercalate_append {parts more : List (List α)} (hparts : parts ≠ []) (hmore : more ≠ []) :
    sep.intercalate (parts ++ more) = sep.intercalate parts ++ (sep ++ sep.intercalate more) := by
  induction parts with
  | nil => exact absurd rfl hparts
  | cons part parts ih =>
    cases parts with
    | nil =>
      obtain ⟨next, more, rfl⟩ := List.exists_cons_of_ne_nil hmore
      rw [List.singleton_append, List.intercalate_cons_cons, List.intercalate_singleton,
        List.append_assoc]
    | cons next parts =>
      have hlater := ih (List.cons_ne_nil next parts)
      rw [List.cons_append] at hlater
      rw [List.cons_append, List.cons_append, List.intercalate_cons_cons, hlater,
        List.intercalate_cons_cons]
      simp only [List.append_assoc]

/-- What is written element by element is written part by part. -/
theorem flatMap_intercalate {β : Type} (f : α → List β) (parts : List (List α)) :
    (sep.intercalate parts).flatMap f =
      (sep.flatMap f).intercalate (parts.map fun part => part.flatMap f) := by
  induction parts with
  | nil => rfl
  | cons part parts ih =>
    cases parts with
    | nil => simp
    | cons next parts =>
      rw [List.intercalate_cons_cons, List.flatMap_append, List.flatMap_append, ih]
      simp

end Intercalate

theorem singleton_isInfix_iff {α : Type} {x : α} {xs : List α} : [x] <:+: xs ↔ x ∈ xs := by
  constructor
  · exact fun h => h.subset (List.mem_singleton_self x)
  · intro h
    obtain ⟨before, after, rfl⟩ := List.append_of_mem h
    exact ⟨before, after, by simp⟩

/-- A text that begins with an element that the front does not have is not found across its end. -/
theorem isInfix_of_isInfix_append {α : Type} {x : α} {sep front rest : List α} (h : x ∉ front)
    (hinside : x :: sep <:+: front ++ rest) : x :: sep <:+: rest := by
  induction front with
  | nil => exact hinside
  | cons a front ih =>
    rw [List.mem_cons, not_or] at h
    rcases List.infix_cons_iff.1 hinside with hprefix | hlater
    · exact absurd (List.cons_prefix_cons.1 hprefix).1 h.1
    · exact ih h.2 hlater

section Cut

variable {α : Type} [BEq α] [LawfulBEq α] {x y : α} {sep front rest : List α}

/-- A part that does not have the first element of the separator in it is passed over. -/
theorem cut_append_of_not_mem (h : x ∉ front) (rest : List α) :
    cut (x :: sep) (front ++ rest) =
      (cut (x :: sep) rest).map fun parts => (front ++ parts.1, parts.2) := by
  induction front with
  | nil => simp
  | cons a front ih =>
    rw [List.mem_cons, not_or] at h
    have hnot : ¬ (x :: sep).isPrefixOf (a :: (front ++ rest)) = true := by
      rw [List.isPrefixOf_iff_prefix, List.cons_prefix_cons]
      exact fun hp => h.1 hp.1
    rw [List.cons_append, cut, if_neg hnot, ih h.2, Option.map_map]
    rfl

theorem cut_of_not_mem (h : x ∉ front) : cut (x :: sep) front = none := by
  have hpass : cut (x :: sep) (front ++ []) =
      (cut (x :: sep) []).map fun parts => (front ++ parts.1, parts.2) :=
    cut_append_of_not_mem h []
  rwa [List.append_nil, cut, if_neg (by simp), Option.map_none] at hpass

/-- A separator is found where it stands first. -/
theorem cut_self_append : cut (x :: sep) (x :: sep ++ rest) = some ([], rest) := by
  have hp : (x :: sep).isPrefixOf (x :: (sep ++ rest)) = true :=
    List.isPrefixOf_iff_prefix.2 ⟨rest, rfl⟩
  rw [List.cons_append, cut, if_pos hp]
  simp

theorem cut_of_append (h : x ∉ front) (rest : List α) :
    cut (x :: sep) (front ++ (x :: sep ++ rest)) = some (front, rest) := by
  rw [cut_append_of_not_mem h, cut_self_append, Option.map_some, List.append_nil]

theorem splitOn_of_not_mem (h : x ∉ front) : splitOn (x :: sep) front = [front] := by
  rw [splitOn]
  split
  · rfl
  · next hcut =>
    rw [cut_of_not_mem h] at hcut
    simp at hcut

theorem splitOn_of_append (h : x ∉ front) (rest : List α) :
    splitOn (x :: sep) (front ++ (x :: sep ++ rest)) = front :: splitOn (x :: sep) rest := by
  rw [splitOn]
  split
  · next hcut =>
    rw [cut_of_append h] at hcut
    simp at hcut
  · next before after hcut =>
    rw [cut_of_append h] at hcut
    obtain ⟨rfl, rfl⟩ : front = before ∧ rest = after := by simpa using hcut
    rw [dif_neg (by simp)]

/-- **Parts that were joined by a separator are found again.** -/
theorem splitOn_intercalate {parts : List (List α)} (hne : parts ≠ [])
    (h : ∀ part ∈ parts, x ∉ part) : splitOn (x :: sep) ((x :: sep).intercalate parts) = parts := by
  induction parts with
  | nil => exact absurd rfl hne
  | cons part parts ih =>
    obtain ⟨hpart, hparts⟩ := List.forall_mem_cons.1 h
    cases parts with
    | nil => rw [List.intercalate_singleton, splitOn_of_not_mem hpart]
    | cons next parts =>
      rw [List.intercalate_cons_cons, List.append_assoc, splitOn_of_append hpart,
        ih (List.cons_ne_nil next parts) hparts]

theorem splitOn_ne_nil (sep xs : List α) : splitOn sep xs ≠ [] := by
  rw [splitOn]
  split
  · exact List.cons_ne_nil _ _
  · split <;> exact List.cons_ne_nil _ _

/-- **Parts that were cut out are joined again.** -/
theorem intercalate_splitOn (sep xs : List α) : sep.intercalate (splitOn sep xs) = xs := by
  fun_induction splitOn sep xs with
  | case1 xs hcut => exact List.intercalate_singleton
  | case2 xs before after hcut hlength => exact List.intercalate_singleton
  | case3 xs before after hcut hlength ih =>
    obtain ⟨next, parts, hparts⟩ := List.exists_cons_of_ne_nil (splitOn_ne_nil sep after)
    rw [hparts] at ih ⊢
    rw [List.intercalate_cons_cons, ih]
    exact (cut_eq_some hcut).symm

/-- A separator by itself is passed over, and what follows it does not begin with another one. -/
theorem cut_pair_cons (hxy : x ≠ y) {a : α} (ha : x ≠ a) (rest : List α) :
    cut [x, y, x, y] (x :: y :: a :: rest) =
      (cut [x, y, x, y] (a :: rest)).map fun parts => (x :: y :: parts.1, parts.2) := by
  have hfirst : ¬ [x, y, x, y].isPrefixOf (x :: y :: a :: rest) = true := by
    simp only [List.isPrefixOf_iff_prefix, List.cons_prefix_cons, true_and]
    exact fun hp => ha hp.1
  have hy : x ∉ [y] := by simpa using hxy
  have hsecond : cut [x, y, x, y] (y :: a :: rest) =
      (cut [x, y, x, y] (a :: rest)).map fun parts => (y :: parts.1, parts.2) :=
    cut_append_of_not_mem hy (a :: rest)
  rw [cut, if_neg hfirst, hsecond, Option.map_map]
  rfl

/-- **Two separators in a row are found behind the last part**, as long as no part is empty. -/
theorem cut_intercalate (hxy : x ≠ y) {parts : List (List α)} (hne : parts ≠ [])
    (h : ∀ part ∈ parts, part ≠ [] ∧ x ∉ part) (rest : List α) :
    cut [x, y, x, y] ([x, y].intercalate parts ++ [x, y, x, y] ++ rest) =
      some ([x, y].intercalate parts, rest) := by
  induction parts with
  | nil => exact absurd rfl hne
  | cons part parts ih =>
    obtain ⟨hpart, hparts⟩ := List.forall_mem_cons.1 h
    cases parts with
    | nil =>
      rw [List.intercalate_singleton, List.append_assoc]
      exact cut_of_append hpart.2 rest
    | cons next parts =>
      have hlater := ih (List.cons_ne_nil next parts) hparts
      -- What follows the separator begins with the first element of the next part.
      obtain ⟨hnext, hmem⟩ := hparts next (List.mem_cons_self ..)
      obtain ⟨a, as, rfl⟩ := List.exists_cons_of_ne_nil hnext
      obtain ⟨behind, hbehind⟩ := intercalate_eq_append [x, y] (a :: as) parts
      have ha : x ≠ a := fun heq => hmem (heq ▸ List.mem_cons_self ..)
      rw [hbehind] at hlater
      rw [List.intercalate_cons_cons, hbehind]
      simp only [List.append_assoc, List.cons_append, List.nil_append] at hlater ⊢
      rw [cut_append_of_not_mem hpart.2, cut_pair_cons hxy ha, hlater]
      rfl

/-- What stands before the first separator has none in it. -/
theorem not_isInfix_of_cut {xs before after : List α} (hne : sep ≠ [])
    (h : cut sep xs = some (before, after)) : ¬ sep <:+: before := by
  induction xs generalizing before after with
  | nil =>
    rw [cut, if_neg (by simpa using hne)] at h
    cases h
  | cons a xs ih =>
    have hwhole := cut_eq_some h
    unfold cut at h
    split at h
    · obtain ⟨rfl, -⟩ : [] = before ∧ _ = after := by simpa using h
      rw [List.infix_nil]
      exact hne
    · next hfirst =>
      obtain ⟨parts, hparts, heq⟩ := Option.map_eq_some_iff.1 h
      obtain ⟨rfl, rfl⟩ : a :: parts.1 = before ∧ parts.2 = after := by simpa using heq
      rw [List.infix_cons_iff, not_or]
      refine ⟨fun hprefix => hfirst ?_, ih hparts⟩
      rw [List.isPrefixOf_iff_prefix, hwhole, List.append_assoc]
      exact hprefix.trans (List.prefix_append _ _)

/-- A text that is not cut has no separator in it. -/
theorem not_isInfix_of_cut_eq_none {xs : List α} (h : cut sep xs = none) : ¬ sep <:+: xs := by
  induction xs with
  | nil =>
    rw [List.infix_nil]
    rintro rfl
    simp [cut] at h
  | cons a xs ih =>
    unfold cut at h
    split at h
    · cases h
    · next hfirst =>
      rw [List.infix_cons_iff, not_or]
      exact ⟨mt List.isPrefixOf_iff_prefix.2 hfirst, ih (Option.map_eq_none_iff.1 h)⟩

/-- **No part has the separator in it.** -/
theorem not_isInfix_of_mem_splitOn (hne : sep ≠ []) {xs part : List α} (h : part ∈ splitOn sep xs) :
    ¬ sep <:+: part := by
  fun_induction splitOn sep xs with
  | case1 xs hcut =>
    obtain rfl := List.mem_singleton.1 h
    exact not_isInfix_of_cut_eq_none hcut
  | case2 xs before after hcut hlength => exact absurd (List.length_eq_zero_iff.1 hlength) hne
  | case3 xs before after hcut hlength ih =>
    rcases List.mem_cons.1 h with rfl | hlater
    · exact not_isInfix_of_cut hne hcut
    · exact ih hlater

/-- A part that does not have a separator of two elements in it is passed over. -/
theorem cut_pair_of_not_isInfix (hxy : x ≠ y) (h : ¬ [x, y] <:+: front) (rest : List α) :
    cut [x, y] (front ++ ([x, y] ++ rest)) = some (front, rest) := by
  induction front with
  | nil => exact cut_self_append
  | cons a front ih =>
    rw [List.infix_cons_iff, not_or] at h
    have hfirst : ¬ [x, y].isPrefixOf (a :: (front ++ ([x, y] ++ rest))) = true := by
      rw [List.isPrefixOf_iff_prefix]
      intro hprefix
      cases front with
      | nil => exact hxy (List.cons_prefix_cons.1 (List.cons_prefix_cons.1 hprefix).2).1.symm
      | cons b front => exact h.1 (by simpa using hprefix)
    rw [List.cons_append, cut, if_neg hfirst, ih h.2]
    rfl

theorem splitOn_pair_append (hxy : x ≠ y) (h : ¬ [x, y] <:+: front) (rest : List α) :
    splitOn [x, y] (front ++ ([x, y] ++ rest)) = front :: splitOn [x, y] rest := by
  rw [splitOn]
  split
  · next hcut =>
    rw [cut_pair_of_not_isInfix hxy h] at hcut
    cases hcut
  · next before after hcut =>
    rw [cut_pair_of_not_isInfix hxy h] at hcut
    obtain ⟨rfl, rfl⟩ : front = before ∧ rest = after := by simpa using hcut
    rw [dif_neg (by simp)]

/-- **Parts are found again** where a separator of two elements stands behind each, as long as no
part has it inside. -/
theorem splitOn_pair_flatMap (hxy : x ≠ y) {parts : List (List α)}
    (h : ∀ part ∈ parts, ¬ [x, y] <:+: part) :
    splitOn [x, y] (parts.flatMap (· ++ [x, y])) = parts ++ [[]] := by
  induction parts with
  | nil => exact splitOn_of_not_mem List.not_mem_nil
  | cons part parts ih =>
    obtain ⟨hpart, hparts⟩ := List.forall_mem_cons.1 h
    rw [List.flatMap_cons, List.append_assoc, splitOn_pair_append hxy hpart, ih hparts]
    rfl

/-- The parts of what stands before a separator, and the parts of what stands behind it. -/
theorem splitOn_append_cons (front rest : List α) :
    splitOn [x] (front ++ x :: rest) = splitOn [x] front ++ splitOn [x] rest := by
  fun_induction splitOn [x] front with
  | case1 front hcut =>
    exact splitOn_of_append (mt singleton_isInfix_iff.2 (not_isInfix_of_cut_eq_none hcut)) rest
  | case2 front before after hcut hlength => simp at hlength
  | case3 front before after hcut hlength ih =>
    have hmem : x ∉ before := mt singleton_isInfix_iff.2 (not_isInfix_of_cut (by simp) hcut)
    have hfirst : splitOn [x] (before ++ ([x] ++ (after ++ x :: rest))) = before :: _ :=
      splitOn_of_append hmem _
    rw [cut_eq_some hcut, List.append_assoc, List.append_assoc, hfirst, ih, List.cons_append]

end Cut

/-! ### Lines -/

/-- A line feed inside a part ends a line, and a carriage return stands before none of them. -/
theorem map_dropReturn_splitOn {part : List Char} (h : ¬ ['\r', '\n'] <:+: part) :
    (splitOn ['\n'] (part ++ ['\r'])).map dropReturn = splitOn ['\n'] part := by
  fun_induction splitOn ['\n'] part with
  | case1 part hcut =>
    have hfeed : '\n' ∉ part ++ ['\r'] := by
      have hmem := mt singleton_isInfix_iff.2 (not_isInfix_of_cut_eq_none hcut)
      simpa using hmem
    rw [splitOn_of_not_mem hfeed]
    simp [dropReturn]
  | case2 part before after hcut hlength => simp at hlength
  | case3 part before after hcut hlength ih =>
    obtain rfl := cut_eq_some hcut
    have hmem : '\n' ∉ before := mt singleton_isInfix_iff.2 (not_isInfix_of_cut (by simp) hcut)
    have hlater : ¬ ['\r', '\n'] <:+: after :=
      mt (List.IsInfix.trans · (List.suffix_append _ _).isInfix) h
    have hkept : dropReturn before = before := by
      refine if_neg fun hlast => h ?_
      obtain ⟨front, rfl⟩ := List.getLast?_eq_some_iff.1 hlast
      exact ⟨front, after, by simp⟩
    have hfirst : splitOn ['\n'] (before ++ (['\n'] ++ (after ++ ['\r']))) = before :: _ :=
      splitOn_of_append hmem _
    rw [List.append_assoc, List.append_assoc, hfirst, List.map_cons, hkept, ih hlater]

/-- **Lines that end with a carriage return and a line feed, as a reader of line feeds finds them.**
Every line feed inside a part ends a line as well. -/
theorem lines_flatMap_of_not_isInfix {parts : List (List Char)}
    (h : ∀ part ∈ parts, ¬ ['\r', '\n'] <:+: part) :
    lines (parts.flatMap (· ++ ['\r', '\n'])) = parts.flatMap (splitOn ['\n']) := by
  have hsplit : splitOn ['\n'] (parts.flatMap (· ++ ['\r', '\n'])) =
      (parts.flatMap fun part => splitOn ['\n'] (part ++ ['\r'])) ++ [[]] := by
    clear h
    induction parts with
    | nil => exact splitOn_of_not_mem List.not_mem_nil
    | cons part parts ih =>
      have hfirst := splitOn_append_cons (x := '\n') (part ++ ['\r'])
        (parts.flatMap (· ++ ['\r', '\n']))
      rw [ih] at hfirst
      simpa using hfirst
  have hreturn : ∀ part ∈ parts, (splitOn ['\n'] (part ++ ['\r'])).map dropReturn =
      splitOn ['\n'] part := fun part hpart => map_dropReturn_splitOn (h part hpart)
  simp only [lines, hsplit, List.dropLast_concat, List.getLast?_concat, List.map_flatMap]
  simp [List.flatMap_def, List.map_congr_left hreturn]

/-- **Lines are found again**, and behind the last line end nothing is left. -/
theorem lines_flatMap {parts : List (List Char)} (h : ∀ part ∈ parts, '\n' ∉ part) :
    lines (parts.flatMap (· ++ ['\r', '\n'])) = parts := by
  have hsingle : ∀ part ∈ parts, splitOn ['\n'] part = [part] := fun part hpart =>
    splitOn_of_not_mem (h part hpart)
  have hnone : ∀ part ∈ parts, ¬ ['\r', '\n'] <:+: part := fun part hpart hinside =>
    h part hpart (hinside.subset (by simp))
  rw [lines_flatMap_of_not_isInfix hnone, List.flatMap_def, List.map_congr_left hsingle]
  exact List.flatMap_singleton' parts

/-! ### Words and blanks -/

/-- A text without blanks. -/
def Solid (s : List Char) : Prop := ∀ c ∈ s, isBlank c = false

instance (s : List Char) : Decidable (Solid s) := List.decidableBAll (isBlank · = false) s

theorem wordsFrom_append {front : List Char} (h : Solid front) (word rest : List Char) :
    wordsFrom word (front ++ rest) = wordsFrom (front.reverse ++ word) rest := by
  induction front generalizing word with
  | nil => rfl
  | cons c front ih =>
    obtain ⟨hc, hfront⟩ := List.forall_mem_cons.1 h
    rw [List.cons_append, wordsFrom, hc, if_neg Bool.false_ne_true, ih hfront]
    simp

/-- **A word with a space behind it is found again.** -/
theorem words_append {word : List Char} (h : Solid word) (hne : word ≠ []) (rest : List Char) :
    words (word ++ ' ' :: rest) = word :: words rest := by
  have hspace : isBlank ' ' = true := by decide
  rw [words, wordsFrom_append h, List.append_nil, wordsFrom, if_pos hspace,
    if_neg (by simpa using hne), List.reverse_reverse]
  rfl

theorem words_of_solid {word : List Char} (h : Solid word) (hne : word ≠ []) :
    words word = [word] := by
  have hfront := wordsFrom_append h [] []
  rw [List.append_nil, List.append_nil] at hfront
  rw [words, hfront, wordsFrom, if_neg (by simpa using hne), List.reverse_reverse]

/-- A text without blanks has nothing to cut off. -/
theorem trim_of_solid {s : List Char} (h : Solid s) : trim s = s :=
  trim_eq_self (fun c hc => h c (List.mem_of_mem_head? hc))
    fun c hc => h c (List.mem_of_mem_getLast? hc)

/-- A blank at the front is cut off. -/
theorem trim_cons {c : Char} (h : isBlank c = true) (s : List Char) : trim (c :: s) = trim s := by
  have hleft : trimLeft (c :: s) = trimLeft s := List.dropWhile_cons_of_pos h
  rw [trim, trim, hleft]

end Text
end WebSocket
