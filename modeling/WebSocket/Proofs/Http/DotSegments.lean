import Mathlib.Data.List.Basic
import Mathlib.Logic.Function.Iterate
import WebSocket.Proofs.Http.Targets
import WebSocket.Proofs.Text.Cutting

/-!
# Dot segments

A path is a row of segments with slashes between them, and a segment that is a single dot stands for
the place where the path already is.  Such segments are taken out by rewriting: each `/./` of the
text becomes `/`, from left to right, over and over until none is left.  One pass is not enough,
since in `/././` the second occurrence begins inside the first.

Seen through its segments a pass only takes out dots, and neither the first segment nor the last.
So what all passes take out together does not depend on how the occurrences overlap, and when the
rewriting comes to its end every dot between the first and the last segment is gone.

## Main definitions

* `Http.Target.segments` — the segments of a path.
* `Http.Target.dropDots`, `Http.Target.withoutDots` — segments without the dots among them.
* `Http.Target.pass` — one pass of the rewriting.

## Main results

* `Http.Target.withoutDots_pass` — a pass changes nothing but dots between two segments.
* `Http.Target.withoutDots_of_plain` — where no occurrence is left, no such dot is.
* `Http.Target.exists_passes` — after so many passes, and no fewer, the rewriting ends.
* `Http.Target.collapseDots_normal` — **the rewriting ends in the path without its dot segments.**
-/

namespace WebSocket

namespace Http

namespace Target

/-! ### Segments -/

/-- The segments of a path, between its slashes. -/
def segments (path : List Char) : List (List Char) := Text.splitOn ['/'] path

/-- Segments without the dots among them, except for the last one. -/
def dropDots (segments : List (List Char)) : List (List Char) :=
  segments.dropLast.filter (· ≠ ['.']) ++ segments.getLast?.toList

/-- Segments without the dots between the first and the last of them. -/
def withoutDots (segments : List (List Char)) : List (List Char) :=
  segments.take 1 ++ dropDots (segments.drop 1)

theorem segments_ne_nil (path : List Char) : segments path ≠ [] := Text.splitOn_ne_nil ['/'] path

/-- A slash ends a segment, whatever stands before it and behind it. -/
theorem segments_append (front rest : List Char) :
    segments (front ++ '/' :: rest) = segments front ++ segments rest :=
  Text.splitOn_append_cons front rest

/-- A path is its segments with slashes between them. -/
theorem intercalate_segments (path : List Char) : ['/'].intercalate (segments path) = path :=
  Text.intercalate_splitOn ['/'] path

/-- A dot segment is a segment of its own. -/
theorem segments_dotSegment (front rest : List Char) :
    segments (front ++ dotSegment ++ rest) = segments front ++ ['.'] :: segments rest := by
  have hdot : segments ('.' :: '/' :: rest) = ['.'] :: segments rest := by
    have hone : segments ['.'] = [['.']] := Text.splitOn_of_not_mem (by decide)
    exact (segments_append ['.'] rest).trans (by rw [hone, List.singleton_append])
  have hfront := segments_append front ('.' :: '/' :: rest)
  rw [hdot] at hfront
  rw [List.append_assoc]
  exact hfront

variable {front rest : List (List Char)}

/-- Of segments with others behind them, all dots are dropped. -/
theorem dropDots_append (hrest : rest ≠ []) (front : List (List Char)) :
    dropDots (front ++ rest) = front.filter (· ≠ ['.']) ++ dropDots rest := by
  unfold dropDots
  rw [List.dropLast_append_of_ne_nil hrest, List.getLast?_append_of_ne_nil front hrest,
    List.filter_append, List.append_assoc]

/-- The segment between the two slashes of a dot segment has others behind it. -/
theorem dropDots_dot_cons (path : List Char) :
    dropDots (['.'] :: segments path) = dropDots (segments path) :=
  dropDots_append (segments_ne_nil path) [['.']]

/-- Of segments with others behind them, all dots but a first one are taken out. -/
theorem withoutDots_append (hfront : front ≠ []) (hrest : rest ≠ []) :
    withoutDots (front ++ rest) =
      front.take 1 ++ ((front.drop 1).filter (· ≠ ['.']) ++ dropDots rest) := by
  have hone : 1 ≤ front.length := List.length_pos_iff.2 hfront
  unfold withoutDots
  rw [List.take_append_of_le_length hone, List.drop_append_of_le_length hone, dropDots_append hrest]

/-! ### One pass -/

/-- One pass of the rewriting. -/
def pass (path : List Char) : List Char := Text.replaceAll dotSegment ['/'] path

/-- **A pass drops nothing but dots.**  The induction is on the occurrences that the pass finds. -/
theorem dropDots_pass (path : List Char) :
    dropDots (segments (pass path)) = dropDots (segments path) := by
  unfold pass
  fun_induction Text.replaceAll dotSegment ['/'] path with
  | case1 path hcut => rfl
  | case2 path before after hcut hlength => rfl
  | case3 path before after hcut hlength ih =>
    have hjoined : before ++ ['/'] ++ Text.replaceAll dotSegment ['/'] after =
        before ++ '/' :: Text.replaceAll dotSegment ['/'] after := List.append_assoc ..
    rw [hjoined, segments_append, dropDots_append (segments_ne_nil _), ih, Text.cut_eq_some hcut,
      segments_dotSegment, dropDots_append (List.cons_ne_nil _ _), dropDots_dot_cons]

theorem pass_of_absent {path : List Char} (h : Text.cut dotSegment path = none) :
    pass path = path := by
  rw [pass, Text.replaceAll]
  split
  · rfl
  · next hcut =>
    rw [h] at hcut
    cases hcut

theorem pass_of_found {path before after : List Char}
    (h : Text.cut dotSegment path = some (before, after)) :
    pass path = before ++ '/' :: pass after := by
  rw [pass, Text.replaceAll]
  split
  · next hcut =>
    rw [h] at hcut
    cases hcut
  · next before' after' hcut =>
    obtain ⟨rfl, rfl⟩ : before = before' ∧ after = after' := by simpa [h] using hcut
    rw [dif_neg (by decide)]
    exact List.append_assoc ..

/-- **A pass takes out nothing but dots between the first segment and the last.** -/
theorem withoutDots_pass (path : List Char) :
    withoutDots (segments (pass path)) = withoutDots (segments path) := by
  cases hcut : Text.cut dotSegment path with
  | none => rw [pass_of_absent hcut]
  | some parts =>
    obtain ⟨before, after⟩ := parts
    rw [pass_of_found hcut, segments_append,
      withoutDots_append (segments_ne_nil _) (segments_ne_nil _), dropDots_pass,
      Text.cut_eq_some hcut, segments_dotSegment,
      withoutDots_append (segments_ne_nil _) (List.cons_ne_nil _ _), dropDots_dot_cons]

/-! ### The end of the rewriting -/

/-- A dot between two segments is an occurrence in the path. -/
theorem dotSegment_isInfix {path : List Char} (hfront : front ≠ []) (hrest : rest ≠ [])
    (h : segments path = front ++ ['.'] :: rest) : dotSegment <:+: path := by
  refine ⟨['/'].intercalate front, ['/'].intercalate rest, ?_⟩
  have hdot := Text.intercalate_append ['/'] (List.cons_ne_nil ['.'] []) hrest
  rw [List.singleton_append, List.intercalate_singleton] at hdot
  rw [← intercalate_segments path, h,
    Text.intercalate_append ['/'] hfront (List.cons_ne_nil ['.'] rest), hdot]
  simp [dotSegment]

/-- **Where no occurrence is left, there is no dot between the first segment and the last.** -/
theorem withoutDots_of_plain {path : List Char} (h : ¬ dotSegment <:+: path) :
    withoutDots (segments path) = segments path := by
  obtain ⟨first, others, hsegments⟩ := List.exists_cons_of_ne_nil (segments_ne_nil path)
  rw [hsegments, withoutDots]
  show first :: dropDots others = first :: others
  congr 1
  rcases List.eq_nil_or_concat others with rfl | ⟨inner, last, rfl⟩
  · rfl
  · have hkept : inner.filter (· ≠ ['.']) = inner := by
      rw [List.filter_eq_self]
      intro s hs
      rw [decide_eq_true_eq]
      rintro rfl
      obtain ⟨front, rest, rfl⟩ := List.append_of_mem hs
      refine h (dotSegment_isInfix (List.cons_ne_nil first front)
        (List.concat_ne_nil last rest) ?_)
      rw [hsegments]
      simp
    rw [List.concat_eq_append, dropDots_append (List.cons_ne_nil last []), hkept]
    rfl

/-- Looking for an occurrence finds one exactly where there is one. -/
theorem cut_dotSegment_isSome {path : List Char} :
    (Text.cut dotSegment path).isSome ↔ dotSegment <:+: path := by
  constructor
  · intro h
    obtain ⟨⟨before, after⟩, hcut⟩ := Option.isSome_iff_exists.1 h
    exact ⟨before, after, (Text.cut_eq_some hcut).symm⟩
  · intro h
    rw [Option.isSome_iff_ne_none]
    intro hnone
    exact Text.not_isInfix_of_cut_eq_none hnone h

/-- **The rewriting ends**: there is an occurrence before each of so many passes, and none behind
them.  A pass that finds one makes the path shorter. -/
theorem exists_passes (path : List Char) :
    ∃ n ≤ path.length, (∀ k < n, dotSegment <:+: pass^[k] path) ∧
      pass^[n] path = collapseDots path ∧ ¬ dotSegment <:+: collapseDots path := by
  fun_induction collapseDots path with
  | case1 path hfound ih =>
    obtain ⟨n, hn, hbefore, hend, hplain⟩ := ih
    have hshorter : (pass path).length < path.length :=
      Text.length_replaceAll_lt (by decide) hfound
    refine ⟨n + 1, Nat.lt_of_le_of_lt hn hshorter, ?_, hend, hplain⟩
    intro k hk
    cases k with
    | zero => exact cut_dotSegment_isSome.1 hfound
    | succ k => exact hbefore k (Nat.lt_of_succ_lt_succ hk)
  | case2 path hnone =>
    refine ⟨0, Nat.zero_le _, ?_, rfl, mt cut_dotSegment_isSome.2 hnone⟩
    intro k hk
    exact absurd hk (Nat.not_lt_zero k)

/-- Any number of passes takes out nothing but dots between the first segment and the last. -/
theorem withoutDots_passes (n : Nat) (path : List Char) :
    withoutDots (segments (pass^[n] path)) = withoutDots (segments path) := by
  induction n generalizing path with
  | zero => rfl
  | succ n ih => exact (ih (pass path)).trans (withoutDots_pass path)

theorem segments_collapseDots (path : List Char) :
    segments (collapseDots path) = withoutDots (segments path) := by
  obtain ⟨n, -, -, hend, hplain⟩ := exists_passes path
  rw [← withoutDots_of_plain hplain, ← hend, withoutDots_passes]

/-- A first and a last segment that are dots stay, and so do two slashes in a row. -/
example : collapseDots "./././/a/.b/./.".toList = ".//a/.b/.".toList := by
  rw [← intercalate_segments (collapseDots _), segments_collapseDots]
  decide +kernel

/-- The path of a target has no dot segments left but a first and a last one. -/
theorem toList_path (target : String) :
    (path target).toList =
      ['/'].intercalate (withoutDots (segments (beforeQuery (fromPath target.toList)))) := by
  rw [path_eq, String.toList_ofList, ← segments_collapseDots, intercalate_segments]

/-- **The rewriting ends in the path without its dot segments**, for every path.  It takes no more
passes than the path is long, each of which finds an occurrence of `/./`; then none is left.  The
segments of what it ends in are those of the path, in order, without the dots between the first and
the last. -/
theorem collapseDots_normal (path : List Char) :
    (∃ n ≤ path.length, (∀ k < n, dotSegment <:+: pass^[k] path) ∧
      pass^[n] path = collapseDots path) ∧
      ¬ dotSegment <:+: collapseDots path ∧
      segments (collapseDots path) = withoutDots (segments path) ∧
      collapseDots path = ['/'].intercalate (withoutDots (segments path)) := by
  obtain ⟨n, hn, hbefore, hend, hplain⟩ := exists_passes path
  have hsegments := segments_collapseDots path
  refine ⟨⟨n, hn, hbefore, hend⟩, hplain, hsegments, ?_⟩
  rw [← hsegments, intercalate_segments]

end Target

end Http

end WebSocket
