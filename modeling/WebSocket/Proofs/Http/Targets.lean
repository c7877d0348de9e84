import Mathlib.Data.List.TakeWhile
import WebSocket.Proofs.Http.Body
import WebSocket.Proofs.Text.Cutting

/-!
# Where a target is cut

The target of a request is a word of its first line, and its path and its query are cut out of it
by searches of their own.  The path begins at a slash, behind the first scheme mark that stands
anywhere in the target, and ends before a question mark; the query is what follows the last
question mark.  So the two meet where the target has one question mark and no scheme mark.  A
scheme mark behind the question mark moves the path into the query, and between two question marks
stands what neither of them has.

## Main definitions

* `Http.Target.schemeMark`, `Http.Target.beforeQuery`, `Http.Target.fromSlash` — what the searches
  look for, and what they leave.

## Main results

* `Http.Target.fromPath_eq`, `Http.Target.path_eq`, `Http.Target.query_of_append` — the three
  searches.
* `Http.Request.path_of_parse` — **the path of a target that begins with a slash.**
* `Http.Request.path_and_query` — **what of a target is in its path, in its query, and in neither.**
-/

namespace WebSocket

namespace Text

/-! ### Words -/

theorem Solid.reverse {s : List Char} (h : Solid s) : Solid s.reverse :=
  fun c hc => h c (List.mem_reverse.1 hc)

/-- A word that is being read is a word when a blank or the end is reached, and so are those behind
it.  The induction follows the reader. -/
theorem solid_of_mem_wordsFrom {word s w : List Char} (hword : Solid word)
    (h : w ∈ wordsFrom word s) : w ≠ [] ∧ Solid w := by
  fun_induction wordsFrom word s with
  | case1 word hempty => simp at h
  | case2 word hne =>
    obtain rfl := List.mem_singleton.1 h
    exact ⟨by simpa using hne, hword.reverse⟩
  | case3 word c s hblank hempty ih => exact ih (by simp [Solid]) h
  | case4 word c s hblank hne ih =>
    rcases List.mem_cons.1 h with rfl | h
    · exact ⟨by simpa using hne, hword.reverse⟩
    · exact ih (by simp [Solid]) h
  | case5 word c s hblank ih =>
    exact ih (List.forall_mem_cons.2 ⟨by simpa using hblank, hword⟩) h

/-- **A word is not empty and has no blanks.** -/
theorem solid_of_mem_words {s w : List Char} (h : w ∈ words s) : w ≠ [] ∧ Solid w :=
  solid_of_mem_wordsFrom (by simp [Solid]) h

/-! ### Searches -/

section Cut

variable {α : Type} [BEq α] [LawfulBEq α] {x : α} {sep front rest xs : List α}

/-- A separator that stands nowhere is not found. -/
theorem cut_eq_none_of_absent (h : ¬ sep <:+: xs) : cut sep xs = none := by
  rw [Option.eq_none_iff_forall_ne_some]
  rintro ⟨before, after⟩ hcut
  exact h ⟨before, after, (cut_eq_some hcut).symm⟩

/-- The last place of an element is found. -/
theorem cutLast_append (h : x ∉ rest) : cutLast x (front ++ x :: rest) = some (front, rest) := by
  have hcut : cut [x] (rest.reverse ++ ([x] ++ front.reverse)) =
      some (rest.reverse, front.reverse) :=
    cut_of_append (by simpa using h) front.reverse
  have hreverse : (front ++ x :: rest).reverse = rest.reverse ++ ([x] ++ front.reverse) := by simp
  rw [cutLast, hreverse, hcut]
  simp

omit [BEq α] [LawfulBEq α] in
/-- An element that is there has a last place. -/
theorem exists_last_place (h : x ∈ xs) : ∃ front rest, xs = front ++ x :: rest ∧ x ∉ rest := by
  obtain ⟨before, after, hsplit, hnot⟩ := List.eq_append_cons_of_mem (List.mem_reverse.2 h)
  refine ⟨after.reverse, before.reverse, ?_, by simpa using hnot⟩
  rw [← List.reverse_reverse xs, hsplit]
  simp

end Cut

end Text

namespace Http

namespace Target

/-- What stands between a scheme and what it is the scheme of. -/
def schemeMark : List Char := [':', '/', '/']

/-- The part before the first question mark. -/
def beforeQuery (t : List Char) : List Char := t.takeWhile (· != '?')

/-- The part from the first slash on; all of it where there is none. -/
def fromSlash (t : List Char) : List Char := if '/' ∈ t then t.dropWhile (· != '/') else t

/-- What follows a question mark does not count. -/
theorem beforeQuery_append (front rest : List Char) :
    beforeQuery (front ++ '?' :: rest) = beforeQuery front := by
  induction front with
  | nil => rfl
  | cons c front ih =>
    simp only [List.cons_append, beforeQuery, List.takeWhile_cons] at ih ⊢
    rw [ih]

/-- What stands before the first slash is skipped, and there is no slash in it. -/
theorem exists_append_fromSlash (t : List Char) :
    ∃ skipped, t = skipped ++ fromSlash t ∧ '/' ∉ skipped := by
  unfold fromSlash
  split
  · refine ⟨t.takeWhile (· != '/'), List.takeWhile_append_dropWhile.symm, fun h => ?_⟩
    simpa using List.mem_takeWhile_imp h
  · exact ⟨[], rfl, List.not_mem_nil⟩

theorem fromSlash_of_head {t : List Char} (h : t.head? = some '/') : fromSlash t = t := by
  obtain ⟨rest, rfl⟩ := List.head?_eq_some_iff.1 h
  simp [fromSlash]

/-- Looking for a slash finds the first. -/
theorem fromSlash_eq_cut (t : List Char) :
    fromSlash t = match Text.cut ['/'] t with
      | some (_, path) => '/' :: path
      | none => t := by
  by_cases h : '/' ∈ t
  · obtain ⟨front, rest, rfl, hfront⟩ := List.eq_append_cons_of_mem h
    have hcut : Text.cut ['/'] (front ++ '/' :: rest) = some (front, rest) :=
      Text.cut_of_append hfront rest
    have hskip : (front ++ '/' :: rest).dropWhile (· != '/') = '/' :: rest := by
      rw [List.dropWhile_append_of_pos]
      · simp
      · exact fun c hc => bne_iff_ne.2 fun heq => hfront (heq ▸ hc)
    rw [fromSlash, if_pos h, hskip, hcut]
  · rw [fromSlash, if_neg h, Text.cut_of_not_mem h]

/-! ### The three searches -/

/-- **The path begins at the first slash behind the first scheme mark**, if there is one. -/
theorem fromPath_eq {t : List Char} (h : Text.Solid t) :
    fromPath t = fromSlash (match Text.cut schemeMark t with
      | some (_, rest) => rest
      | none => t) := by
  rw [fromPath, Text.trim_of_solid h, fromSlash_eq_cut]
  rfl

/-- What the path begins with, without a scheme mark. -/
theorem fromPath_of_no_mark {t : List Char} (h : Text.Solid t) (hmark : ¬ schemeMark <:+: t) :
    fromPath t = fromSlash t := by
  rw [fromPath_eq h, Text.cut_eq_none_of_absent hmark]

/-- The path is an end of the target that is cut short. -/
theorem exists_append_fromPath {t : List Char} (h : Text.Solid t) :
    ∃ skipped, t = skipped ++ fromPath t := by
  rw [fromPath_eq h]
  cases hcut : Text.cut schemeMark t with
  | none =>
    obtain ⟨skipped, hskipped, -⟩ := exists_append_fromSlash t
    exact ⟨skipped, hskipped⟩
  | some parts =>
    obtain ⟨scheme, rest⟩ := parts
    obtain ⟨skipped, hskipped, -⟩ := exists_append_fromSlash rest
    refine ⟨scheme ++ schemeMark ++ skipped, ?_⟩
    show t = scheme ++ schemeMark ++ skipped ++ fromSlash rest
    rw [List.append_assoc, ← hskipped]
    exact Text.cut_eq_some hcut

/-- **The path ends before a question mark.** -/
theorem path_eq (target : String) :
    path target = String.ofList (collapseDots (beforeQuery (fromPath target.toList))) := by
  rw [beforeQuery, Text.takeWhile_eq_cut, path]
  cases Text.cut ['?'] (fromPath target.toList) <;> rfl

/-- What is skipped ends before a question mark that is not in it. -/
theorem exists_append_of_skipped {skipped path front rest : List Char} (h : '?' ∉ skipped)
    (hsplit : front ++ '?' :: rest = skipped ++ path) :
    ∃ front', front = skipped ++ front' ∧ path = front' ++ '?' :: rest := by
  rcases List.append_eq_append_iff.1 hsplit with
    ⟨beyond, hbeyond, hbehind⟩ | ⟨front', hfront, hpath⟩
  · cases beyond with
    | nil => exact ⟨[], by simpa using hbeyond.symm, by simpa using hbehind.symm⟩
    | cons c beyond =>
      obtain ⟨rfl, -⟩ := List.cons_eq_cons.1 hbehind
      exact absurd (by simp [hbeyond]) h
  · exact ⟨front', hfront, hpath⟩

/-- The part before the first question mark is all there is, if there is none. -/
theorem behind_beforeQuery_eq_nil_iff {t : List Char} :
    t.dropWhile (· != '?') = [] ↔ '?' ∉ t := by
  rw [List.dropWhile_eq_nil_iff]
  refine ⟨fun hall hin => ?_, fun hnone c hc => ?_⟩
  · simpa using hall '?' hin
  · exact bne_iff_ne.2 fun heq => hnone (heq ▸ hc)

/-- **The query is what follows the last question mark.** -/
theorem query_of_append {target : String} {front rest : List Char}
    (h : target.toList = front ++ '?' :: rest) (hrest : '?' ∉ rest) :
    query target = Text.Form.parameters (Text.utf8 (String.ofList rest)) := by
  rw [query, h, Text.cutLast_append hrest]

end Target

namespace Request

open Target

/-! ### Requests -/

/-- The target of a request is a word of its first line. -/
theorem solid_target {data : Bytes} {r : Request} (h : parse data = .ok r) :
    Text.Solid r.target.toList := by
  cases hcut : cutHead data with
  | none =>
    unfold parse at h
    rw [hcut] at h
    simp at h
  | some parts =>
    obtain ⟨head, rest⟩ := parts
    rw [parse_of_cutHead hcut] at h
    obtain ⟨⟨method, target⟩, hfirst, h⟩ := exists_of_bind_eq_ok h
    have htarget : r.target = target := by
      cases hbody : bodyOf head rest ((headLines head).tail.map fieldOfLine) with
      | error e =>
        rw [hbody] at h
        simp [Except.map] at h
      | ok body =>
        rw [hbody] at h
        exact (congrArg Request.target (Except.ok.inj h)).symm
    rw [htarget]
    unfold firstLine at hfirst
    split at hfirst
    · next method' target' version more hwords =>
      obtain ⟨-, rfl⟩ : String.ofList method' = method ∧ String.ofList target' = target := by
        simpa using hfirst
      have hmem : target' ∈ Text.words ((headLines head).headD []) := by
        rw [hwords]
        simp
      simpa using (Text.solid_of_mem_words hmem).2
    · simp at hfirst

/-- The path of a target that begins with a slash and has no scheme mark. -/
theorem path_of_no_mark {data : Bytes} {r : Request} (h : parse data = .ok r)
    (hslash : r.target.toList.head? = some '/') (hmark : ¬ schemeMark <:+: r.target.toList) :
    r.path = String.ofList (collapseDots (beforeQuery r.target.toList)) := by
  rw [Request.path, path_eq, fromPath_of_no_mark (solid_target h) hmark, fromSlash_of_head hslash]

/-- **The path of a target that begins with a slash.**  Without a scheme mark it is what stands
before the first question mark, with its dot segments taken out, so that two requests whose targets
differ behind the question mark only ask for the same path.  With a scheme mark, on whichever side
of the question mark, the path is read from what follows that. -/
theorem path_of_parse {data : Bytes} {r : Request} (h : parse data = .ok r)
    (hslash : r.target.toList.head? = some '/') :
    (¬ schemeMark <:+: r.target.toList →
      r.path = String.ofList (collapseDots (beforeQuery r.target.toList)) ∧
      ∀ data' r', parse data' = .ok r' → r'.target.toList.head? = some '/' →
        ¬ schemeMark <:+: r'.target.toList →
        beforeQuery r'.target.toList = beforeQuery r.target.toList → r'.path = r.path) ∧
    ∀ scheme rest, Text.cut schemeMark r.target.toList = some (scheme, rest) →
      r.path = String.ofList (collapseDots (beforeQuery (fromSlash rest))) := by
  refine ⟨fun hmark => ⟨path_of_no_mark h hslash hmark, ?_⟩, ?_⟩
  · intro data' r' h' hslash' hmark' hsame
    rw [path_of_no_mark h hslash hmark, path_of_no_mark h' hslash' hmark', hsame]
  · intro scheme rest hcut
    rw [Request.path, path_eq, fromPath_eq (solid_target h), hcut]

/-- A request for a target. -/
def getting (target : String) : Bytes := Text.utf8 ("GET " ++ target ++ " HTTP/1.1\r\n\r\n")

/-- A dot segment is taken out, and another query asks for the same path. -/
theorem path_of_parse_room : ∃ r r' : Request,
    parse (getting "/chat/./room?user=ann") = .ok r ∧ parse (getting "/chat/./room?a/b") = .ok r' ∧
      r.target.toList.head? = some '/' ∧ ¬ schemeMark <:+: r.target.toList ∧
      r'.target.toList.head? = some '/' ∧ ¬ schemeMark <:+: r'.target.toList ∧
      beforeQuery r'.target.toList = beforeQuery r.target.toList ∧
      r.path = "/chat/room" ∧ r'.path = r.path := by
  have hfirst : parse (getting "/chat/./room?user=ann") =
      .ok ⟨"GET", "/chat/./room?user=ann", [], []⟩ := by
    decide +kernel
  have hsecond : parse (getting "/chat/./room?a/b") = .ok ⟨"GET", "/chat/./room?a/b", [], []⟩ := by
    decide +kernel
  have hmark : ¬ schemeMark <:+: "/chat/./room?user=ann".toList := by decide +kernel
  have hmark' : ¬ schemeMark <:+: "/chat/./room?a/b".toList := by decide +kernel
  have hroom := (path_of_parse hfirst rfl).1 hmark
  refine ⟨_, _, hfirst, hsecond, rfl, hmark, rfl, hmark', by decide +kernel, ?_, ?_⟩
  · rw [hroom.1]
    decide +kernel
  · exact hroom.2 _ _ hsecond rfl hmark' (by decide +kernel)

/-- A query with an address in it: the path that is read is that of the address. -/
theorem not_path_beforeQuery :
    ¬ ∀ data r, parse data = .ok r → r.target.toList.head? = some '/' →
      r.path = String.ofList (collapseDots (beforeQuery r.target.toList)) := by
  intro h
  have hparse : parse (getting "/a?u=http://h/b") = .ok ⟨"GET", "/a?u=http://h/b", [], []⟩ := by
    decide +kernel
  have hpath := h _ _ hparse rfl
  exact absurd hpath (by decide +kernel)

/-- **What of a target is in its path, in its query, and in neither.**  The query is what follows
the last question mark.  The path begins behind what is `skipped`, which is nothing for a target
that begins with a slash and has no scheme mark, and it ends before the next question mark.  As
long as no question mark is skipped, all of the rest is in the path or in the query if the target
has one question mark; if it has more, what stands between the first and the last is `lost`. -/
theorem path_and_query {data : Bytes} {r : Request} (h : parse data = .ok r)
    (hmark : '?' ∈ r.target.toList) :
    ∃ skipped front rest, r.target.toList = front ++ '?' :: rest ∧ '?' ∉ rest ∧
      r.query = Text.Form.parameters (Text.utf8 (String.ofList rest)) ∧
      r.target.toList = skipped ++ fromPath r.target.toList ∧
      r.path = String.ofList (collapseDots (beforeQuery (fromPath r.target.toList))) ∧
      ('?' ∉ skipped → ∃ lost,
        front = skipped ++ beforeQuery (fromPath r.target.toList) ++ lost ∧
          (lost = [] ↔ '?' ∉ front)) ∧
      (r.target.toList.head? = some '/' → ¬ schemeMark <:+: r.target.toList → skipped = []) := by
  obtain ⟨front, rest, htarget, hrest⟩ := Text.exists_last_place hmark
  obtain ⟨skipped, hskipped⟩ := exists_append_fromPath (solid_target h)
  refine ⟨skipped, front, rest, htarget, hrest, query_of_append htarget hrest, hskipped,
    path_eq r.target, fun hnone => ?_, fun hslash hplain => ?_⟩
  · -- The path begins before the last question mark, as none is skipped.
    obtain ⟨front', rfl, hpath⟩ := exists_append_of_skipped hnone (htarget.symm.trans hskipped)
    have hcut : beforeQuery (fromPath r.target.toList) = beforeQuery front' := by
      rw [hpath, beforeQuery_append]
    refine ⟨front'.dropWhile (· != '?'), ?_, ?_⟩
    · rw [hcut, List.append_assoc, beforeQuery, List.takeWhile_append_dropWhile]
    · rw [behind_beforeQuery_eq_nil_iff, List.mem_append, or_iff_right hnone]
  · have hall : fromPath r.target.toList = r.target.toList := by
      rw [fromPath_of_no_mark (solid_target h) hplain, fromSlash_of_head hslash]
    rw [hall] at hskipped
    simpa using hskipped

/-- Between two question marks a parameter is lost. -/
theorem path_and_query_lost : ∃ (r : Request) (lost rest : List Char),
    parse (getting "/a?x=1?y=2") = .ok r ∧ '?' ∈ r.target.toList ∧
      r.target.toList = "/a".toList ++ lost ++ '?' :: rest ∧ lost ≠ [] ∧ r.path = "/a" ∧
      r.query = Text.Form.parameters (Text.utf8 (String.ofList rest)) ∧ r.query = [("y", "2")] := by
  have hparse : parse (getting "/a?x=1?y=2") = .ok ⟨"GET", "/a?x=1?y=2", [], []⟩ := by
    decide +kernel
  have hmark : '?' ∈ "/a?x=1?y=2".toList := by decide +kernel
  obtain ⟨skipped, front, rest, htarget, hrest, hquery, -, hpath, hcut, hnone⟩ :=
    path_and_query hparse hmark
  obtain rfl : skipped = [] := hnone rfl (by decide +kernel)
  obtain ⟨lost, hfront, -⟩ := hcut List.not_mem_nil
  have hbefore : beforeQuery (fromPath "/a?x=1?y=2".toList) = "/a".toList := by decide +kernel
  rw [hbefore, List.nil_append] at hfront
  refine ⟨_, lost, rest, hparse, hmark, hfront ▸ htarget, ?_, ?_, hquery, by decide +kernel⟩
  · -- Without it the query would begin at the first question mark, and have the second in it.
    rintro rfl
    rw [hfront, List.append_nil] at htarget
    obtain rfl : "x=1?y=2".toList = rest := by simpa using htarget
    exact hrest (by decide +kernel)
  · rw [hpath, hbefore]
    decide +kernel

/-- A value with a question mark in it: the query is not all that follows the first one. -/
theorem not_query_behind_first :
    ¬ ∀ data r, parse data = .ok r → ∀ front rest, r.target.toList = front ++ '?' :: rest →
      '?' ∉ front → r.query = Text.Form.parameters (Text.utf8 (String.ofList rest)) := by
  intro h
  have hparse : parse (getting "/a?x=1?y=2") = .ok ⟨"GET", "/a?x=1?y=2", [], []⟩ := by
    decide +kernel
  have hquery := h _ _ hparse "/a".toList "x=1?y=2".toList (by decide +kernel) (by decide +kernel)
  exact absurd hquery (by decide +kernel)

end Request

end Http

end WebSocket
