import WebSocket.Loop.Course

/-!
# Loops survive what goes wrong in an iteration

A loop goes on after an iteration that failed or panicked, and tells its hook of each of these, one
after the other.  It only ends when its flag is raised, by the owner who stops it or by whoever the
task has given the flag to, and it cleans up as the last thing it does.

This is said of every order of the steps, and for all hooks that return.  A hook that panics is a
different matter: nobody catches it, and the thread is lost.

## Main definitions

* `LoopThread.reports`, `LoopThread.Course.failures` — what the hook was told, and what it is to be
  told.
* `LoopThread.CleanedLast` — the clean-up is the last thing that was done.
* `LoopThread.Course.Change` — what a step can do.
* `LoopThread.Course.Kept` — what every step keeps.
* `LoopThread.Course.Tidy`, `LoopThread.Course.Steady` — what a step keeps if its hook returns, and
  if nobody raises the flag either.
* `LoopThread.Course.Lost` — what is left when the hook panics.

## Main results

* `LoopThread.Course.change_of_step` — a step does nothing else.
* `LoopThread.Course.Kept.change`, `LoopThread.Course.kept_run` — the invariant holds in
  every order.
* `LoopThread.Course.lost_of_hook_panic` — a hook that panics ends the loop.
* `LoopThread.Course.survives_failing_iterations` — **a loop survives every failing iteration.**
-/

namespace WebSocket

namespace LoopThread

/-- The errors that the hook was told of, in order. -/
def reports (past : List LoopEffect) : List ServerError :=
  past.filterMap fun
    | .reported cause => some cause
    | .iterated _ | .cleaned | .event _ => none

/-- The iterations that were made, in order. -/
def iterations (past : List LoopEffect) : List Iteration :=
  past.filterMap fun
    | .iterated i => some i
    | .reported _ | .cleaned | .event _ => none

/-- The loop has cleaned up once, and only log events came after it. -/
def CleanedLast (past : List LoopEffect) : Prop :=
  ∃ before events, past = before ++ .cleaned :: List.map .event events ∧ .cleaned ∉ before

/-- Events that are logged later do not matter. -/
theorem CleanedLast.append_events {past : List LoopEffect} (h : CleanedLast past)
    (events : List Event) : CleanedLast (past ++ events.map .event) := by
  obtain ⟨before, earlier, rfl, hbefore⟩ := h
  refine ⟨before, earlier ++ events, ?_, hbefore⟩
  rw [List.map_append, List.append_assoc, List.cons_append]

/-- The error that the hook is being told of. -/
def Stage.pending : Stage → List ServerError
  | .telling cause => [cause]
  | .looking | .iterating | .resting | .cleaning | .left => []

namespace Course

/-- The iteration that ends with the step. -/
def Move.iteration? : Move → Option Iteration
  | .iterate i => some i
  | _ => none

/-- The step raises the flag. -/
def Move.raises : Move → Bool
  | .stop | .touch true => true
  | .iterate i => i.raisesFlag
  | _ => false

/-- The errors of the iterations of a loop, in order. -/
def failures (name : String) (moves : List Move) : List ServerError :=
  (moves.filterMap Move.iteration?).filterMap fun i => i.verdict.cause? name

/-- The error of the iteration that ends with the step. -/
def Move.failure? (name : String) (m : Move) : Option ServerError :=
  m.iteration?.bind fun i => i.verdict.cause? name

theorem failures_eq (name : String) (moves : List Move) :
    failures name moves = moves.filterMap (Move.failure? name) := List.filterMap_filterMap

theorem toList_failure?_of_none {m : Move} {name : String} (hm : m.iteration? = none) :
    (m.failure? name).toList = [] := by
  rw [Move.failure?, hm]
  rfl

/-! ### The steps -/

/-- What a step can do. -/
inductive Change (c : Course) : Move → Course → Prop
  | looked : c.stage = .looking → Change c .look c.look
  | iterated (i : Iteration) : c.stage = .iterating → Change c (.iterate i) (c.iterate i)
  | told {cause : ServerError} (panics : Bool) : c.stage = .telling cause →
      Change c (.tell panics) (c.tell panics cause)
  | rested : c.stage = .resting → Change c .rest { c with stage := .looking }
  | cleanedUp (panics : Bool) : c.stage = .cleaning → Change c (.cleanUp panics) (c.cleanUp panics)
  | stopped : Change c .stop c.stop
  | joined : c.stage = .left → c.awaited = true → Change c .join c.join
  | touched (raised : Bool) : Change c (.touch raised) (c.touch raised)

variable {c d : Course} {m : Move} {moves : List Move} {name : String}

/-- **A step does nothing else.** -/
theorem change_of_step (hs : c.step m = some d) : Change c m d := by
  unfold step at hs
  split at hs
  case h_7 =>
    split at hs
    · next hstage hawaited =>
      obtain rfl := Option.some.inj hs
      exact .joined hstage hawaited
    · simp at hs
  case h_9 => simp at hs
  all_goals
    obtain rfl := Option.some.inj hs
    constructor <;> assumption

/-- What an iteration leaves behind, whether it failed or not. -/
theorem iterate_eq (i : Iteration) (c : Course) : ∃ events,
    (c.iterate i).past = c.past ++ .iterated i :: List.map .event events ∧
      (c.iterate i).stage.pending = (i.verdict.cause? c.loop.name).toList ∧
      (c.iterate i).stage ≠ .left ∧ (c.iterate i).stage ≠ .cleaning ∧
      (c.iterate i).loop =
        { c.loop with flag := if i.raisesFlag then c.loop.flag.raise else c.loop.flag } := by
  have hloop : (if i.raisesFlag then { c.loop with flag := c.loop.flag.raise } else c.loop) =
      { c.loop with flag := if i.raisesFlag then c.loop.flag.raise else c.loop.flag } := by
    split <;> rfl
  unfold iterate
  cases hcause : i.verdict.cause? c.loop.name with
  | none => exact ⟨[], rfl, rfl, by simp, by simp, hloop⟩
  | some cause =>
    exact ⟨[.loopFailed c.loop.name cause], rfl, rfl, by simp, by simp, hloop⟩

theorem stage_look (c : Course) : c.look.stage ≠ .left := by
  unfold look
  split <;> simp

/-! ### What every step keeps -/

/-- The thread of the loop is there. -/
structure There (c : Course) : Prop where
  stage : c.stage ≠ .left
  running : c.loop.isRunning = true
  /-- Nobody has seen it end. -/
  joined : c.loop.joined = false
  /-- It has not cleaned up. -/
  cleaned : .cleaned ∉ c.past

/-- The thread of the loop is gone. -/
structure Gone (c : Course) : Prop where
  stage : c.stage = .left
  running : c.loop.isRunning = false

/-- What is known of a loop with a name. -/
structure Kept (name : String) (c : Course) : Prop where
  name : c.loop.name = name
  thread : c.There ∨ c.Gone

/-- A loop that has just begun. -/
def begun (name : String) : Course :=
  ⟨⟨name, .new, .running, false⟩, .looking, false, [.event (.loopStarted name)]⟩

theorem eq_of_spawn? (hc : Course.spawn? name = some c) : c = begun name := by
  obtain ⟨s, hs, rfl⟩ := Option.map_eq_some_iff.1 hc
  unfold LoopThread.spawn? at hs
  split at hs
  · simp at hs
  · obtain rfl := Option.some.inj hs
    rfl

/-- A name without NUL can name the thread of a loop. -/
theorem spawn?_of_name (hname : name.contains (Char.ofNat 0) = false) :
    Course.spawn? name = some (begun name) := by
  simp [Course.spawn?, LoopThread.spawn?, hname, begun]

theorem kept_spawn (hc : Course.spawn? name = some c) : c.Kept name := by
  obtain rfl := eq_of_spawn? hc
  exact ⟨rfl, .inl ⟨by simp [begun], rfl, rfl, by simp [begun]⟩⟩

theorem Kept.there (hkept : c.Kept name) (hstage : c.stage ≠ .left) : c.There :=
  hkept.thread.resolve_right fun hgone => hstage hgone.stage

/-- **What every step keeps.** -/
theorem Kept.change (hkept : c.Kept name) (hc : Change c m d) : d.Kept name := by
  cases hc with
  | looked hstage =>
    have hthere := hkept.there (by simp [hstage])
    exact ⟨hkept.name, .inl ⟨stage_look c, hthere.running, hthere.joined, hthere.cleaned⟩⟩
  | iterated i hstage =>
    have hthere := hkept.there (by simp [hstage])
    obtain ⟨events, hpast, -, hleft, -, hloop⟩ := iterate_eq i c
    refine ⟨by rw [hloop]; exact hkept.name, .inl ⟨hleft, ?_, ?_, ?_⟩⟩
    · rw [hloop]
      exact hthere.running
    · rw [hloop]
      exact hthere.joined
    · rw [hpast]
      simp [hthere.cleaned]
  | told panics hstage =>
    have hthere := hkept.there (by simp [hstage])
    cases panics with
    | true => exact ⟨hkept.name, .inr ⟨rfl, rfl⟩⟩
    | false =>
      refine ⟨hkept.name, .inl ⟨by simp [tell], hthere.running, hthere.joined, ?_⟩⟩
      simp [tell, hthere.cleaned]
  | rested hstage =>
    have hthere := hkept.there (by simp [hstage])
    exact ⟨hkept.name, .inl ⟨by simp, hthere.running, hthere.joined, hthere.cleaned⟩⟩
  | cleanedUp panics =>
    cases panics with
    | true => exact ⟨hkept.name, .inr ⟨rfl, rfl⟩⟩
    | false => exact ⟨hkept.name, .inr ⟨rfl, rfl⟩⟩
  | stopped | touched =>
    refine ⟨hkept.name, hkept.thread.imp (fun hthere => ?_) fun hgone => ?_⟩
    · exact ⟨hthere.stage, hthere.running, hthere.joined, hthere.cleaned⟩
    · exact ⟨hgone.stage, hgone.running⟩
  | joined hstage =>
    have hgone := hkept.thread.resolve_left fun hthere => hthere.stage hstage
    exact ⟨hkept.name, .inr ⟨hstage, hgone.running⟩⟩

/-- What the hook is told of is what the iterations failed with.  The call that the hook is in
counts. -/
theorem reports_change (hc : Change c m d) :
    reports d.past ++ d.stage.pending =
      reports c.past ++ c.stage.pending ++ (m.failure? c.loop.name).toList := by
  cases hc with
  | looked hstage =>
    have hpending : c.look.stage.pending = [] := by
      unfold look
      split <;> rfl
    rw [toList_failure?_of_none rfl, List.append_nil, hpending, hstage]
    rfl
  | iterated i hstage =>
    obtain ⟨events, hpast, hpending, -⟩ := iterate_eq i c
    rw [hpast, hpending, hstage]
    cases hcause : i.verdict.cause? c.loop.name <;>
      simp [reports, Move.failure?, Move.iteration?, Stage.pending, hcause]
  | told panics hstage =>
    rw [toList_failure?_of_none rfl, List.append_nil, hstage]
    cases panics <;> simp [tell, reports, Stage.pending]
  | rested hstage =>
    rw [toList_failure?_of_none rfl, List.append_nil, hstage]
    rfl
  | cleanedUp panics hstage =>
    rw [toList_failure?_of_none rfl, List.append_nil, hstage]
    cases panics <;> simp [cleanUp, reports, Stage.pending]
  | stopped | touched =>
    rw [toList_failure?_of_none rfl, List.append_nil]
    rfl
  | joined =>
    rw [toList_failure?_of_none rfl, List.append_nil]
    simp only [join]
    split <;> simp [reports]

theorem iterations_change (hc : Change c m d) :
    iterations d.past = iterations c.past ++ m.iteration?.toList := by
  cases hc with
  | iterated i hstage =>
    obtain ⟨events, hpast, -⟩ := iterate_eq i c
    rw [hpast]
    simp [iterations, Move.iteration?]
  | told panics hstage => cases panics <;> simp [tell, iterations, Move.iteration?]
  | cleanedUp panics hstage => cases panics <;> simp [cleanUp, iterations, Move.iteration?]
  | looked | rested | stopped | touched => exact (List.append_nil _).symm
  | joined hstage =>
    simp only [join]
    split <;> simp [iterations, Move.iteration?]

/-- A thread that is gone has cleaned up last. -/
def Tidy (c : Course) : Prop := c.stage = .left → CleanedLast c.past

/-- If the hook returns, the thread does not go without cleaning up. -/
theorem Tidy.change (htidy : c.Tidy) (hkept : c.Kept name) (hc : Change c m d)
    (hm : m ≠ .tell true) : d.Tidy := by
  intro hleft
  cases hc with
  | looked => exact absurd hleft (stage_look c)
  | iterated i =>
    obtain ⟨-, -, -, hstays, -⟩ := iterate_eq i c
    exact absurd hleft hstays
  | told panics =>
    cases panics with
    | true => exact absurd rfl hm
    | false => simp [tell] at hleft
  | rested => simp at hleft
  | cleanedUp panics hstage =>
    have hthere := hkept.there (by simp [hstage])
    cases panics with
    | true => exact ⟨c.past, [], rfl, hthere.cleaned⟩
    | false => exact ⟨c.past, [.loopStopped c.loop.name], rfl, hthere.cleaned⟩
  | stopped | touched => exact htidy hleft
  | joined hstage =>
    have hlast := htidy hstage
    simp only [join]
    split
    · exact hlast.append_events [.loopPanicked c.loop.name]
    · simpa using hlast

/-- A panic of the hook has ended the thread, and nothing is cleaned up. -/
structure Lost (c : Course) : Prop where
  stage : c.stage = .left
  phase : c.loop.phase = .crashed
  cleaned : .cleaned ∉ c.past

/-- What is lost stays lost. -/
theorem Lost.change (hlost : c.Lost) (hc : Change c m d) : d.Lost := by
  cases hc with
  | looked hstage | iterated _ hstage | told _ hstage | rested hstage | cleanedUp _ hstage =>
    rw [hlost.stage] at hstage
    cases hstage
  | stopped | touched => exact ⟨hlost.stage, hlost.phase, hlost.cleaned⟩
  | joined =>
    refine ⟨hlost.stage, hlost.phase, ?_⟩
    simp only [join]
    split <;> simp [hlost.cleaned]

/-- Nobody has raised the flag, and the thread is at its iterations. -/
structure Steady (c : Course) : Prop where
  flag : c.loop.flag.raised = false
  cleaning : c.stage ≠ .cleaning
  left : c.stage ≠ .left

/-- As long as nobody raises the flag and the hook returns, the thread stays at its iterations. -/
theorem Steady.change (hsteady : c.Steady) (hc : Change c m d) (hm : m ≠ .tell true)
    (hraises : m.raises = false) : d.Steady := by
  cases hc with
  | looked => exact ⟨hsteady.flag, by simp [look, hsteady.flag], by simp [look, hsteady.flag]⟩
  | iterated i =>
    obtain ⟨-, -, -, hleft, hcleaning, hloop⟩ := iterate_eq i c
    refine ⟨?_, hcleaning, hleft⟩
    have hflag : i.raisesFlag = false := hraises
    rw [hloop]
    simpa [hflag] using hsteady.flag
  | told panics =>
    cases panics with
    | true => exact absurd rfl hm
    | false => exact ⟨hsteady.flag, by simp [tell], by simp [tell]⟩
  | rested => exact ⟨hsteady.flag, by simp, by simp⟩
  | cleanedUp _ hstage => exact absurd hstage hsteady.cleaning
  | stopped => simp [Move.raises] at hraises
  | touched raised =>
    cases raised with
    | true => simp [Move.raises] at hraises
    | false => exact ⟨rfl, hsteady.cleaning, hsteady.left⟩
  | joined hstage => exact absurd hstage hsteady.left

/-- The steps that a thread takes by itself when its hook returns, up to its next iteration. -/
def toIteration : Stage → List Move
  | .looking => [.look]
  | .telling _ => [.tell false, .rest, .look]
  | .resting => [.rest, .look]
  | .iterating | .cleaning | .left => []

/-- The thread gets to its next iteration by itself. -/
theorem Steady.exists_iteration (hsteady : c.Steady) (i : Iteration) :
    ∃ d, c.run (toIteration c.stage ++ [.iterate i]) = some d := by
  obtain ⟨⟨name, ⟨raised⟩, phase, joined⟩, stage, awaited, past⟩ := c
  obtain rfl : raised = false := hsteady.flag
  cases stage with
  | looking | iterating | telling | resting => exact ⟨_, rfl⟩
  | cleaning => exact absurd rfl hsteady.cleaning
  | left => exact absurd rfl hsteady.left

/-! ### Every order of the steps -/

/-- What every step of an order keeps, the whole order keeps. -/
theorem run_keeps {P : Course → Prop}
    (hstep : ∀ {c d : Course} {m : Move}, m ∈ moves → P c → Change c m d → P d) (hc : P c)
    (hs : c.run moves = some d) : P d := by
  induction moves generalizing c with
  | nil =>
    obtain rfl : c = d := by simpa [Course.run] using hs
    exact hc
  | cons m moves ih =>
    obtain ⟨e, he, hs⟩ := run_cons.1 hs
    have hnext := hstep List.mem_cons_self hc (change_of_step he)
    exact ih (fun hm => hstep (List.mem_cons_of_mem _ hm)) hnext hs

/-- **The invariant holds in every order.** -/
theorem kept_run (hc : c.Kept name) (hs : c.run moves = some d) : d.Kept name :=
  run_keeps (fun _ hkept hchange => hkept.change hchange) hc hs

theorem tidy_run (hc : c.Kept name) (htidy : c.Tidy) (hmoves : .tell true ∉ moves)
    (hs : c.run moves = some d) : d.Tidy := by
  have hboth : d.Kept name ∧ d.Tidy := by
    refine run_keeps (P := fun c => c.Kept name ∧ c.Tidy) ?_ ⟨hc, htidy⟩ hs
    rintro c d m hm ⟨hkept, htidy⟩ hchange
    exact ⟨hkept.change hchange, htidy.change hkept hchange (ne_of_mem_of_not_mem hm hmoves)⟩
  exact hboth.2

theorem steady_run (hc : c.Steady) (hmoves : .tell true ∉ moves)
    (hraises : ∀ m ∈ moves, m.raises = false) (hs : c.run moves = some d) : d.Steady :=
  run_keeps (fun hm hsteady hchange =>
    hsteady.change hchange (ne_of_mem_of_not_mem hm hmoves) (hraises _ hm)) hc hs

/-- What every step adds to a list, the whole order adds to it.  The induction is on the steps. -/
theorem run_collects {β : Type} {P : Course → Prop} {f : Course → List β} {g : Move → Option β}
    (hstep : ∀ {c d : Course} {m : Move}, P c → Change c m d →
      P d ∧ f d = f c ++ (g m).toList) (hc : P c) (hs : c.run moves = some d) :
    f d = f c ++ moves.filterMap g := by
  induction moves generalizing c with
  | nil =>
    obtain rfl : c = d := by simpa [Course.run] using hs
    exact (List.append_nil _).symm
  | cons m moves ih =>
    obtain ⟨e, he, hs⟩ := run_cons.1 hs
    obtain ⟨hnext, hadds⟩ := hstep hc (change_of_step he)
    rw [ih hnext hs, hadds, List.append_assoc]
    cases hg : g m <;> simp [hg]

/-- The hook was told of every iteration that failed, in order; it may be in the last call. -/
theorem reports_run (hc : c.Kept name) (hs : c.run moves = some d) :
    reports d.past ++ d.stage.pending =
      reports c.past ++ c.stage.pending ++ failures name moves := by
  rw [failures_eq]
  refine run_collects (P := Kept name) (f := fun c => reports c.past ++ c.stage.pending) ?_ hc hs
  intro c d m hkept hchange
  have hadds := reports_change hchange
  rw [hkept.name] at hadds
  exact ⟨hkept.change hchange, hadds⟩

theorem iterations_run (hs : c.run moves = some d) :
    iterations d.past = iterations c.past ++ moves.filterMap Move.iteration? :=
  run_collects (P := fun _ => True) (f := fun c => iterations c.past)
    (fun _ hchange => ⟨trivial, iterations_change hchange⟩) trivial hs

variable {start : Course}

/-- A hook that panics ends the loop: the thread is lost, nothing is cleaned up, and no stop changes
that. -/
theorem lost_of_hook_panic (hstart : Course.spawn? name = some start)
    (hrun : start.run moves = some c) (hpanic : .tell true ∈ moves) : c.Lost := by
  obtain ⟨earlier, later, rfl⟩ := List.append_of_mem hpanic
  obtain ⟨d, hd, hrun⟩ := run_append.1 hrun
  obtain ⟨e, he, hrun⟩ := run_cons.1 hrun
  have hkept := kept_run (kept_spawn hstart) hd
  have hlost : e.Lost := by
    cases change_of_step he with
    | told _ hstage =>
      have hthere := hkept.there (by simp [hstage])
      exact ⟨rfl, rfl, by simp [tell, hthere.cleaned]⟩
  exact run_keeps (fun _ hlost hchange => hlost.change hchange) hlost hrun

/-- **A loop survives every failing iteration**, in every order of the steps of its thread, of those
who stop it and of whoever holds its flag.  The hook is told once of each iteration that failed, in
order; it may be in the last of these calls.  If its calls return, and as long as nobody raises the
flag, the loop runs, and its thread gets to the next iteration by itself, whatever that one comes
to.  Once somebody has waited for its end the loop does not run.  If the hook returned, it was told
of all errors by then, and the loop has cleaned up, once, after the last iteration and the last
report. -/
theorem survives_failing_iterations (hstart : Course.spawn? name = some start)
    (hrun : start.run moves = some c) :
    iterations c.past = moves.filterMap Move.iteration? ∧
      reports c.past ++ c.stage.pending = failures name moves ∧
      (.tell true ∉ moves → (∀ m ∈ moves, m.raises = false) →
        c.loop.isRunning = true ∧
          ∀ i, ∃ d, c.run (toIteration c.stage ++ [.iterate i]) = some d) ∧
      (c.loop.joined = true → c.loop.isRunning = false ∧
        (.tell true ∉ moves → reports c.past = failures name moves ∧ CleanedLast c.past)) := by
  have hkept := kept_spawn hstart
  have hend := kept_run hkept hrun
  obtain rfl := eq_of_spawn? hstart
  have hreports : reports c.past ++ c.stage.pending = failures name moves := reports_run hkept hrun
  refine ⟨iterations_run hrun, hreports, fun hreturns hraises => ?_, fun hjoined => ?_⟩
  · have hsteady := steady_run ⟨rfl, by simp [begun], by simp [begun]⟩ hreturns hraises hrun
    exact ⟨(hend.there hsteady.left).running, hsteady.exists_iteration⟩
  · have hgone : c.Gone := by
      refine hend.thread.resolve_left fun hthere => ?_
      rw [hthere.joined] at hjoined
      contradiction
    refine ⟨hgone.running, fun hreturns => ?_⟩
    have htidy := tidy_run hkept (fun hleft => nomatch hleft) hreturns hrun
    rw [hgone.stage, Stage.pending, List.append_nil] at hreports
    exact ⟨hreports, htidy hgone.stage⟩

/-- A loop of which one iteration fails and the next one panics, and that is stopped while its hook
is told of the panic. -/
def rough : List Move :=
  [.look, .iterate ⟨.failed (.invalidAddress "x"), false⟩, .tell false, .rest, .look,
    .iterate ⟨.panicked (.text "boom"), false⟩] ++
    [.stop, .tell false, .rest, .look, .cleanUp false, .join]

/-- The hook was told of both, and the loop has cleaned up and ended. -/
theorem survives_failing_iterations_rough : ∃ start c,
    Course.spawn? "hub" = some start ∧ start.run rough = some c ∧ c.loop.joined = true ∧
      c.loop.isRunning = false ∧
      reports c.past = [.invalidAddress "x", .loopPanicked "hub" "boom"] ∧ CleanedLast c.past := by
  have hstart := spawn?_of_name (show "hub".contains (Char.ofNat 0) = false by simp)
  obtain ⟨c, hrun, hjoined⟩ : ∃ c, (begun "hub").run rough = some c ∧ c.loop.joined = true :=
    ⟨_, rfl, rfl⟩
  obtain ⟨-, -, -, hstopped⟩ := survives_failing_iterations hstart hrun
  obtain ⟨hrunning, hclean⟩ := hstopped hjoined
  obtain ⟨hreports, hlast⟩ := hclean (by simp [rough])
  exact ⟨_, c, hstart, hrun, hjoined, hrunning, hreports, hlast⟩

/-- The flag may be raised by the task itself: nobody has begun to stop the loop, and it ends and
cleans up. -/
example : ((begun "hub").run [.look, .iterate ⟨.fine, true⟩, .look, .cleanUp false]).map
    (fun c => (c.loop.isRunning, decide (.cleaned ∈ c.past))) = some (false, true) := by decide

/-- A hook panics: nobody has begun to stop the loop and nobody has raised its flag, and the loop
does not go on; and when it is stopped, nothing was cleaned up. -/
theorem not_survives_hook_panic : ∃ start lost stopped,
    Course.spawn? "hub" = some start ∧
      start.run [.look, .iterate ⟨.failed (.invalidAddress "x"), false⟩, .tell true] = some lost ∧
      lost.loop.isRunning = false ∧
      lost.run [.stop, .join] = some stopped ∧ stopped.loop.joined = true ∧
      .cleaned ∉ stopped.past := by
  have hstart := spawn?_of_name (show "hub".contains (Char.ofNat 0) = false by simp)
  exact ⟨_, _, _, hstart, rfl, rfl, rfl, rfl, by decide⟩

end Course
end LoopThread
end WebSocket
