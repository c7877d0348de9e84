import WebSocket.Loop.Basic

/-!
# The course of a loop

The thread of a loop goes through its steps one by one.  Between two of them its owner may begin to
stop it, and whoever the task has given its stop flag to may raise the flag or lower it.

Each call of the hook and the clean-up either return or panic, whatever they did before.

## Main definitions

* `LoopThread.Course` — a loop, where its thread stands, and what has happened.
* `LoopThread.Course.Move`, `LoopThread.Course.step` — the steps of the thread and of those outside.
* `LoopThread.Course.run` — the steps of a given order.

## Main results

* `LoopThread.Course.run_turn`, `LoopThread.Course.run_play`, `LoopThread.Course.run_stop` — steps
  that nothing comes between are `LoopThread.turn`, `LoopThread.play` and `LoopThread.stop`.
-/

namespace WebSocket

namespace LoopThread

/-- Where the thread of a loop stands. -/
inductive Stage
  /-- It looks at its flag next. -/
  | looking
  /-- It is in an iteration. -/
  | iterating
  /-- An iteration failed, and the hook is being told. -/
  | telling (cause : ServerError)
  /-- It rests, because an iteration failed. -/
  | resting
  /-- It has seen the flag raised, and cleans up. -/
  | cleaning
  /-- It is gone. -/
  | left
  deriving DecidableEq, Repr

/-- A loop, where its thread stands, and what has happened. -/
structure Course where
  loop : LoopThread
  stage : Stage
  /-- Its owner has begun to stop it, and waits. -/
  awaited : Bool
  past : List LoopEffect
  deriving DecidableEq, Repr

namespace Course

/-- The steps of the thread, and of those outside. -/
inductive Move
  /-- The thread looks at its flag. -/
  | look
  /-- An iteration ends. -/
  | iterate (i : Iteration)
  /-- A call of the hook ends. -/
  | tell (panics : Bool)
  /-- The thread has rested. -/
  | rest
  /-- The clean-up ends. -/
  | cleanUp (panics : Bool)
  /-- The owner begins to stop the loop. -/
  | stop
  /-- The thread is gone, and the stop ends. -/
  | join
  /-- Somebody raises or lowers the flag. -/
  | touch (raised : Bool)
  deriving DecidableEq, Repr

/-- A loop begins. -/
def spawn? (name : String) : Option Course :=
  (LoopThread.spawn? name).map fun s => ⟨s.loop, .looking, false, s.effects⟩

/-- The thread looks at its flag. -/
def look (c : Course) : Course :=
  { c with stage := if c.loop.flag.raised then .cleaning else .iterating }

/-- An iteration ends.  If it failed, this is logged before the hook is told. -/
def iterate (i : Iteration) (c : Course) : Course :=
  let loop := if i.raisesFlag then { c.loop with flag := c.loop.flag.raise } else c.loop
  match i.verdict.cause? c.loop.name with
  | none => { c with loop, stage := .looking, past := c.past ++ [.iterated i] }
  | some cause =>
    { c with
      loop
      stage := .telling cause
      past := c.past ++ [.iterated i, .event (.loopFailed c.loop.name cause)] }

/-- A call of the hook ends.  If the hook panics, the thread is lost. -/
def tell (panics : Bool) (cause : ServerError) (c : Course) : Course :=
  let past := c.past ++ [.reported cause]
  if panics then { c with loop := { c.loop with phase := .crashed }, stage := .left, past }
  else { c with stage := .resting, past }

/-- The clean-up ends.  If it panics, the thread is lost. -/
def cleanUp (panics : Bool) (c : Course) : Course :=
  if panics then
    { c with
      loop := { c.loop with phase := .crashed }
      stage := .left
      past := c.past ++ [.cleaned] }
  else
    { c with
      loop := { c.loop with phase := .ended }
      stage := .left
      past := c.past ++ [.cleaned, .event (.loopStopped c.loop.name)] }

/-- The owner begins to stop the loop. -/
def stop (c : Course) : Course :=
  { c with loop := { c.loop with flag := c.loop.flag.raise }, awaited := true }

/-- The stop ends.  The first one learns of a panic that has ended the thread. -/
def join (c : Course) : Course :=
  let crash :=
    if c.loop.phase = .crashed && !c.loop.joined then [.event (.loopPanicked c.loop.name)] else []
  { c with loop := { c.loop with joined := true }, awaited := false, past := c.past ++ crash }

/-- Somebody raises or lowers the flag. -/
def touch (raised : Bool) (c : Course) : Course :=
  let flag := if raised then c.loop.flag.raise else c.loop.flag.lower
  { c with loop := { c.loop with flag } }

/-- One step, if it can be taken. -/
def step (m : Move) (c : Course) : Option Course :=
  match m, c.stage with
  | .look, .looking => some c.look
  | .iterate i, .iterating => some (c.iterate i)
  | .tell panics, .telling cause => some (c.tell panics cause)
  | .rest, .resting => some { c with stage := .looking }
  | .cleanUp panics, .cleaning => some (c.cleanUp panics)
  | .stop, _ => some c.stop
  | .join, .left => if c.awaited then some c.join else none
  | .touch raised, _ => some (c.touch raised)
  | _, _ => none

/-- The steps of a given order, if all of them can be taken. -/
def run (moves : List Move) (c : Course) : Option Course := moves.foldlM (fun c m => c.step m) c

variable {c d : Course} {moves more : List Move}

theorem run_cons {m : Move} :
    c.run (m :: moves) = some d ↔ ∃ e, c.step m = some e ∧ e.run moves = some d := by
  simp [Course.run, Option.bind_eq_some_iff]

theorem run_append :
    c.run (moves ++ more) = some d ↔ ∃ e, c.run moves = some e ∧ e.run more = some d := by
  simp [Course.run, List.foldlM_append, Option.bind_eq_some_iff]

/-! ### Steps that nothing comes between -/

/-- The thread is about to look at a flag that is not raised, or it is gone. -/
inductive Undisturbed : Course → Prop
  | looking {c : Course} : c.stage = .looking → c.loop.phase = .running →
      c.loop.flag.raised = false → Undisturbed c
  | left {c : Course} : c.stage = .left → c.loop.phase ≠ .running → Undisturbed c

/-- The steps that the thread takes when it looks at its flag. -/
def lookMoves (raised : Bool) : List Move := if raised then [.look, .cleanUp false] else []

/-- The steps of a turn. -/
def turnMoves (panics : ErrorHook) (i : Iteration) (l : LoopThread) : List Move :=
  if l.isRunning then
    match i.verdict.cause? l.name with
    | none => [.look, .iterate i] ++ lookMoves i.raisesFlag
    | some cause =>
      if panics cause then [.look, .iterate i, .tell true]
      else [.look, .iterate i, .tell false, .rest] ++ lookMoves i.raisesFlag
  else []

/-- A turn that nothing comes between is `LoopThread.turn`. -/
theorem run_turn (panics : ErrorHook) (i : Iteration) (hc : c.Undisturbed) :
    ∃ d, c.run (turnMoves panics i c.loop) = some d ∧ d.Undisturbed ∧
      d.loop = (c.loop.turn panics i).loop ∧ d.past = c.past ++ (c.loop.turn panics i).effects := by
  obtain ⟨⟨name, flag, phase, joined⟩, stage, awaited, past⟩ := c
  obtain ⟨verdict, raisesFlag⟩ := i
  cases hc with
  | looking hstage hphase hflag =>
    obtain rfl : stage = .looking := hstage
    obtain rfl : phase = .running := hphase
    obtain rfl : flag = ⟨false⟩ := congrArg StopFlag.mk hflag
    -- The thread goes on unless the flag is raised or the hook panics.
    cases hcause : verdict.cause? name with
    | none =>
      cases raisesFlag with
      | false => simp [turnMoves, lookMoves, Course.run, step, Course.look, Course.iterate, turn,
          isRunning, LoopThread.look, hcause, Undisturbed.looking]
      | true => simp [turnMoves, lookMoves, Course.run, step, Course.look, Course.iterate, cleanUp,
          turn, isRunning, LoopThread.look, StopFlag.raise, hcause, Undisturbed.left]
    | some cause =>
      cases hpanic : panics cause with
      | false =>
        cases raisesFlag with
        | false => simp [turnMoves, lookMoves, Course.run, step, Course.look, Course.iterate, tell,
            turn, isRunning, LoopThread.look, hcause, hpanic, Undisturbed.looking]
        | true => simp [turnMoves, lookMoves, Course.run, step, Course.look, Course.iterate, tell,
            cleanUp, turn, isRunning, LoopThread.look, StopFlag.raise, hcause, hpanic,
            Undisturbed.left]
      | true =>
        cases raisesFlag <;> simp [turnMoves, Course.run, step, Course.look, Course.iterate, tell,
          turn, isRunning, hcause, hpanic, Undisturbed.left]
  | left hstage hphase =>
    have hgone : (LoopThread.mk name flag phase joined).isRunning = false := beq_false_of_ne hphase
    refine ⟨_, by simp only [turnMoves, hgone]; rfl, .left hstage hphase, ?_, ?_⟩
    · simp [turn, hgone]
    · simp [turn, hgone]

/-- Turns that nothing comes between are `LoopThread.play`.  The induction is on them. -/
theorem run_play (panics : ErrorHook) (turns : List Iteration) (hc : c.Undisturbed) :
    ∃ moves d, c.run moves = some d ∧ d.Undisturbed ∧ d.loop = (c.loop.play panics turns).loop ∧
      d.past = c.past ++ (c.loop.play panics turns).effects := by
  induction turns generalizing c with
  | nil => exact ⟨[], c, rfl, hc, rfl, (List.append_nil c.past).symm⟩
  | cons i turns ih =>
    obtain ⟨d, hd, hdone, hloop, hpast⟩ := run_turn panics i hc
    obtain ⟨moves, e, he, hend, hlast, heffects⟩ := ih hdone
    refine ⟨_, e, run_append.2 ⟨d, hd, he⟩, hend, ?_, ?_⟩
    · rw [hlast, hloop]
      rfl
    · rw [heffects, hpast, hloop, List.append_assoc]
      rfl

/-- A stop that nothing comes between is `LoopThread.stop`. -/
theorem run_stop (hc : c.Undisturbed) :
    ∃ moves d, c.run moves = some d ∧ d.Undisturbed ∧ d.loop = c.loop.stop.loop ∧
      d.past = c.past ++ c.loop.stop.effects := by
  obtain ⟨⟨name, flag, phase, joined⟩, stage, awaited, past⟩ := c
  cases hc with
  | looking hstage hphase hflag =>
    obtain rfl : stage = .looking := hstage
    obtain rfl : phase = .running := hphase
    refine ⟨[.stop, .look, .cleanUp false, .join], _, rfl, .left rfl (by simp [join, cleanUp]), ?_⟩
    simp [join, cleanUp, Course.look, Course.stop, LoopThread.stop, LoopThread.look, isRunning,
      StopFlag.raise]
  | left hstage hphase =>
    obtain rfl : stage = .left := hstage
    refine ⟨[.stop, .join], _, rfl, .left rfl hphase, ?_⟩
    cases phase with
    | running => exact absurd rfl hphase
    | ended | crashed => exact ⟨rfl, rfl⟩

end Course

end LoopThread

end WebSocket
