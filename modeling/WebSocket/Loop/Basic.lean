import WebSocket.Loop.StopFlag
import WebSocket.Notice
import WebSocket.Panic

/-!
# Loops

Accepting connections and serving sessions each run as a loop on a thread of their own.  An
iteration may fail or panic: this is logged and told to a hook, and the loop goes on.  Once the stop
flag is raised the loop cleans up and ends.

## Main definitions

* `Verdict`, `Iteration` — what one iteration comes to.
* `LoopThread` — the loop's state.
* `LoopThread.turn`, `LoopThread.stop` — one iteration, and the end.
* `LoopThread.play` — a run of iterations.
-/

namespace WebSocket

/-- What an iteration comes to. -/
inductive Verdict
  | fine
  | failed (cause : ServerError)
  | panicked (payload : PanicPayload)
  deriving DecidableEq, Repr

/-- The error that the hook of the loop called `name` is told of. -/
def Verdict.cause? (name : String) : Verdict → Option ServerError
  | fine => none
  | failed cause => some cause
  | panicked payload => some (.loopPanicked name payload.message)

/-- One iteration: what it comes to, and whether the flag is raised in the meantime. -/
structure Iteration where
  verdict : Verdict
  raisesFlag : Bool
  deriving DecidableEq, Repr

/-- What a hook does that is told of an error: it returns, or it panics. -/
abbrev ErrorHook := ServerError → Bool

/-- What a loop does, in order. -/
inductive LoopEffect
  | iterated (i : Iteration)
  /-- The hook was told of an error. -/
  | reported (cause : ServerError)
  /-- The loop cleaned up. -/
  | cleaned
  | event (e : Event)
  deriving DecidableEq, Repr

/-- Where the thread of a loop is. -/
inductive Phase
  | running
  /-- It ended after cleaning up. -/
  | ended
  /-- A panic that nobody caught ended it. -/
  | crashed
  deriving DecidableEq, Repr

/-- A loop on a thread of its own. -/
structure LoopThread where
  name : String
  flag : StopFlag
  phase : Phase
  /-- Somebody waited for the end of the thread. -/
  joined : Bool
  deriving DecidableEq, Repr

namespace LoopThread

/-- A loop after some work, and what it did. -/
structure Step where
  loop : LoopThread
  effects : List LoopEffect

/-- A loop begins.  A name that holds NUL cannot name a thread. -/
def spawn? (name : String) : Option Step :=
  if name.contains (Char.ofNat 0) then none
  else some ⟨⟨name, .new, .running, false⟩, [.event (.loopStarted name)]⟩

/-- The thread of the loop is alive. -/
def isRunning (l : LoopThread) : Bool := l.phase == .running

/-- The loop looks at its flag, and under a raised flag cleans up and ends. -/
def look (l : LoopThread) : Step :=
  if l.isRunning && l.flag.raised then
    ⟨{ l with phase := .ended }, [.cleaned, .event (.loopStopped l.name)]⟩
  else ⟨l, []⟩

/-- One iteration, unless the loop has ended.  The hook is told of an error; if it panics, the
thread is lost. -/
def turn (panics : ErrorHook) (i : Iteration) (l : LoopThread) : Step :=
  if !l.isRunning then ⟨l, []⟩
  else
    let l := if i.raisesFlag then { l with flag := l.flag.raise } else l
    match i.verdict.cause? l.name with
    | none => ⟨l.look.loop, .iterated i :: l.look.effects⟩
    | some cause =>
      let told := [.iterated i, .event (.loopFailed l.name cause), .reported cause]
      if panics cause then ⟨{ l with phase := .crashed }, told⟩
      else ⟨l.look.loop, told ++ l.look.effects⟩

/-- Iterations one after the other. -/
def play (panics : ErrorHook) : List Iteration → LoopThread → Step
  | [], l => ⟨l, []⟩
  | i :: rest, l =>
    let first := l.turn panics i
    let after := play panics rest first.loop
    ⟨after.loop, first.effects ++ after.effects⟩

/-- The flag raised, and the end of the thread waited for, once. -/
def stop (l : LoopThread) : Step :=
  let asked := { l with flag := l.flag.raise }
  let crash := if l.phase = .crashed && !l.joined then [.event (.loopPanicked l.name)] else []
  ⟨{ asked.look.loop with joined := true }, asked.look.effects ++ crash⟩

end LoopThread

end WebSocket
