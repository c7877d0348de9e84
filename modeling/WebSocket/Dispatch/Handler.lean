import WebSocket.Dispatch.Error
import WebSocket.Notice

/-!
# Handlers

The application gives a pool of workers three callbacks: one that does a task, one that is told of a
task that did not end well, and one that is handed a task that was refused.  Each of them may panic.

## Main definitions

* `Handler` — the callbacks, by what they do on a task.
* `Call`, `PoolEffect` — which callbacks were called, in the order of the calls and amid notices.
* `DefaultCallback` — what is logged where an application does not care.
-/

namespace WebSocket

/-- The callbacks of an application, by what becomes of a call with a given task. -/
structure Handler (τ : Type) where
  /-- What goes wrong with the task, if anything does. -/
  handle : τ → Option HandlerError
  /-- Being told that the task went wrong panics. -/
  panicsOnError : τ → HandlerError → Bool
  /-- Being handed the refused task panics. -/
  panicsOnReject : τ → Bool

/-- A call of the application. -/
inductive Call (τ : Type)
  /-- A worker did the task, with this outcome. -/
  | handled (task : τ) (cause : Option HandlerError)
  /-- The application was told that the task went wrong. -/
  | failed (task : τ) (cause : HandlerError)
  /-- The task was handed back. -/
  | rejected (task : τ)
  deriving DecidableEq, Repr

/-- What comes out of a pool while it works. -/
inductive PoolEffect (τ : Type)
  | call (c : Call τ)
  | notice (n : Notice)
  deriving DecidableEq, Repr

namespace PoolEffect

variable {τ : Type}

/-- The calls among effects. -/
def calls (effects : List (PoolEffect τ)) : List (Call τ) :=
  effects.filterMap fun
    | .call c => some c
    | .notice _ => none

@[simp] theorem calls_append (xs ys : List (PoolEffect τ)) :
    calls (xs ++ ys) = calls xs ++ calls ys :=
  List.filterMap_append

/-- The notices among effects. -/
def notices (effects : List (PoolEffect τ)) : List Notice :=
  effects.filterMap fun
    | .notice n => some n
    | .call _ => none

@[simp] theorem notices_append (xs ys : List (PoolEffect τ)) :
    notices (xs ++ ys) = notices xs ++ notices ys :=
  List.filterMap_append

end PoolEffect

/-! ### What an application need not care about -/

/-- The callbacks that only log where an application gives none. -/
inductive DefaultCallback
  | reject
  | error (cause : HandlerError)
  | failure (cause : ServerError)
  deriving DecidableEq, Repr

/-- What a callback logs. -/
def DefaultCallback.event : DefaultCallback → Event
  | reject => .taskRejected
  | error cause => .taskFailed cause
  | failure cause => .loopSurvived cause

end WebSocket
