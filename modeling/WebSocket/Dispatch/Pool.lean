import WebSocket.Dispatch.Handler

/-!
# The worker pool

A fixed number of workers take tasks from a queue of bounded length.  A task that finds no room is
handed back to the application, and so is one that is still queued when the pool stops; a task that
goes wrong takes nobody with it.

The operations are made of small steps, each of which touches one thing that all threads share, so
that a run of several threads is an interleaving of the same steps.

## Main definitions

* `Pool` — the pool.
* `Pool.refuse`, `Pool.count`, `Pool.append`, `Pool.dequeue?`, `Pool.begin`, `Pool.releaseSlot`,
  `Pool.settle`, `Pool.dismiss`, `Pool.reopen`, `Pool.resetCounters` — the steps.
* `Pool.submit`, `Pool.take`, `Pool.finish`, `Pool.start`, `Pool.stop`, `Pool.abandon` — the
  operations, each done without another one in between.

## Main results

* `Pool.calls_refuse`, `Pool.calls_settle` — which callbacks the steps call.
-/

namespace WebSocket

/-- A pool of workers and its queue. -/
structure Pool (τ : Type) where
  name : String
  workers : Nat
  /-- The longest that the queue may be. -/
  capacity : Nat
  /-- The queued tasks, the one that waited longest first. -/
  queue : List τ
  /-- The length of the queue as it is counted. -/
  length : Nat
  /-- The most that was counted. -/
  peak : Nat
  submitted : Nat
  rejected : Nat
  errors : Nat
  /-- Tasks are taken in. -/
  running : Bool
  /-- Workers are asked to leave. -/
  stopping : Bool
  /-- The tasks that workers are at. -/
  handling : List τ
  deriving DecidableEq, Repr

namespace Pool

variable {τ : Type}

/-- A pool that was not started yet. -/
def new (name : String) (workers capacity : Nat) : Pool τ :=
  ⟨name, workers, capacity, [], 0, 0, 0, 0, 0, false, false, []⟩

/-- A pool after some work, and what came out of it. -/
structure Step (τ : Type) where
  pool : Pool τ
  effects : List (PoolEffect τ)

/-- More work on the pool. -/
def Step.andThen (s : Step τ) (next : Pool τ → Step τ) : Step τ :=
  let after := next s.pool
  ⟨after.pool, s.effects ++ after.effects⟩

/-- The same work for each item of a list in turn. -/
def Step.forEach {α : Type} (items : List α) (work : α → Pool τ → Step τ) (s : Step τ) : Step τ :=
  items.foldl (fun s item => s.andThen (work item)) s

/-! ### Steps -/

/-- A task handed back. -/
def refuse (h : Handler τ) (task : τ) (p : Pool τ) : Step τ :=
  let panic := if h.panicsOnReject task then [.notice (.log .rejectCallbackPanicked)] else []
  ⟨{ p with rejected := p.rejected + 1 },
    [.notice (.count .tasksRejected 1), .call (.rejected task)] ++ panic⟩

/-- The queue has no room. -/
def isFull (p : Pool τ) : Bool := p.capacity ≤ p.length

/-- A task counted that is about to be queued. -/
def count (p : Pool τ) : Pool τ :=
  { p with
    length := p.length + 1
    peak := max p.peak (p.length + 1)
    submitted := p.submitted + 1 }

/-- A task put at the end of the queue, which was counted to be `length` long with it. -/
def append (task : τ) (length : Nat) (p : Pool τ) : Step τ :=
  ⟨{ p with queue := p.queue ++ [task] },
    [.notice (.count .tasksSubmitted 1), .notice (.gauge .queueLength length)]⟩

/-- The task that waited longest, and the pool without it. -/
def dequeue? (p : Pool τ) : Option (τ × Pool τ) :=
  match p.queue with
  | [] => none
  | task :: queue => some (task, { p with queue })

/-- A worker begins with a task. -/
def begin (task : τ) (p : Pool τ) : Pool τ := { p with handling := p.handling ++ [task] }

/-- One task less counted.  The count never falls below zero. -/
def releaseSlot (p : Pool τ) : Pool τ := { p with length := p.length - 1 }

/-- A task done, and the application told if it went wrong. -/
def settle (h : Handler τ) (task : τ) (p : Pool τ) : Step τ :=
  match h.handle task with
  | none => ⟨p, [.call (.handled task none)]⟩
  | some cause =>
    let panic :=
      if h.panicsOnError task cause then [.notice (.log (.errorCallbackPanicked cause))] else []
    ⟨{ p with errors := p.errors + 1 },
      [.call (.handled task (some cause)), .notice (.count .taskErrors 1),
        .call (.failed task cause)] ++ panic⟩

/-- No task is taken in any more, and workers are asked to leave. -/
def dismiss (p : Pool τ) : Pool τ := { p with running := false, stopping := true }

/-- Tasks are taken in, and workers stay. -/
def reopen (p : Pool τ) : Pool τ := { p with running := true, stopping := false }

/-- Nothing counted any more. -/
def resetCounters (p : Pool τ) : Pool τ :=
  { p with length := 0, peak := 0, submitted := 0, rejected := 0, errors := 0 }

/-! ### Operations -/

/-- A task queued, if the pool runs and the queue has room for it within the time that producers
are made to wait; handed back otherwise. -/
def submit (h : Handler τ) (task : τ) (p : Pool τ) : Step τ × Except DispatchError Unit :=
  if !p.running then (p.refuse h task, .error .notRunning)
  else if p.isFull then (p.refuse h task, .error (.rejected p.capacity))
  else (p.count.append task (p.length + 1), .ok ())

/-- A worker that is free takes the first task, unless it is asked to leave. -/
def take (p : Pool τ) : Pool τ :=
  if p.stopping || p.workers ≤ p.handling.length then p
  else match p.dequeue? with
    | none => p
    | some (task, p) => p.releaseSlot.begin task

/-- Workers take tasks until all of them are busy or the queue is empty. -/
def fill (p : Pool τ) : Pool τ := (List.replicate p.workers ()).foldl (fun p _ => p.take) p

/-- One of the workers that have a task gets done with it. -/
def finish (h : Handler τ) (place : Nat) (p : Pool τ) : Step τ :=
  match p.handling[place]? with
  | none => ⟨p, []⟩
  | some task => { p with handling := p.handling.eraseIdx place }.settle h task

/-- All workers get done with what they are at. -/
def join (h : Handler τ) (p : Pool τ) : Step τ :=
  Step.forEach p.handling (fun _ => finish h 0) ⟨p, []⟩

/-- Workers take tasks and get done with them until none is open. -/
def drain (h : Handler τ) (p : Pool τ) : Step τ :=
  Step.forEach (p.handling ++ p.queue) (fun _ p => p.fill.finish h 0) ⟨p, []⟩

/-- All queued tasks handed back. -/
def refuseAll (h : Handler τ) (p : Pool τ) : Step τ :=
  Step.forEach p.queue (fun task p => refuse h task p) ⟨{ p with queue := [] }, []⟩

/-- The pool stopped: workers leave once they are done, what is left is handed back, and counting
starts afresh. -/
def stop (h : Handler τ) (p : Pool τ) : Step τ :=
  let settled := (Step.mk p.dismiss []).andThen (join h)
  (settled.andThen (refuseAll h)).andThen fun q =>
    ⟨q.resetCounters,
      if p.running then [.notice (.log (.poolStopped p.name settled.pool.queue.length))] else []⟩

/-- The pool started with a fresh set of workers, after it was stopped in case it ran.  If one of
them cannot be started, the pool is stopped again. -/
def start (h : Handler τ) (refusal : Option DispatchError) (p : Pool τ) :
    Step τ × Except DispatchError Unit :=
  let begun := (p.stop h).andThen fun p => ⟨p.reopen, []⟩
  match refusal with
  | some e => (begun.andThen (stop h), .error e)
  | none =>
    (begun.andThen fun p => ⟨p, [.notice (.log (.poolStarted p.name p.workers p.capacity))]⟩,
      .ok ())

/-- The pool given up without being stopped: workers leave once they are done, and what is queued is
lost. -/
def abandon (h : Handler τ) (p : Pool τ) : Step τ :=
  ((Step.mk p.dismiss []).andThen (join h)).andThen fun p => ⟨{ p with queue := [] }, []⟩

/-! ### Which callbacks are called -/

theorem calls_refuse (h : Handler τ) (task : τ) (p : Pool τ) :
    PoolEffect.calls (p.refuse h task).effects = [.rejected task] := by
  by_cases hp : h.panicsOnReject task <;> simp [refuse, PoolEffect.calls, hp]

theorem calls_settle (h : Handler τ) (task : τ) (p : Pool τ) :
    PoolEffect.calls (p.settle h task).effects =
      .handled task (h.handle task) :: ((h.handle task).map (Call.failed task)).toList := by
  unfold settle
  split
  · next hh => simp [PoolEffect.calls, hh]
  · next cause hh => by_cases hp : h.panicsOnError task cause <;> simp [PoolEffect.calls, hh, hp]

end Pool

end WebSocket
