import WebSocket.Dispatch.Pool

/-!
# A pool shared by threads

Several threads submit tasks, start the pool and stop it, while workers take tasks.  Each of them
goes through its steps one by one, and between two steps of one thread the others may do any of
theirs.

Starting and stopping hold a lock on the list of workers.  A start first stops the pool, and lets go
of the lock before it takes it again to begin anew.  A start that cannot start a worker lets go of
the lock as well, and stops the pool.

## Main definitions

* `Pool.Race` — a pool, where every thread stands, and what has happened.
* `Pool.Race.Move`, `Pool.Race.step` — the steps of the threads.
* `Pool.Race.Reachable` — what some order of steps leads to.
* `Pool.Race.run` — the steps of a given order.

## Main results

* `Pool.Race.run_keeps` — what every step of an order keeps, the whole order keeps.
* `Pool.Race.run_submit` — a submit that nothing comes between is `Pool.submit`.
-/

namespace WebSocket

namespace Pool

variable {τ : Type}

/-- Where a submit stands. -/
inductive Stage
  /-- It has not looked at anything yet. -/
  | entered
  /-- The pool was running, and the queue has yet to be looked at. -/
  | waiting
  /-- The queue had no room. -/
  | crowded
  /-- The queue had room. -/
  | admitted
  /-- The task was counted, to this length, and is yet to be queued. -/
  | counted (length : Nat)
  deriving DecidableEq, Repr

/-- A submit in progress. -/
structure Submit (τ : Type) where
  task : τ
  stage : Stage
  deriving DecidableEq, Repr

/-- Who holds the lock on the list of workers. -/
inductive Holder
  | nobody
  /-- A stop, or the first half of a start, that waits for the workers to leave. -/
  | joining (restarts : Bool)
  /-- The same, while it hands back what is queued. -/
  | draining (restarts : Bool)
  /-- The same, before counting starts afresh. -/
  | sweeping (restarts : Bool)
  /-- The second half of a start, with so many workers still to be started. -/
  | spawning (missing : Nat)
  /-- The end of the pool. -/
  | abandoning
  deriving DecidableEq, Repr

/-- What the threads have done so far, in order. -/
structure History (τ : Type) where
  queued : List τ
  /-- The tasks that left the queue. -/
  dequeued : List τ
  /-- The tasks among them that stops have handed back. -/
  handedBack : List τ
  calls : List (Call τ)
  /-- The submits that have returned, with their results. -/
  returned : List (τ × Except DispatchError Unit)

/-- A pool shared by threads. -/
structure Race (τ : Type) where
  pool : Pool τ
  submits : List (Submit τ)
  /-- The workers that live. -/
  alive : Nat
  /-- The workers that have seen no reason to leave and look into the queue next. -/
  looking : Nat
  /-- The tasks that workers took and that still count. -/
  taken : List τ
  holder : Holder
  /-- The starts between their two halves. -/
  restarts : Nat
  /-- The pool is gone. -/
  gone : Bool
  /-- How many tasks the stop at work has handed back. -/
  drained : Nat
  /-- How many tasks were counted and had yet to leave the queue when counting started afresh. -/
  wiped : Nat
  past : History τ

namespace Race

/-- A pool that no thread has touched. -/
def new (p : Pool τ) : Race τ where
  pool := p
  submits := []
  alive := 0
  looking := 0
  taken := []
  holder := .nobody
  restarts := 0
  gone := false
  drained := 0
  wiped := 0
  past := ⟨[], [], [], [], []⟩

/-- The steps of the threads. -/
inductive Move (τ : Type)
  /-- A submit begins. -/
  | enter (task : τ)
  /-- The submit at a place looks whether the pool runs. -/
  | checkRunning (place : Nat)
  /-- It looks whether the queue has room. -/
  | checkRoom (place : Nat)
  /-- Its time is not over, and it will look again. -/
  | retry (place : Nat)
  /-- Its time is over. -/
  | giveUp (place : Nat)
  | count (place : Nat)
  | append (place : Nat)
  /-- A worker that has nothing to do looks whether it is asked to leave. -/
  | look
  /-- A worker looks into the queue. -/
  | take
  /-- The worker with the taken task at a place no longer counts it, and begins with it. -/
  | release (place : Nat)
  /-- The worker with the begun task at a place gets done with it. -/
  | settle (place : Nat)
  /-- A stop begins, or a start, which stops first. -/
  | dismiss (restarts : Bool)
  /-- All workers have left. -/
  | join
  /-- What waits first is handed back. -/
  | handBack
  /-- Nothing waits. -/
  | sweep
  /-- Counting starts afresh, and the stop ends. -/
  | reset
  /-- The second half of a start begins. -/
  | reopen
  /-- It starts a worker. -/
  | spawn
  /-- It has started all workers. -/
  | finishStart
  /-- It cannot start a worker, and lets go of the lock to stop. -/
  | spawnFails
  /-- The pool is given up. -/
  | abandon
  /-- All workers have left, and what is queued is lost. -/
  | lose

/-- The workers that are at nothing. -/
def idle (r : Race τ) : Nat := r.alive - r.looking - r.taken.length - r.pool.handling.length

/-- The submits that have counted their tasks and not queued them. -/
def counted (r : Race τ) : Nat :=
  (r.submits.filter fun s => match s.stage with
    | .counted _ => true
    | _ => false).length

/-- No call of a submit, a start or a stop is in progress. -/
def Quiet (r : Race τ) : Prop := r.submits = [] ∧ r.holder = .nobody ∧ r.restarts = 0

/-- The submit at a place goes on to a stage. -/
def goOn (place : Nat) (s : Submit τ) (stage : Stage) (r : Race τ) : Race τ :=
  { r with submits := r.submits.set place { s with stage } }

/-- Work on the pool, whose calls are remembered. -/
def work (step : Pool.Step τ) (r : Race τ) : Race τ :=
  { r with
    pool := step.pool
    past := { r.past with calls := r.past.calls ++ PoolEffect.calls step.effects } }

/-- The submit at a place returns. -/
def finish (place : Nat) (s : Submit τ) (result : Except DispatchError Unit) (r : Race τ) :
    Race τ :=
  { r with
    submits := r.submits.eraseIdx place
    past := { r.past with returned := r.past.returned ++ [(s.task, result)] } }

/-- The step that the submit at a place takes, if it can take it. -/
def submitStep (h : Handler τ) (m : Move τ) (place : Nat) (s : Submit τ) (r : Race τ) :
    Option (Race τ) :=
  match m, s.stage with
  | .checkRunning _, .entered =>
    if r.pool.running then r.goOn place s .waiting
    else (r.work (r.pool.refuse h s.task)).finish place s (.error .notRunning)
  | .checkRoom _, .waiting => r.goOn place s (if r.pool.isFull then .crowded else .admitted)
  | .retry _, .crowded => r.goOn place s .waiting
  | .giveUp _, .crowded =>
    (r.work (r.pool.refuse h s.task)).finish place s (.error (.rejected r.pool.capacity))
  | .count _, .admitted =>
    { r with pool := r.pool.count }.goOn place s (.counted (r.pool.length + 1))
  | .append _, .counted length =>
    let past := { r.past with queued := r.past.queued ++ [s.task] }
    ({ r with past }.work (r.pool.append s.task length)).finish place s (.ok ())
  | _, _ => none

/-- A worker looks whether it is asked to leave, and leaves if it is. -/
def look (r : Race τ) : Option (Race τ) :=
  if r.idle = 0 then none
  else if r.pool.stopping then some { r with alive := r.alive - 1 }
  else some { r with looking := r.looking + 1 }

/-- A worker looks into the queue, and takes what waits first. -/
def take (r : Race τ) : Option (Race τ) :=
  if r.looking = 0 then none
  else
    let r := { r with looking := r.looking - 1 }
    match r.pool.dequeue? with
    | none => some r
    | some (task, pool) =>
      some { r with
        pool
        taken := r.taken ++ [task]
        past := { r.past with dequeued := r.past.dequeued ++ [task] } }

/-- What waits first is handed back. -/
def handBack (h : Handler τ) (r : Race τ) : Option (Race τ) :=
  match r.pool.dequeue? with
  | none => none
  | some (task, pool) =>
    let past := { r.past with
      dequeued := r.past.dequeued ++ [task]
      handedBack := r.past.handedBack ++ [task] }
    some ({ r with past, drained := r.drained + 1 }.work (pool.refuse h task))

/-- A stop ends; counting starts afresh. -/
def reset (restarts : Bool) (r : Race τ) : Race τ :=
  { r with
    pool := r.pool.resetCounters
    holder := .nobody
    restarts := if restarts then r.restarts + 1 else r.restarts
    drained := 0
    wiped := r.wiped + r.counted + r.pool.queue.length }

/-- The step of whoever holds the lock, or wants it, if it can be taken. -/
def lockStep (h : Handler τ) (m : Move τ) (r : Race τ) : Option (Race τ) :=
  match m, r.holder with
  | .dismiss restarts, .nobody =>
    some { r with pool := r.pool.dismiss, holder := .joining restarts }
  | .join, .joining restarts =>
    if r.alive = 0 then some { r with holder := .draining restarts } else none
  | .handBack, .draining _ => r.handBack h
  | .sweep, .draining restarts =>
    if r.pool.queue.isEmpty then some { r with holder := .sweeping restarts } else none
  | .reset, .sweeping restarts => r.reset restarts
  | .reopen, .nobody =>
    if r.restarts = 0 then none
    else some { r with
      pool := r.pool.reopen
      restarts := r.restarts - 1
      holder := .spawning r.pool.workers }
  | .spawn, .spawning (missing + 1) =>
    some { r with alive := r.alive + 1, holder := .spawning missing }
  | .finishStart, .spawning 0 => some { r with holder := .nobody }
  | .spawnFails, .spawning (_ + 1) => some { r with holder := .nobody }
  | .abandon, .nobody =>
    if r.submits.isEmpty && r.restarts = 0 then
      some { r with pool := r.pool.dismiss, holder := .abandoning }
    else none
  | .lose, .abandoning =>
    if r.alive = 0 then some { r with pool := { r.pool with queue := [] }, gone := true } else none
  | _, _ => none

/-- One step of some thread, if it can be taken. -/
def step (h : Handler τ) (m : Move τ) (r : Race τ) : Option (Race τ) :=
  match m with
  | .enter task =>
    if r.holder = .abandoning then none
    else some { r with submits := r.submits ++ [⟨task, .entered⟩] }
  | .checkRunning place | .checkRoom place | .retry place | .giveUp place | .count place
  | .append place => r.submits[place]?.bind fun s => r.submitStep h m place s
  | .look => r.look
  | .take => r.take
  | .release place => r.taken[place]?.map fun task =>
      { r with
        pool := r.pool.releaseSlot.begin task
        taken := r.taken.eraseIdx place }
  | .settle place =>
    if place < r.pool.handling.length then some (r.work (r.pool.finish h place)) else none
  | _ => r.lockStep h m

/-- What some order of steps leads to. -/
inductive Reachable (h : Handler τ) (start : Pool τ) : Race τ → Prop
  | start : Reachable h start (.new start)
  | next {r s : Race τ} (m : Move τ) : Reachable h start r → r.step h m = some s →
      Reachable h start s

/-- The steps of a given order, if all of them can be taken. -/
def run (h : Handler τ) (moves : List (Move τ)) (r : Race τ) : Option (Race τ) :=
  moves.foldlM (fun r m => r.step h m) r

theorem run_cons {h : Handler τ} {r s : Race τ} {m : Move τ} {moves : List (Move τ)} :
    r.run h (m :: moves) = some s ↔ ∃ t, r.step h m = some t ∧ t.run h moves = some s := by
  simp [Race.run, Option.bind_eq_some_iff]

theorem run_append {h : Handler τ} {r s : Race τ} {moves more : List (Move τ)} :
    r.run h (moves ++ more) = some s ↔ ∃ t, r.run h moves = some t ∧ t.run h more = some s := by
  simp [Race.run, List.foldlM_append, Option.bind_eq_some_iff]

/-- What every step of an order keeps, the whole order keeps. -/
theorem run_keeps {h : Handler τ} {P : Race τ → Prop} {moves : List (Move τ)}
    (hstep : ∀ {r s : Race τ} {m : Move τ}, m ∈ moves → P r → r.step h m = some s → P s)
    {r s : Race τ} (hr : P r) (hs : r.run h moves = some s) : P s := by
  induction moves generalizing r with
  | nil =>
    obtain rfl : r = s := by simpa [Race.run] using hs
    exact hr
  | cons m moves ih =>
    obtain ⟨t, ht, hs⟩ := run_cons.1 hs
    exact ih (fun hm => hstep (List.mem_cons_of_mem _ hm)) (hstep List.mem_cons_self hr ht) hs

/-- What the steps of an order lead to can be reached. -/
theorem Reachable.run {h : Handler τ} {start : Pool τ} {r s : Race τ} {moves : List (Move τ)}
    (hr : Reachable h start r) (hs : r.run h moves = some s) : Reachable h start s :=
  run_keeps (fun _ hr ht => .next _ hr ht) hr hs

/-- The steps of a submit that finds room, for the only submit in progress. -/
def submitMoves (task : τ) : List (Move τ) :=
  [.enter task, .checkRunning 0, .checkRoom 0, .count 0, .append 0]

/-- A submit that finds a running pool with room, and that nothing comes between, is
`Pool.submit`. -/
theorem run_submit (h : Handler τ) (task : τ) (r : Race τ) (hs : r.submits = [])
    (hh : r.holder ≠ .abandoning) (hrun : r.pool.running) (hfull : ¬ r.pool.isFull) :
    (r.run h (submitMoves task)).map Race.pool = some (r.pool.submit h task).1.pool := by
  simp [Race.run, submitMoves, step, submitStep, hs, hh, hrun, hfull, goOn, work, Race.finish,
    Pool.submit]

end Race

end Pool

end WebSocket
