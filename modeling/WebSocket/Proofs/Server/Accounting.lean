import Mathlib.Data.List.Nodup
import WebSocket.Proofs.Dispatch.Conservation
import WebSocket.Proofs.Hub.Happenings
import WebSocket.Server.Threads

/-!
# Every message is accounted for

Whatever a session hands over has been done by a worker or was handed back, once, when the stop of
the server returns.  In between it is on its way: it waits for the hub to submit it, it is being
submitted, or its submit has returned and the pool keeps account of it.

The loop of the hub ends only between two iterations, when it has submitted everything; and the pool
is stopped only after that.  So no submit meets a pool that is being stopped.

## Main definitions

* `Pool.Race.tasks` — the tasks of all submits.
* `Server.Threads.Sound` — what every step keeps.

## Main results

* `Pool.Race.tasks_of_step` — a submit has the task with which it began.
* `Server.Threads.Reachable.sound` — the invariant holds in every order.
* `Server.Threads.accounts_for_deliveries` — **every message is done once or handed back once.**
-/

namespace WebSocket

/-! ### Submits -/

namespace Pool.Race

variable {τ : Type} {h : Handler τ} {m : Move τ} {r s : Race τ}

/-- The tasks of the submits that have returned and of those in progress. -/
def tasks (r : Race τ) : List τ := r.past.returned.map Prod.fst ++ r.submits.map Submit.task

/-- The task of a submit that begins. -/
def Move.begun : Move τ → List τ
  | .enter task => [task]
  | _ => []

/-- A submit that goes on or returns has the task with which it began. -/
theorem tasks_of_submitStep {place : Nat} {sub : Submit τ}
    (hsub : r.submits[place]? = some sub) (hs : r.submitStep h m place sub = some s) :
    s.tasks.Perm r.tasks := by
  obtain ⟨hplace, rfl⟩ := List.getElem?_eq_some_iff.1 hsub
  have hwent : ∀ (pool : Pool τ) (stage : Stage),
      (({ r with pool } : Race τ).goOn place r.submits[place] stage).tasks = r.tasks := by
    intro pool stage
    have hset : (r.submits.map Submit.task).set place r.submits[place].task =
        r.submits.map Submit.task := by
      have hlength : place < (r.submits.map Submit.task).length := by rwa [List.length_map]
      rw [← List.getElem_map Submit.task (h := hlength), List.set_getElem_self]
    simp only [tasks, goOn, List.map_set, hset]
  have hreturned : ∀ (step : Pool.Step τ) (past : History τ) (result : Except DispatchError Unit),
      past.returned = r.past.returned →
      ((({ r with past } : Race τ).work step).finish place r.submits[place] result).tasks.Perm
        r.tasks := by
    intro step past result hpast
    have hperm := (List.getElem_cons_eraseIdx_perm hplace).map Submit.task
    simp only [tasks, work, finish, hpast, List.map_append, List.append_assoc]
    exact hperm.append_left _
  unfold submitStep at hs
  split at hs
  · split at hs
    · obtain rfl := Option.some.inj hs
      exact .of_eq (hwent _ _)
    · obtain rfl := Option.some.inj hs
      exact hreturned _ _ _ rfl
  · obtain rfl := Option.some.inj hs
    exact .of_eq (hwent _ _)
  · obtain rfl := Option.some.inj hs
    exact .of_eq (hwent _ _)
  · obtain rfl := Option.some.inj hs
    exact hreturned _ _ _ rfl
  · obtain rfl := Option.some.inj hs
    exact .of_eq (hwent _ _)
  · obtain rfl := Option.some.inj hs
    exact hreturned _ _ _ rfl
  · simp at hs

theorem tasks_of_handBack (hs : r.handBack h = some s) : s.tasks = r.tasks := by
  unfold handBack at hs
  split at hs
  · simp at hs
  · obtain rfl := Option.some.inj hs
    rfl

/-- Whoever holds the lock touches no submit. -/
theorem tasks_of_lockStep (hs : r.lockStep h m = some s) : s.tasks = r.tasks := by
  unfold lockStep at hs
  split at hs
  case h_3 => exact tasks_of_handBack hs
  case h_1 | h_5 | h_7 | h_8 | h_9 =>
    obtain rfl := Option.some.inj hs
    rfl
  case h_12 => simp at hs
  all_goals
    -- These steps wait for something.
    split at hs <;> first
      | obtain rfl := Option.some.inj hs
        rfl
      | simp at hs

theorem tasks_of_look (hs : r.look = some s) : s.tasks = r.tasks := by
  unfold look at hs
  split at hs
  · simp at hs
  · split at hs
    · obtain rfl := Option.some.inj hs
      rfl
    · obtain rfl := Option.some.inj hs
      rfl

theorem tasks_of_take (hs : r.take = some s) : s.tasks = r.tasks := by
  unfold take at hs
  split at hs
  · simp at hs
  · simp only at hs
    split at hs
    · obtain rfl := Option.some.inj hs
      rfl
    · obtain rfl := Option.some.inj hs
      rfl

/-- **A submit has the task with which it began**, whatever other threads do. -/
theorem tasks_of_step (hs : r.step h m = some s) : s.tasks.Perm (r.tasks ++ m.begun) := by
  cases m with
  | enter task =>
    simp only [step] at hs
    split at hs
    · simp at hs
    · obtain rfl := Option.some.inj hs
      simp [tasks, Move.begun]
  | checkRunning | checkRoom | retry | giveUp | count | append =>
    obtain ⟨sub, hsub, hs⟩ := Option.bind_eq_some_iff.1 hs
    exact (tasks_of_submitStep hsub hs).trans (.of_eq (List.append_nil _).symm)
  | look => exact .of_eq ((tasks_of_look hs).trans (List.append_nil _).symm)
  | take => exact .of_eq ((tasks_of_take hs).trans (List.append_nil _).symm)
  | release place =>
    obtain ⟨task, -, rfl⟩ := Option.map_eq_some_iff.1 hs
    exact .of_eq (List.append_nil _).symm
  | settle place =>
    simp only [step] at hs
    split at hs
    · obtain rfl := Option.some.inj hs
      exact .of_eq (List.append_nil _).symm
    · simp at hs
  | dismiss | join | handBack | sweep | reset | reopen | spawn | finishStart | spawnFails | abandon
  | lose => exact .of_eq ((tasks_of_lockStep hs).trans (List.append_nil _).symm)

/-- Once nothing is left in the pool, no submit and no worker can take a step. -/
theorem Closed.step_eq_none (hclosed : r.Closed) (hr : r.Staffed)
    (hm : Server.Stage.stopped.allows m = true) : r.step h m = none := by
  obtain ⟨hsubmits, -, halive, -⟩ := hclosed
  obtain ⟨htaken, hhandling⟩ := List.append_eq_nil_iff.1 (hr.atWork_eq_nil halive)
  have hlooking : r.looking = 0 := by
    have hworkers := hr.workers
    omega
  cases m with
  | checkRunning | checkRoom | retry | giveUp | count | append => simp [Race.step, hsubmits]
  | look => simp [Race.step, Race.look, idle, halive]
  | take => simp [Race.step, Race.take, hlooking]
  | release => simp [Race.step, htaken]
  | settle => simp [Race.step, hhandling]
  | _ => simp [Server.Stage.allows] at hm

end Pool.Race

namespace Server

/-! ### Messages on their way -/

theorem inbound_append (effects more : List Effect) :
    inbound (effects ++ more) = inbound effects ++ inbound more :=
  List.filterMap_append

theorem inbound_of_handed_eq_nil {effects : List Effect} (h : Effect.handed effects = []) :
    inbound effects = [] := by
  have hmap : inbound effects = (Effect.handed effects).map fun x => ⟨x.1, x.2.1⟩ := by
    rw [inbound, Effect.handed, List.map_filterMap]
    congr 1
    funext e
    cases e <;> rfl
  rw [hmap, h]
  rfl

namespace Threads

open Pool.Race (Ledger Staffed Undisturbed Closed)

variable {app : Service} {m : Move} {t u : Threads}

/-- What is known of a server and its threads. -/
structure Sound (t : Threads) : Prop where
  ledger : t.pool.Ledger
  staffed : t.pool.Staffed
  /-- What was handed over has been submitted, or the hub has yet to submit it. -/
  delivered : t.delivered.Perm (t.pool.tasks ++ t.handedOver.getD [])
  /-- Between two iterations the hub submits nothing. -/
  resting : t.handedOver = none → t.pool.submits = []
  /-- The loop of the hub ends between two iterations. -/
  left : t.stages.hub.isRunning = false → t.handedOver = none
  /-- The hub has ended when the pool is stopped. -/
  draining : t.stage = .draining → t.stages.hub.isRunning = false ∧ t.pool.Undisturbed
  stopped : t.stage = .stopped → t.stages.hub.isRunning = false ∧ t.pool.Closed

theorem sound_begun (s : Server) (stages : Running) : (begun s stages).Sound where
  ledger := ⟨rfl, fun _ => rfl, fun _ => rfl, fun _ => rfl⟩
  staffed := ⟨Nat.zero_le _, nofun, nofun⟩
  delivered := .refl _
  resting _ := rfl
  left _ := rfl
  draining := nofun
  stopped := nofun

/-- What happens to the hub alone, or to the loop that accepts connections. -/
theorem Sound.outside (hs : t.Sound) (hub : Hub) (acceptor : LoopThread) :
    Sound { t with hub, stages := { t.stages with acceptor } } :=
  ⟨hs.ledger, hs.staffed, hs.delivered, hs.resting, hs.left, hs.draining, hs.stopped⟩

/-- While the hub is in an iteration its loop has not ended, and the pool is not stopped. -/
theorem Sound.stage_ne (hs : t.Sound) (hrunning : t.stages.hub.isRunning = true) :
    t.stage ≠ .draining ∧ t.stage ≠ .stopped := by
  refine ⟨fun hstage => ?_, fun hstage => ?_⟩
  · have hleft := (hs.draining hstage).1
    rw [hrunning] at hleft
    simp at hleft
  · have hleft := (hs.stopped hstage).1
    rw [hrunning] at hleft
    simp at hleft

theorem Sound.isRunning (hs : t.Sound) (hin : t.handedOver ≠ none) :
    t.stages.hub.isRunning = true := by
  rw [← Bool.not_eq_false]
  exact fun hleft => hin (hs.left hleft)

/-- An iteration begins. -/
theorem Sound.workOnHub (hs : t.Sound) (hnone : t.handedOver = none)
    (hrunning : t.stages.hub.isRunning = true) (turn : Hub.Turn) : (t.workOnHub turn).Sound := by
  have hstage := hs.stage_ne hrunning
  refine ⟨hs.ledger, hs.staffed, ?_, nofun, fun hleft => ?_,
    fun hd => absurd hd hstage.1, fun hd => absurd hd hstage.2⟩
  · have hbefore := hs.delivered
    rw [hnone, Option.getD_none, List.append_nil] at hbefore
    have happ : (t.workOnHub turn).delivered =
        t.delivered ++ deliveries (inbound t.effects).length (inbound turn.effects) := by
      show deliveries 0 (inbound (t.effects ++ turn.effects)) = _
      rw [inbound_append, deliveries_append, Nat.zero_add]
      rfl
    rw [happ]
    exact hbefore.append_right _
  · rw [show (t.workOnHub turn).stages = t.stages from rfl, hrunning] at hleft
    simp at hleft

/-- An iteration ends, and perhaps the loop with it. -/
theorem Sound.hubGoesOn (hs : t.Sound) (hempty : t.handedOver.getD [] = [])
    (hsubmits : t.pool.submits = []) (hrunning : t.stages.hub.isRunning = true)
    (loop : LoopThread) : (t.hubGoesOn loop).Sound := by
  have hstage := hs.stage_ne hrunning
  refine ⟨hs.ledger, hs.staffed, ?_, fun _ => hsubmits, fun _ => rfl,
    fun hd => absurd hd hstage.1, fun hd => absurd hd hstage.2⟩
  have hbefore := hs.delivered
  rw [hempty] at hbefore
  have hnothing : (t.hubGoesOn loop).delivered = t.delivered := by
    show deliveries 0 (inbound (t.effects ++ _)) = deliveries 0 (inbound t.effects)
    rw [inbound_append]
    cases loop.phase with
    | running => exact congrArg (deliveries 0) (List.append_nil _)
    | ended => rw [inbound_of_handed_eq_nil (Hub.handed_stop t.hub), List.append_nil]
    | crashed => rw [inbound_of_handed_eq_nil (Hub.handed_lose t.hub), List.append_nil]
  rw [hnothing]
  exact hbefore

/-- Where no submit begins, nothing gets lost on its way. -/
theorem Sound.perm_of_step (hs : t.Sound) {h : Handler Delivery} {m : Pool.Race.Move Delivery}
    {pool : Pool.Race Delivery} (hpool : t.pool.step h m = some pool) (hbegun : m.begun = []) :
    t.delivered.Perm (pool.tasks ++ t.handedOver.getD []) := by
  have htasks := Pool.Race.tasks_of_step hpool
  rw [hbegun, List.append_nil] at htasks
  exact hs.delivered.trans (htasks.symm.append_right _)

/-- A step of the pool, by a submit, by a worker or by the stop. -/
theorem Sound.pool (hs : t.Sound) {m : Pool.Race.Move Delivery} (hm : t.stage.allows m = true)
    (hu : t.poolStep app m = some u) : u.Sound := by
  obtain ⟨pool, hpool, rfl⟩ := Option.map_eq_some_iff.1 hu
  have hc := Pool.Race.change_of_step hpool
  have hbegun : m.begun = [] := by
    cases m <;> first | rfl | simp [Stage.allows] at hm
  have henter : ∀ task, m ≠ .enter task := by
    rintro task rfl
    simp [Stage.allows] at hm
  refine ⟨hs.ledger.change hc, hs.staffed.change hc, hs.perm_of_step hpool hbegun,
    fun hnone => ?_, hs.left, fun hstage => ?_, fun hstage => ?_⟩
  · exact hc.submits_eq_nil henter (hs.resting hnone)
  · obtain ⟨hleft, hundisturbed⟩ := hs.draining hstage
    exact ⟨hleft, hundisturbed.change henter hc⟩
  · -- Nobody can take a step any more.
    have hnone : t.pool.step (placed (app.handler t.hub)) m = none :=
      (hs.stopped hstage).2.step_eq_none hs.staffed (by rwa [← hstage])
    rw [hnone] at hpool
    simp at hpool

/-- The hub begins to submit a message. -/
theorem Sound.submit (hs : t.Sound) {task : Delivery} {rest : List Delivery}
    (hin : t.handedOver = some (task :: rest))
    (hu : { t with handedOver := some rest }.poolStep app (.enter task) = some u) : u.Sound := by
  obtain ⟨pool, hpool, rfl⟩ := Option.map_eq_some_iff.1 hu
  have hc := Pool.Race.change_of_step hpool
  have hrunning := hs.isRunning (by rw [hin]; simp)
  have hstage := hs.stage_ne hrunning
  refine ⟨hs.ledger.change hc, hs.staffed.change hc, ?_, nofun, fun hleft => ?_,
    fun hd => absurd hd hstage.1, fun hd => absurd hd hstage.2⟩
  · have htasks : pool.tasks.Perm (t.pool.tasks ++ [task]) := Pool.Race.tasks_of_step hpool
    have hbefore := hs.delivered
    rw [hin, Option.getD_some, List.append_cons] at hbefore
    exact hbefore.trans (htasks.symm.append_right rest)
  · have hends : t.stages.hub.isRunning = false := hleft
    rw [hrunning] at hends
    simp at hends

/-- The stop comes to the pool.  The hub has submitted everything by then. -/
theorem Sound.stopPool (hs : t.Sound) (hleft : t.stages.hub.isRunning = false) {stages : Running}
    (hstages : stages.hub.isRunning = false)
    (hu : { t with stages, stage := .draining }.poolStep app (.dismiss false) = some u) :
    u.Sound := by
  obtain ⟨pool, hpool, rfl⟩ := Option.map_eq_some_iff.1 hu
  have hc := Pool.Race.change_of_step hpool
  have hnone := hs.left hleft
  have hsubmits := hs.resting hnone
  have hundisturbed : pool.Undisturbed := by
    -- The lock was free.
    have hholder : t.pool.holder = .nobody := by
      have hstep : t.pool.step _ (.dismiss false) = some pool := hpool
      simp only [Pool.Race.step, Pool.Race.lockStep] at hstep
      split at hstep <;> simp_all
    have hbefore : t.pool.Undisturbed := ⟨hsubmits, by simp [hholder]⟩
    exact hbefore.change (by simp) hc
  refine ⟨hs.ledger.change hc, hs.staffed.change hc, hs.perm_of_step hpool rfl,
    fun _ => hundisturbed.submits, fun _ => hnone, fun _ => ⟨hstages, hundisturbed⟩, ?_⟩
  intro hstage
  simp at hstage

/-- The stop returns. -/
theorem Sound.stopReturns (hs : t.Sound) (hstage : t.stage = .draining)
    (hu : { t with stage := .stopped }.poolStep app .reset = some u) : u.Sound := by
  obtain ⟨pool, hpool, rfl⟩ := Option.map_eq_some_iff.1 hu
  have hc := Pool.Race.change_of_step hpool
  obtain ⟨hleft, hundisturbed⟩ := hs.draining hstage
  have hclosed : pool.Closed := Pool.Race.closed_of_reset hs.staffed hundisturbed hpool
  exact ⟨hs.ledger.change hc, hs.staffed.change hc, hs.perm_of_step hpool rfl,
    fun _ => hclosed.submits, hs.left, nofun, fun _ => ⟨hleft, hclosed⟩⟩

/-- **What every step keeps.** -/
theorem Sound.step (hs : t.Sound) (hu : t.step app m = some u) : u.Sound := by
  cases m with
  | accept c =>
    simp only [Threads.step] at hu
    split at hu
    · obtain rfl := Option.some.inj hu
      exact hs.outside _ t.stages.acceptor
    · simp at hu
  | arrive | finish | use =>
    obtain rfl := Option.some.inj hu
    exact hs.outside _ t.stages.acceptor
  | iterate | registerOnly =>
    simp only [Threads.step] at hu
    split at hu
    · next hfree =>
      obtain ⟨hnone, hrunning⟩ := Bool.and_eq_true_iff.1 hfree
      obtain rfl := Option.some.inj hu
      exact hs.workOnHub (Option.isNone_iff_eq_none.1 hnone) hrunning _
    · simp at hu
  | submit =>
    simp only [Threads.step] at hu
    split at hu
    · next task rest hin =>
      split at hu
      · exact hs.submit hin hu
      · simp at hu
    · simp at hu
  | rest verdict =>
    simp only [Threads.step] at hu
    split at hu
    · next hdone =>
      obtain ⟨hin, hsubmits⟩ := Bool.and_eq_true_iff.1 hdone
      have hin := of_decide_eq_true hin
      obtain rfl := Option.some.inj hu
      have hrunning := hs.isRunning (by rw [hin]; simp)
      exact hs.hubGoesOn (by rw [hin]; rfl) (List.isEmpty_iff.1 hsubmits) hrunning _
    · simp at hu
  | hubLooks =>
    simp only [Threads.step] at hu
    split at hu
    · next hfree =>
      obtain ⟨hnone, hrunning⟩ := Bool.and_eq_true_iff.1 hfree
      have hnone := Option.isNone_iff_eq_none.1 hnone
      obtain rfl := Option.some.inj hu
      exact hs.hubGoesOn (by rw [hnone]; rfl) (hs.resting hnone) hrunning _
    · simp at hu
  | acceptorRests | acceptorLooks =>
    obtain rfl := Option.some.inj hu
    exact hs.outside t.hub _
  | pool m =>
    simp only [Threads.step] at hu
    split at hu
    · next hm => exact hs.pool hm hu
    · simp at hu
  | stop =>
    simp only [Threads.step] at hu
    split at hu
    · obtain rfl := Option.some.inj hu
      refine ⟨hs.ledger, hs.staffed, hs.delivered, hs.resting, hs.left, ?_, ?_⟩
      · intro hstage
        simp at hstage
      · intro hstage
        simp at hstage
    · simp at hu
  | stopHub =>
    simp only [Threads.step] at hu
    split at hu
    · obtain rfl := Option.some.inj hu
      refine ⟨hs.ledger, hs.staffed, hs.delivered, hs.resting, hs.left, ?_, ?_⟩
      · intro hstage
        simp at hstage
      · intro hstage
        simp at hstage
    · simp at hu
  | stopPool =>
    simp only [Threads.step] at hu
    split at hu
    · next hended =>
      have hleft : t.stages.hub.isRunning = false := by
        simpa using (Bool.and_eq_true_iff.1 hended).2
      have hstages : ({ t.stages with hub := { t.stages.hub with joined := true } } :
          Running).hub.isRunning = false := hleft
      exact hs.stopPool hleft hstages hu
    · simp at hu
  | stopReturns =>
    simp only [Threads.step] at hu
    split at hu
    · next hstage => exact hs.stopReturns hstage hu
    · simp at hu

/-- **What holds in every order of steps.** -/
theorem Reachable.sound {s : Server} {stages : Running} (ht : Reachable (begun s stages) t) :
    t.Sound := by
  induction ht with
  | start => exact sound_begun s stages
  | next app m _ hu ih => exact ih.step hu

/-! ### The account -/

theorem count_returned (returned : List (Delivery × Except DispatchError Unit)) (d : Delivery) :
    (returned.map Prod.fst).count d =
      (Pool.tasksAccepted returned).count d + (Pool.tasksTurnedAway returned).count d := by
  induction returned with
  | nil => rfl
  | cons r returned ih =>
    obtain ⟨task, result⟩ := r
    rw [← List.singleton_append, List.map_append, Pool.tasksAccepted_append,
      Pool.tasksTurnedAway_append, List.count_append, List.count_append, List.count_append, ih]
    cases result with
    | ok =>
      rw [Pool.tasksAccepted_ok, Pool.tasksTurnedAway_ok, List.count_nil]
      show [task].count d + _ = _
      omega
    | error e =>
      rw [Pool.tasksAccepted_error, Pool.tasksTurnedAway_error, List.count_nil]
      show [task].count d + _ = _
      omega

/-- No two messages that were handed over have one place. -/
theorem nodup_delivered (t : Threads) : t.delivered.Nodup := by
  refine List.Nodup.of_map Delivery.place ?_
  have hplaces : t.delivered.map Delivery.place = List.range' 0 (inbound t.effects).length := by
    rw [delivered, deliveries, List.map_map]
    exact List.zipIdx_map_snd ..
  rw [hplaces]
  exact List.nodup_range'

/-- When the stop returns, nothing is on its way any more. -/
theorem Sound.perm_delivered (hs : t.Sound) (hstage : t.stage = .stopped) :
    (Pool.tasksDone t.calls ++ Pool.tasksRefused t.calls).Perm t.delivered := by
  obtain ⟨hleft, hclosed⟩ := hs.stopped hstage
  have hdelivered : t.delivered.Perm (t.pool.past.returned.map Prod.fst) := by
    have hall := hs.delivered
    rw [hs.left hleft, Pool.Race.tasks, hclosed.submits] at hall
    simpa using hall
  have hconserves := hs.ledger.conserves hs.staffed hclosed.gone
  have hwork := hs.staffed.atWork_eq_nil hclosed.alive
  refine List.Perm.trans ?_ hdelivered.symm
  rw [List.perm_iff_count]
  intro d
  have hplaced := hconserves.placed d
  have hrefused := hconserves.refused d
  rw [hclosed.queue, hwork, List.count_nil] at hplaced
  rw [List.count_append, count_returned]
  rw [calls]
  omega

/-- **Every message is accounted for.**  Start a new server, let its threads, its clients and its
application take their steps in any order, the application as it likes at every step, and stop it.
When the stop returns, every message that a session handed over has been given to a worker to do
once or handed back once, and not both. -/
theorem accounts_for_deliveries {settings : Settings} {app : Service} {c : Conditions}
    {address : SocketAddress} (hstart : ((Server.new settings).start app c).2 = .ok address) :
    ∃ stages, ((Server.new settings).start app c).1.server.running = some stages ∧
      ∀ t, Reachable (begun ((Server.new settings).start app c).1.server stages) t →
        t.stage = .stopped →
          (Pool.tasksDone t.calls ++ Pool.tasksRefused t.calls).Perm t.delivered ∧
            ∀ d ∈ t.delivered,
              ((Pool.tasksDone t.calls).count d = 1 ∧ (Pool.tasksRefused t.calls).count d = 0) ∨
                ((Pool.tasksDone t.calls).count d = 0 ∧
                  (Pool.tasksRefused t.calls).count d = 1) := by
  obtain ⟨stages, hstages, -⟩ := start_new_ok hstart
  refine ⟨stages, hstages, fun t ht hstage => ?_⟩
  have hperm := ht.sound.perm_delivered hstage
  refine ⟨hperm, fun d hd => ?_⟩
  have honce := hperm.count_eq d
  rw [List.count_eq_one_of_mem t.nodup_delivered hd, List.count_append] at honce
  omega

/-- An application that does nothing. -/
def idleService : Service :=
  ⟨fun h _ => ⟨h, [], none⟩, fun _ _ => false, fun _ => false, fun _ => false⟩

/-- One worker, and a queue for one message. -/
def crowdedSettings : Settings := {
  wire := { requireMask := false }
  dispatch := { workers := 1, queueCapacity := 1 } }

/-- Everything can be started. -/
def fairConditions : Conditions := ⟨none, none, .ok, none⟩

/-- A client sends three texts at once.  A worker takes the first, the second waits behind it, and
there is no room for the third; then the server is stopped while the worker is at the first. -/
def threeTexts : List Move :=
  let text : Bytes := [0x81, 0x02, 0x68, 0x69]
  let socket : Socket := ⟨⟨[.bytes (text ++ text ++ text)], false⟩, .new [], false, none⟩
  [.accept ⟨0, ⟨.v4 127 0 0 1, 4000, 0⟩, socket, none⟩, .iterate mailbox 1 false] ++
    [.submit, .pool (.checkRunning 0), .pool (.checkRoom 0), .pool (.count 0), .pool (.append 0)] ++
    [.pool .look, .pool .take, .pool (.release 0)] ++
    [.submit, .pool (.checkRunning 0), .pool (.checkRoom 0), .pool (.count 0), .pool (.append 0)] ++
    [.submit, .pool (.checkRunning 0), .stop, .acceptorLooks, .stopHub, .pool (.checkRoom 0),
      .pool (.giveUp 0), .rest .fine] ++
    [.stopPool, .pool (.settle 0), .pool .look, .pool .join, .pool .handBack, .pool .sweep,
      .stopReturns]

/-- One text is done and two are handed back. -/
theorem accounts_for_deliveries_crowded :
    let started := ((Server.new crowdedSettings).start idleService fairConditions).1.server
    ∃ stages t, Reachable (begun started stages) t ∧ t.stage = .stopped ∧
      t.delivered.map Delivery.place = [0, 1, 2] ∧
      (Pool.tasksDone t.calls).map Delivery.place = [0] ∧
      (Pool.tasksRefused t.calls).map Delivery.place = [2, 1] ∧
      (Pool.tasksDone t.calls ++ Pool.tasksRefused t.calls).Perm t.delivered := by
  intro started
  let listener : Listener := ⟨⟨.v4 0 0 0 0, 8888, 0⟩, 100⟩
  have hstart : ((Server.new crowdedSettings).start idleService fairConditions).2 =
      .ok listener.address := by decide +kernel
  obtain ⟨stages, hstages, hall⟩ := accounts_for_deliveries hstart
  have hrunning : started.running = some ⟨loop acceptorName, loop hubName, listener⟩ := by
    decide +kernel
  have hrun : ((begun started ⟨loop acceptorName, loop hubName, listener⟩).run idleService
      threeTexts).map (fun t => (t.stage, t.delivered.map Delivery.place,
        (Pool.tasksDone t.calls).map Delivery.place,
        (Pool.tasksRefused t.calls).map Delivery.place)) =
      some (.stopped, [0, 1, 2], [0], [2, 1]) := by decide +kernel
  rw [hstages] at hrunning
  obtain rfl := Option.some.inj hrunning
  obtain ⟨t, ht, hfacts⟩ := Option.map_eq_some_iff.1 hrun
  simp only [Prod.mk.injEq] at hfacts
  obtain ⟨hstage, hdelivered, hdone, hrefused⟩ := hfacts
  have hreach := Reachable.run .start ht
  exact ⟨_, t, hreach, hstage, hdelivered, hdone, hrefused, (hall t hreach hstage).1⟩

end Threads

end Server

end WebSocket
