import Mathlib.Data.List.Perm.Basic
import WebSocket.Proofs.Hub.Tally
import WebSocket.Proofs.Server.Stages
import WebSocket.Server.Run

/-!
# Starting and stopping, again and again

A server may be started and stopped as often as one likes, by one thread, and any stage of any start
may fail.  In between clients, loops and workers do what they do, and a loop may even be lost to a
panic.  After each call the server is up or it is down, and nothing in between: up with its pool and
both of its loops; down with every loop ended that was ever begun, and nobody left whom the pool or
the hub would still count.

## Main definitions

* `Server.Doing`, `Server.History` — what happens to a server, and what has happened to it.
* `Server.History.Sane` — what everything that happens keeps.
* `Server.History.Up`, `Server.History.Down` — a server that was started, and one of which nothing
  is left running.

## Main results

* `Server.moves_move` — what clients, loops and workers do neither starts nor stops anything.
* `Server.History.Sane.next` — the invariant holds whatever happens.
* `Server.History.up_or_down` — **a start that succeeds leaves the server up; a start that fails,
  and every stop, leaves it down.**
-/

namespace WebSocket

namespace LoopThread

theorem joined_stop (l : LoopThread) : l.stop.loop.joined = true := rfl

theorem isRunning_look {l : LoopThread} (hraised : l.flag.raised) :
    l.look.loop.isRunning = false := by
  unfold look
  split
  · rfl
  · next hnot => simpa [hraised] using hnot

/-- A loop that was stopped does not run, whether it ended or was lost. -/
theorem isRunning_stop (l : LoopThread) : l.stop.loop.isRunning = false :=
  isRunning_look (l := { l with flag := l.flag.raise }) rfl

theorem name_look (l : LoopThread) : l.look.loop.name = l.name := by
  unfold look
  split <;> rfl

theorem name_stop (l : LoopThread) : l.stop.loop.name = l.name :=
  name_look { l with flag := l.flag.raise }

theorem name_turn (panics : ErrorHook) (v : Verdict) (l : LoopThread) :
    (l.turn panics ⟨v, false⟩).loop.name = l.name := by
  unfold turn
  split
  · rfl
  · simp only [Bool.false_eq_true, if_false]
    cases v.cause? l.name with
    | none => exact name_look l
    | some cause =>
      simp only
      split
      · rfl
      · exact name_look l

end LoopThread

namespace Pool

variable {τ : Type}

theorem running_take (p : Pool τ) : p.take.running = p.running := by
  unfold take dequeue?
  split
  · rfl
  · cases p.queue <;> rfl

theorem running_finish (h : Handler τ) (place : Nat) (p : Pool τ) :
    (p.finish h place).pool.running = p.running := by
  obtain ⟨errors, hfinished⟩ := pool_finish (h := h) p place
  rw [hfinished]

end Pool

namespace Server

/-! ### What clients, loops and workers do -/

/-- Work on a server that neither starts nor stops anything, and keeps the tally of its sessions. -/
structure Moves (s t : Server) : Prop where
  settings : t.settings = s.settings
  running : t.running = s.running
  ended : t.ended = s.ended
  pool : t.pool.running = s.pool.running
  tallied : s.hub.Tallied → t.hub.Tallied

theorem moves_refl (s : Server) : s.Moves s := ⟨rfl, rfl, rfl, rfl, id⟩

theorem moves_of_same {s : Server} {hub : Hub} (h : s.hub.Same hub) :
    s.Moves { s with hub } :=
  ⟨rfl, rfl, rfl, rfl, h.tallied⟩

theorem moves_of_passes {s t : Server} (h : s.Passes t) : s.Moves t := by
  obtain ⟨⟨pool, handedOver, rfl⟩, hrunning⟩ := h
  exact ⟨rfl, rfl, rfl, hrunning, id⟩

theorem keeps_mailbox : App.Keeps mailbox := fun _ _ => rfl

/-- **What clients, loops and workers do neither starts nor stops anything.** -/
theorem moves_move (app : Service) (m : Move) (s : Server) : s.Moves (s.move app m).server := by
  cases m with
  | accept c => exact moves_of_same (Hub.same_accept s.hub c)
  | arrive serial chunk =>
    show s.Moves { s with hub := s.hub.arrive serial chunk }
    unfold Hub.arrive
    split
    · exact moves_refl s
    · exact moves_of_same (Hub.same_signal s.hub serial _)
  | finish serial => exact moves_of_same (Hub.same_signal s.hub serial _)
  | iterate registrations due =>
    unfold move
    simp only
    split
    · exact ⟨rfl, rfl, rfl, rfl, Hub.tallied_iterate keeps_mailbox registrations due⟩
    · exact moves_refl s
  | dispatch => exact moves_of_passes (passes_dispatch app s)
  | take => exact ⟨rfl, rfl, rfl, s.pool.running_take, id⟩
  | complete place =>
    show s.Moves (s.complete app place).server
    unfold complete
    split
    · exact moves_refl s
    · next task _ =>
      refine ⟨rfl, rfl, rfl, s.pool.running_finish _ place, fun ht => ?_⟩
      -- The application may have changed the handle of the session, if that is still known.
      cases s.hub.handle? task.session with
      | none => exact ht
      | some handle => exact (Hub.same_setHandle s.hub _).tallied ht

/-! ### What happens to a server -/

/-- What one thread does with a server, and what happens in between.  A call is one step: the loops
that a start begins make their first turn after it has returned. -/
inductive Doing
  | start (c : Conditions)
  | stop
  /-- Clients, loops and workers move a server that was started. -/
  | move (m : Move)
  /-- An iteration of the loop that accepts connections comes to this. -/
  | acceptorTurns (v : Verdict)
  /-- An iteration of the loop of the hub comes to this.  If the loop is lost over it, so are the
  sessions. -/
  | hubTurns (v : Verdict)

/-- A server after all that happened to it, and the loops that were ever begun on it. -/
structure History where
  server : Server
  begun : List String

namespace History

/-- A server to which nothing has happened. -/
def new (settings : Settings) : History := ⟨.new settings, []⟩

/-- The loops of a server that was started, after one of them went on. -/
def goOn (f : Running → Running) (h : History) : History :=
  { h with server := { h.server with running := h.server.running.map f } }

/-- The sessions of a server whose loop of the hub was lost are lost with it. -/
def bereaved (h : History) : History :=
  if h.server.running.any (·.hub.phase = .crashed) then
    { h with server := { h.server with hub := h.server.hub.lose.hub } }
  else h

/-- One thing more happened. -/
def next (app : Service) (d : Doing) (h : History) : History :=
  match d with
  | .start c =>
    ⟨(h.server.start app c).1.server, h.begun ++ begins c h.server.settings.listener⟩
  | .stop => ⟨(h.server.stop app).server, h.begun⟩
  | .move m =>
    if h.server.running.isSome then ⟨(h.server.move app m).server, h.begun⟩ else h
  | .acceptorTurns v =>
    h.goOn fun r => { r with acceptor := (r.acceptor.turn app.onFailure ⟨v, false⟩).loop }
  | .hubTurns v =>
    (h.goOn fun r => { r with hub := (r.hub.turn app.onFailure ⟨v, false⟩).loop }).bereaved

/-- Several things more happened.  The application may do something else every time. -/
def run (h : History) (doings : List (Service × Doing)) : History :=
  doings.foldl (fun h (app, d) => h.next app d) h

/-- The names of the loops of a server that was started. -/
def loops (h : History) : List String :=
  h.server.running.elim [] fun r => [r.acceptor.name, r.hub.name]

/-- What everything that happens keeps. -/
structure Sane (settings : Settings) (h : History) : Prop where
  settings : h.server.settings = settings
  /-- Whatever has ended was waited for. -/
  ended : ∀ l ∈ h.server.ended, l.joined = true ∧ l.isRunning = false
  /-- Whatever was begun has ended, or is one of the loops of the server. -/
  begun : h.begun.Perm (h.server.ended.map (·.name) ++ h.loops)
  tallied : h.server.hub.Tallied
  idle : h.server.running = none → h.server.pool.AtRest ∧ h.server.hub.entries = []
  busy : h.server.running.isSome → h.server.pool.running = true

/-- The server listens on an address, and its pool and its loops run. -/
structure Up (address : SocketAddress) (h : History) : Prop where
  stored : h.server.running.isSome
  address : h.server.address? = some address
  pool : h.server.pool.running = true
  loops : h.server.isRunning = true

/-- Nothing of the server runs: every loop that was ever begun was waited for and has ended, and the
pool and the hub count nothing. -/
structure Down (h : History) : Prop where
  stored : h.server.running = none
  address : h.server.address? = none
  isRunning : h.server.isRunning = false
  begun : h.begun.Perm (h.server.ended.map (·.name))
  ended : ∀ l ∈ h.server.ended, l.joined = true ∧ l.isRunning = false
  pool : h.server.pool.AtRest
  sessions : h.server.activeSessions = 0

variable {settings : Settings} {h : History}

theorem sane_new (settings : Settings) : (new settings).Sane settings where
  settings := rfl
  ended := nofun
  begun := .nil
  tallied := Hub.tallied_new _
  idle := fun _ => ⟨Pool.atRest_new .., rfl⟩
  busy := fun hsome => absurd hsome Bool.false_ne_true

/-- A sane server without stages is down. -/
theorem Sane.down (hs : h.Sane settings) (hnone : h.server.running = none) : h.Down where
  stored := hnone
  address := by
    unfold address?
    rw [hnone]
    rfl
  isRunning := by
    unfold isRunning
    rw [hnone]
    rfl
  begun := by
    have hbegun := hs.begun
    unfold loops at hbegun
    rw [hnone, Option.elim_none, List.append_nil] at hbegun
    exact hbegun
  ended := hs.ended
  pool := (hs.idle hnone).1
  sessions := by
    show h.server.hub.tracker.active = 0
    rw [hs.tallied.active, (hs.idle hnone).2]
    rfl

/-! ### Stopping -/

/-- The tally is right when the loop of the hub has ended, and when it was lost. -/
theorem tallied_hubEnd {h : Hub} (ht : h.Tallied) (l : LoopThread) :
    (hubEnd l h).hub.Tallied := by
  unfold hubEnd
  split
  · exact Hub.tallied_stopIn ht h.ids
  · exact (Hub.same_abandonWaiting h.lose.hub).tallied (Hub.tallied_lose ht)

/-- The loops of a server ended, and were waited for. -/
theorem Sane.ended_append (hs : h.Sane settings) {r : Running} :
    ∀ l ∈ h.server.ended ++ [r.acceptor.stop.loop, r.hub.stop.loop],
      l.joined = true ∧ l.isRunning = false := by
  intro l hl
  rcases List.mem_append.1 hl with hold | hnew
  · exact hs.ended l hold
  · rcases List.mem_pair.1 hnew with rfl | rfl
    · exact ⟨r.acceptor.joined_stop, r.acceptor.isRunning_stop⟩
    · exact ⟨r.hub.joined_stop, r.hub.isRunning_stop⟩

theorem Sane.begun_append (hs : h.Sane settings) {r : Running} (hr : h.server.running = some r) :
    h.begun.Perm
      ((h.server.ended ++ [r.acceptor.stop.loop, r.hub.stop.loop]).map (·.name)) := by
  have hbegun := hs.begun
  unfold loops at hbegun
  rw [hr] at hbegun
  rw [List.map_append]
  simp only [List.map_cons, List.map_nil, LoopThread.name_stop]
  exact hbegun

/-- The server with its loops stopped: only its pool may run still. -/
theorem Sane.stopLoops (hs : h.Sane settings) (app : Service) :
    let t := (h.server.stopLoops app).server
    t.settings = settings ∧ t.running = none ∧ t.hub.Tallied ∧ t.hub.entries = [] ∧
      (∀ l ∈ t.ended, l.joined = true ∧ l.isRunning = false) ∧
      h.begun.Perm (t.ended.map (·.name)) := by
  intro t
  cases hr : h.server.running with
  | none =>
    have hsame : t = h.server := stopLoops_of_none app hr
    rw [hsame]
    exact ⟨hs.settings, hr, hs.tallied, (hs.idle hr).2, hs.ended, (hs.down hr).begun⟩
  | some r =>
    obtain ⟨pool, handedOver, -, hstopped⟩ := stopLoops_of_some app hr
    have hsame : t = _ := hstopped
    rw [hsame]
    exact ⟨hs.settings, rfl, tallied_hubEnd hs.tallied r.hub, entries_hubEnd .., hs.ended_append,
      hs.begun_append hr⟩

theorem Sane.stop (hs : h.Sane settings) (app : Service) :
    (h.next app .stop).Sane settings ∧ (h.next app .stop).server.running = none := by
  show (History.mk (h.server.stop app).server h.begun).Sane settings ∧
    (h.server.stop app).server.running = none
  cases hr : h.server.running with
  | none =>
    rw [stop_of_none app hr]
    exact ⟨hs, hr⟩
  | some r =>
    obtain ⟨pool, handedOver, hrest, hstopped⟩ := stop_of_some app hr
    rw [hstopped]
    refine ⟨⟨hs.settings, hs.ended_append, ?_, tallied_hubEnd hs.tallied r.hub,
      fun _ => ⟨hrest, ?_⟩, ?_⟩, rfl⟩
    · rw [loops, Option.elim_none, List.append_nil]
      exact hs.begun_append hr
    · exact entries_hubEnd ..
    · exact fun hsome => absurd hsome Bool.false_ne_true

/-! ### Starting -/

/-- A hub that is made anew has no sessions, and knows of those that were. -/
theorem tallied_renewed {t : Server} (ht : t.hub.Tallied) (hnone : t.hub.entries = []) :
    t.renewed.Tallied where
  sound := by
    have hgone : t.renewed.goneIds = t.hub.goneIds := rfl
    refine ⟨.nil, ?_, fun id hid => ht.sound.bound id ?_⟩
    · exact fun id _ => List.not_mem_nil
    · exact List.mem_append_right _ hid
  active := by
    show t.hub.tracker.active = 0
    rw [ht.active, hnone]
    rfl

/-- **A start leaves a sane server**, which is up if the start succeeded, and without stages if it
failed. -/
theorem Sane.start (hs : h.Sane settings) (app : Service) (c : Conditions) :
    (h.next app (.start c)).Sane settings ∧
      ∀ result, (h.server.start app c).2 = result →
        match result with
        | .ok address => (h.next app (.start c)).Up address
        | .error _ => (h.next app (.start c)).server.running = none := by
  obtain ⟨hsettings, hidle, htallied, hnone, hended, hbegun⟩ := hs.stopLoops app
  have hbegins := (begins_start app c h.server).1
  unfold next
  simp only
  generalize (h.server.stopLoops app).server = t at *
  generalize begins c h.server.settings.listener = names at *
  generalize (h.server.start app c).1.server = u at *
  generalize (h.server.start app c).2 = result at *
  cases hbegins with
  | nothing e hrest =>
    refine ⟨⟨hsettings, hended, ?_, htallied, fun _ => ⟨hrest, hnone⟩, ?_⟩, ?_⟩
    · rw [List.append_nil]
      simpa [loops, hidle] using hbegun
    · intro hsome
      simp [hidle] at hsome
    · rintro _ rfl
      exact hidle
  | undone handedOver e hrest =>
    refine ⟨⟨hsettings, ?_, ?_, ?_, fun _ => ⟨hrest, ?_⟩, ?_⟩, ?_⟩
    · intro l hl
      rcases List.mem_append.1 hl with hold | hnew
      · exact hended l hold
      · obtain rfl := List.mem_singleton.1 hnew
        exact ⟨LoopThread.joined_stop _, LoopThread.isRunning_stop _⟩
    · -- The loop of the hub was begun, and has ended.
      simpa [loops, hidle, LoopThread.name_stop, loop] using hbegun.append_right [hubName]
    · exact tallied_hubEnd (tallied_renewed htallied hnone) (loop hubName)
    · exact Hub.entries_stop _
    · intro hsome
      simp [hidle] at hsome
    · rintro _ rfl
      exact hidle
  | everything listener hrunning =>
    refine ⟨⟨hsettings, hended, ?_, tallied_renewed htallied hnone, ?_, fun _ => hrunning⟩, ?_⟩
    · have hswap : [hubName, acceptorName].Perm [acceptorName, hubName] := List.Perm.swap ..
      exact hbegun.append hswap
    · intro hstages
      simp at hstages
    · rintro _ rfl
      exact ⟨rfl, rfl, hrunning, rfl⟩

/-! ### Whatever happens -/

theorem Sane.goOn (hs : h.Sane settings) {f : Running → Running}
    (hf : ∀ r, (f r).acceptor.name = r.acceptor.name ∧ (f r).hub.name = r.hub.name) :
    (h.goOn f).Sane settings where
  settings := hs.settings
  ended := hs.ended
  begun := by
    have hloops : (h.goOn f).loops = h.loops := by
      unfold History.goOn loops
      cases h.server.running with
      | none => rfl
      | some r =>
        obtain ⟨hacceptor, hhub⟩ := hf r
        simp only [Option.map_some, Option.elim_some, hacceptor, hhub]
    rw [hloops]
    exact hs.begun
  tallied := hs.tallied
  idle := fun hnone => hs.idle (Option.map_eq_none_iff.1 hnone)
  busy := fun hsome => hs.busy (by rwa [History.goOn, Option.isSome_map] at hsome)

theorem Sane.bereaved (hs : h.Sane settings) : h.bereaved.Sane settings := by
  unfold History.bereaved
  split
  · exact ⟨hs.settings, hs.ended, hs.begun, Hub.tallied_lose hs.tallied,
      fun hnone => ⟨(hs.idle hnone).1, rfl⟩, hs.busy⟩
  · exact hs

/-- **The invariant holds whatever happens.** -/
theorem Sane.next (hs : h.Sane settings) (app : Service) (d : Doing) :
    (h.next app d).Sane settings := by
  cases d with
  | start c => exact (hs.start app c).1
  | stop => exact (hs.stop app).1
  | move m =>
    show (if h.server.running.isSome then _ else h : History).Sane settings
    split
    · next hsome =>
      obtain ⟨hsettings, hrunning, hended, hpool, htallied⟩ := moves_move app m h.server
      refine ⟨hsettings.trans hs.settings, ?_, ?_, htallied hs.tallied, ?_, ?_⟩
      · rw [hended]
        exact hs.ended
      · rw [loops, hrunning, hended]
        exact hs.begun
      · intro hnone
        rw [hrunning] at hnone
        simp [hnone] at hsome
      · intro _
        rw [hpool]
        exact hs.busy hsome
    · exact hs
  | acceptorTurns v => exact hs.goOn fun r => ⟨r.acceptor.name_turn _ v, rfl⟩
  | hubTurns v =>
    have hgone := hs.goOn (f := fun r => { r with
      hub := (r.hub.turn app.onFailure ⟨v, false⟩).loop }) fun r => ⟨rfl, r.hub.name_turn _ v⟩
    exact hgone.bereaved

/-- So it does in every history.  The induction is on what happens. -/
theorem Sane.run (hs : h.Sane settings) (doings : List (Service × Doing)) :
    (h.run doings).Sane settings := by
  induction doings generalizing h with
  | nil => exact hs
  | cons d doings ih => exact ih (hs.next d.1 d.2)

/-- **A start that succeeds leaves the server up; a start that fails, and every stop, leaves it
down.**  Whatever was done with the server before, and whatever happened to it meanwhile: a start
succeeds exactly if every stage can be started, and then the server listens on its address, its pool
runs, and both loops are alive.  After a start of which some stage fails, and after every stop,
nothing of the server runs: every loop that was ever begun was waited for, the pool is at rest with
all its counts at zero, and there are no sessions. -/
theorem up_or_down (settings : Settings) (doings : List (Service × Doing)) (app : Service) :
    let h := (new settings).run doings
    (∀ c : Conditions, (h.server.start app c).2 = c.result settings.listener ∧
      match c.result settings.listener with
      | .ok address => (h.next app (.start c)).Up address
      | .error _ => (h.next app (.start c)).Down) ∧
    (h.next app .stop).Down := by
  intro h
  have hs : h.Sane settings := (sane_new settings).run doings
  constructor
  · intro c
    obtain ⟨hsane, hend⟩ := hs.start app c
    have hresult : (h.server.start app c).2 = c.result settings.listener := by
      rw [← hs.settings]
      exact (begins_start app c h.server).2
    have hend := hend _ hresult
    refine ⟨hresult, ?_⟩
    cases hc : c.result settings.listener with
    | ok address =>
      rw [hc] at hend
      exact hend
    | error e =>
      rw [hc] at hend
      exact hsane.down hend
  · obtain ⟨hsane, hnone⟩ := hs.stop app
    exact hsane.down hnone

end History

end Server

end WebSocket
