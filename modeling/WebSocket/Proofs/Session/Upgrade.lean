import WebSocket.Proofs.Policy.Decode
import WebSocket.Proofs.Session.Calls

/-!
# The upgrade comes first

A connection is to begin with a request to switch protocols.  A session keeps no record of whether
it did: what a unit is follows from its own bytes, and a client that begins with frames is served
like any other.  The order is in the hands of the client, and of one that begins with a request it
cannot be broken: the request is the first unit, it stays in front until it was answered, and before
that nothing else is handled.

## Main definitions

* `Handling.Delivers`, `Handling.Upgrades` — what matters in the handling of a unit.
* `UpgradeFirst` — data is handed over only behind an upgrade.

## Main results

* `Report.Right.request_first` — what a call makes of bytes that begin with a request.
* `Rounds.upgradeFirst` — what begins with a request goes on in order.
* `upgrade_before_data` — **no data before the upgrade.**
-/

namespace WebSocket

theorem Handshake.status_accept (request : Http.Request) (key : String) :
    (accept request key).status = 101 := by
  unfold accept
  split <;> split <;> rfl

/-- A handshake that was read is answered with a switch of protocols. -/
theorem Handshake.status_of_parse {data : Bytes} {hs : Handshake}
    (h : Handshake.parse data = .ok hs) : hs.response.status = 101 := by
  unfold Handshake.parse at h
  cases hrequest : Http.Request.parse data with
  | error e => simp [hrequest, bind, Except.bind] at h
  | ok request =>
    simp only [hrequest, bind, Except.bind, ofRequest] at h
    split at h
    · obtain rfl := Except.ok.inj h
      exact status_accept ..
    · simp at h

/-- A unit at the front of bytes that begin with a request is a request, however few of the bytes
are there. -/
theorem Policy.request_take_append {p : Policy} {data later : Bytes} {n : Nat}
    (hn : p.boundary data = .ok (.complete n)) (hmark : requestMark <+: data ++ later) :
    requestMark <+: data.take n := by
  have hall : data.take n ++ (data.drop n ++ later) = data ++ later := by
    rw [← List.append_assoc, List.take_append_drop]
  have hwhole := boundary_take_append hn (data.drop n ++ later)
  have htake : (data ++ later).take n = data.take n :=
    List.take_append_of_le_length (boundary_bounds hn).2
  rw [hall] at hwhole
  rw [← htake]
  exact (request_take hwhole).2 hmark

/-- The first of the units that are cut off is the first unit of the stream. -/
theorem Carved.head {p : Policy} {data unit rest : Bytes} {units : List Bytes}
    (h : Carved p data (unit :: units) rest) :
    ∃ n, p.boundary data = .ok (.complete n) ∧ unit = data.take n := by
  cases h with
  | cons hn _ => exact ⟨_, hn, rfl⟩

namespace Session

/-- Something was handed to the application when the unit was handled. -/
def Handling.Delivers (k : Handling) : Prop :=
  ∃ id m panicked, .delivered id m panicked ∈ k.effects

/-- The unit was a handshake, and its response was queued. -/
def Handling.Upgrades (p : Policy) (k : Handling) : Prop :=
  ∃ hs seq, p.decode k.unit = .ok (.handshake hs) ∧ hs.response.status = 101 ∧
    k.after.outbox.waiting = k.before.outbox.waiting ++ [⟨hs.response.encode, seq, .handshake⟩]

/-- Of units handled one after the other, data is handed over only behind an upgrade. -/
def UpgradeFirst (p : Policy) (ks : List Handling) : Prop :=
  ∀ before k after, ks = before ++ k :: after → k.Delivers → ∃ u ∈ before, u.Upgrades p

variable {p : Policy} {app : App}

/-! ### Units that hand nothing over -/

theorem UpgradeFirst.cons {k : Handling} {ks : List Handling} (hk : ¬ k.Delivers)
    (h : UpgradeFirst p ks) : UpgradeFirst p (k :: ks) := by
  intro before k' after hsplit hdelivers
  rcases List.cons_eq_append_iff.1 hsplit with ⟨-, hhead⟩ | ⟨front, rfl, hrest⟩
  · obtain ⟨rfl, -⟩ := List.cons.inj hhead
    exact absurd hdelivers hk
  · obtain ⟨u, hu, hup⟩ := h front k' after hrest hdelivers
    exact ⟨u, List.mem_cons_of_mem k hu, hup⟩

theorem UpgradeFirst.append {ks later : List Handling} (hks : ∀ k ∈ ks, ¬ k.Delivers)
    (h : UpgradeFirst p later) : UpgradeFirst p (ks ++ later) := by
  induction ks with
  | nil => exact h
  | cons k ks ih =>
    obtain ⟨hk, hrest⟩ := List.forall_mem_cons.1 hks
    exact (ih hrest).cons hk

/-- Behind an upgrade anything may follow. -/
theorem Handling.Upgrades.upgradeFirst {k : Handling} (hup : k.Upgrades p) (hk : ¬ k.Delivers)
    (ks : List Handling) : UpgradeFirst p (k :: ks) := by
  intro before k' after hsplit hdelivers
  rcases List.cons_eq_append_iff.1 hsplit with ⟨-, hhead⟩ | ⟨front, rfl, -⟩
  · obtain ⟨rfl, -⟩ := List.cons.inj hhead
    exact absurd hdelivers hk
  · exact ⟨k, List.mem_cons_self, hup⟩

/-! ### A request -/

/-- Whether an address is remembered does not matter for what waits. -/
@[simp] theorem outbox_bound (p : Policy) (h : Handle) (m : Message) :
    (bound p h m).outbox = h.outbox := by
  unfold bound
  split <;> rfl

/-- What a request says is a handshake. -/
theorem exists_handshake {unit : Bytes} {m : Message} (hr : requestMark <+: unit)
    (hd : p.decode unit = .ok m) : ∃ hs, m = .handshake hs ∧ hs.response.status = 101 := by
  rw [Policy.decode_of_request hr] at hd
  cases hparse : Handshake.parse unit with
  | error e => simp [hparse, Except.map] at hd
  | ok hs =>
    simp only [hparse, Except.map] at hd
    exact ⟨hs, (Except.ok.inj hd).symm, Handshake.status_of_parse hparse⟩

/-- Of a request nothing is handed to the application. -/
theorem Handles.not_delivers {h h' : Handle} {unit : Bytes} {effects : List Effect}
    {err : Option SessionError} (hh : Handles p app h unit h' effects err)
    (hr : requestMark <+: unit) : ¬ (⟨unit, h, h', effects⟩ : Handling).Delivers := by
  rintro ⟨id, m, panicked, hm⟩
  obtain ⟨hd, hc⟩ := hh.of_delivered hm
  obtain ⟨hs, rfl, -⟩ := exists_handshake hr hd
  exact absurd hc (by simp [Message.isControl])

/-- Data that was handled without a failure is handed to the application. -/
theorem Handles.delivers {h h' : Handle} {unit : Bytes} {effects : List Effect} {m : Message}
    (hh : Handles p app h unit h' effects none) (hd : p.decode unit = .ok m)
    (hc : m.isControl = false) : (⟨unit, h, h', effects⟩ : Handling).Delivers := by
  generalize hnone : (none : Option SessionError) = err at hh
  cases hh with
  | undecodable => simp at hnone
  | refused => simp at hnone
  | answered hd' hc' =>
    obtain rfl := Except.ok.inj (hd.symm.trans hd')
    simp [hc] at hc'
  | @delivered m' h' _ _ _ => exact ⟨h'.id, m', _, List.mem_append_right _ List.mem_cons_self⟩

/-- A request that was handled without a failure was answered. -/
theorem Handles.upgrades {h h' : Handle} {unit : Bytes} {effects : List Effect}
    (hh : Handles p app h unit h' effects none) (hr : requestMark <+: unit) :
    (⟨unit, h, h', effects⟩ : Handling).Upgrades p := by
  generalize hnone : (none : Option SessionError) = err at hh
  cases hh with
  | undecodable => simp at hnone
  | refused => simp at hnone
  | answered hd _ hq =>
    obtain ⟨hs, rfl, hstatus⟩ := exists_handshake hr hd
    cases hq with
    | cons hone hrest =>
      cases hrest
      obtain ⟨⟨seq, hwaiting⟩, -⟩ := Handle.queue_eq_ok hone
      rw [outbox_bound] at hwaiting
      exact ⟨hs, seq, hd, hstatus, hwaiting⟩
  | delivered hd hc =>
    obtain ⟨hs, rfl, -⟩ := exists_handshake hr hd
    exact absurd hc (by simp [Message.isControl])

/-! ### One call -/

/-- The first of the units that were handled failed, and was the only one, or it was taken. -/
theorem Chain.first {h h' : Handle} {ks : List Handling} {err : Option SessionError}
    (hc : Chain p app h ks h' err) :
    (ks = [] ∧ err = none) ∨
      (∃ k e, ks = [k] ∧ err = some e ∧ Handles p app k.before k.unit k.after k.effects err) ∨
      ∃ k rest units, ks = k :: rest ∧ takenUnits ks err = k.unit :: units ∧
        Handles p app k.before k.unit k.after k.effects none := by
  cases hc with
  | nil => exact .inl ⟨rfl, rfl⟩
  | stop hh => exact .inr (.inl ⟨_, _, rfl, rfl, hh⟩)
  | @next _ _ _ unit effects ks _ hh hrest =>
    refine .inr (.inr ⟨_, ks, takenUnits ks err, rfl, ?_, hh⟩)
    cases err with
    | none => rfl
    -- Behind a unit that was taken there is one more where a unit failed.
    | some e => cases hrest <;> rfl

/-- A call whose bytes begin with a request answers it first of all, or it leaves them as they were
and hands nothing over. -/
theorem Report.Right.request_first {r : Report} (hr : r.Right) {later : Bytes}
    (hmark : requestMark <+: r.round.before ++ r.arrived ++ later) :
    (∃ k ks, r.handlings = k :: ks ∧ k.Upgrades r.round.session.policy ∧ ¬ k.Delivers) ∨
      (r.round.after = r.round.before ++ r.arrived ∧ ∀ k ∈ r.handlings, ¬ k.Delivers) := by
  obtain ⟨s, hchain, -⟩ := hr.chain
  have hcarved := hr.carved
  rw [Report.taken] at hcarved
  rcases hchain.first with ⟨hnil, hnone⟩ | ⟨k, e, hk, herr, hh⟩ | ⟨k, ks, units, hk, htaken, hh⟩
  · rw [hnil, hnone] at hcarved
    exact .inr ⟨hcarved.append_eq, by simp [hnil]⟩
  · rw [hk, herr] at hcarved
    have hall : r.round.after = r.round.before ++ r.arrived := hcarved.append_eq
    obtain ⟨-, front, k', n, hlast, hn, hunit⟩ := hr.failed e herr
    have hone : [] ++ [k] = front ++ [k'] := hk.symm.trans hlast
    obtain rfl : k = k' := List.singleton_inj.1 (List.append_inj' hone rfl).2
    rw [hall] at hn hunit
    refine .inr ⟨hall, ?_⟩
    rw [hk]
    have hrequest : requestMark <+: k.unit := hunit ▸ Policy.request_take_append hn hmark
    exact List.forall_mem_singleton.2 (hh.not_delivers hrequest)
  · rw [htaken] at hcarved
    obtain ⟨n, hn, hunit⟩ := hcarved.head
    have hrequest : requestMark <+: k.unit := hunit ▸ Policy.request_take_append hn hmark
    exact .inl ⟨k, ks, hk, hh.upgrades hrequest, hh.not_delivers hrequest⟩

/-! ### All calls -/

/-- What begins with a request goes on in order.  The induction is on the calls: until the request
is answered, its bytes are still at the front. -/
theorem Rounds.upgradeFirst {s u : Session} {rounds : List Round} (h : Rounds s rounds u)
    {reports : List Report} (hrounds : reports.map Report.round = rounds)
    (hright : ∀ r ∈ reports, r.Right)
    (hmark : requestMark <+: s.inbox.buffer.contents ++ reports.flatMap Report.arrived) :
    UpgradeFirst s.policy (reports.flatMap Report.handlings) := by
  induction h generalizing reports with
  | nil s =>
    obtain rfl := List.map_eq_nil_iff.1 hrounds
    intro before k after hsplit
    simp at hsplit
  | @cons s t u app kind rounds hinbox hpolicy _ ih =>
    obtain ⟨r, reports, rfl, hround, hlater⟩ := List.map_eq_cons_iff.1 hrounds
    obtain ⟨hr, hrights⟩ := List.forall_mem_cons.1 hright
    have hbefore : r.round.before = s.inbox.buffer.contents := by
      rw [hround]
      exact congrArg (fun i : Inbox => i.buffer.contents) hinbox
    have hsame : r.round.session.policy = s.policy := by rw [hround]; exact hpolicy
    rw [List.flatMap_cons] at hmark ⊢
    rw [← List.append_assoc, ← hbefore] at hmark
    rcases hr.request_first hmark with ⟨k, ks, hk, hup, hquiet⟩ | ⟨hafter, hquiet⟩
    · rw [hk]
      exact (hsame ▸ hup).upgradeFirst hquiet _
    · refine .append hquiet ?_
      have hpolicy' := hr.policy
      rw [hsame, hround] at hpolicy'
      rw [← hafter, hround] at hmark
      rw [← hpolicy']
      exact ih hlater hrights hmark

/-- **No data before the upgrade.**  Whatever happens between the calls on a session, if the bytes
that arrive begin with a request, then data is handed to the application only after a handshake of
this session was decoded and its response, which switches protocols, was queued. -/
theorem upgrade_before_data {id : ConnectionId} {peer : SocketAddress} {socket : Socket}
    {settings : SessionSettings} {rounds : List Round} {s : Session}
    (h : Rounds (.new id peer socket settings) rounds s) :
    (∃ reports : List Report, reports.map Report.round = rounds ∧ ∀ r ∈ reports, r.Right) ∧
      ∀ reports : List Report, reports.map Report.round = rounds → (∀ r ∈ reports, r.Right) →
        requestMark <+: reports.flatMap Report.arrived →
        UpgradeFirst settings.policy (reports.flatMap Report.handlings) := by
  constructor
  · obtain ⟨reports, hrounds, hright, -⟩ := h.exists_reports
    exact ⟨reports, hrounds, hright⟩
  · intro reports hrounds hright hmark
    exact h.upgradeFirst hrounds hright hmark

/-- A request to switch protocols, and a text behind it. -/
def upgraded : Bytes :=
  Text.utf8 "GET / HTTP/1.1\r\nSec-WebSocket-Key: x\r\n\r\n" ++ [0x81, 0x02, 0x68, 0x69]

/-- A text that arrives at once with the request before it is handed over behind the upgrade. -/
theorem upgrade_before_data_text :
    let r : Round := ⟨quiet, narrow upgraded, .readable⟩
    .delivered ⟨7⟩ (.text "hi" []) false ∈ r.step.effects ∧
      ∃ report : Report, report.round = r ∧ ∃ before k after, k.Delivers ∧
        report.handlings = before ++ k :: after ∧
        ∃ u ∈ before, u.Upgrades (narrow upgraded).policy := by
  intro r
  have hdelivered : .delivered ⟨7⟩ (.text "hi" []) false ∈ r.step.effects := by decide +kernel
  have hrounds : Rounds (narrow upgraded) [r] r.step.session := .cons rfl rfl (.nil _)
  obtain ⟨report, hround, hr⟩ := exists_report r
  have harrived : report.arrived = upgraded := by
    have hread : r.step.session.socket.incoming.content = [] := by decide +kernel
    have hall := hr.arrived
    rw [hround, hread, List.append_nil] at hall
    rw [← hall]
    simp [r, narrow, Session.new, Source.content, Arrival.content]
  obtain ⟨notices, htold⟩ := hr.told
  rw [hround] at htold
  rw [htold] at hdelivered
  obtain ⟨k, hk, hmem⟩ :
      ∃ k ∈ report.handlings, .delivered ⟨7⟩ (.text "hi" []) false ∈ k.effects := by
    simpa using hdelivered
  obtain ⟨before, after, hsplit⟩ := List.append_of_mem hk
  have hfirst := (upgrade_before_data hrounds).2 [report] (by rw [List.map_singleton, hround])
    (List.forall_mem_singleton.2 hr) (by rw [List.flatMap_singleton, harrived]; decide +kernel)
  rw [List.flatMap_singleton] at hfirst
  exact ⟨htold ▸ hdelivered, report, hround, before, k, after, ⟨_, _, _, hmem⟩, hsplit,
    hfirst before k after hsplit ⟨_, _, _, hmem⟩⟩

/-- A text alone. -/
def bareText : Bytes := [0x81, 0x02, 0x68, 0x69]

/-- A session does not ask for an upgrade: a text that arrives first is handed over. -/
theorem not_upgrade_before_data :
    ¬ ∀ (id : ConnectionId) (peer : SocketAddress) (socket : Socket) (settings : SessionSettings)
      (rounds : List Round) (s : Session), Rounds (.new id peer socket settings) rounds s →
      ∀ reports : List Report, reports.map Report.round = rounds → (∀ r ∈ reports, r.Right) →
        UpgradeFirst settings.policy (reports.flatMap Report.handlings) := by
  intro h
  let r : Round := ⟨quiet, narrow bareText, .readable⟩
  have hrounds : Rounds (narrow bareText) [r] r.step.session := .cons rfl rfl (.nil _)
  obtain ⟨report, hround, hr⟩ := exists_report r
  have hfirst := h _ _ _ _ _ _ hrounds [report] (by rw [List.map_singleton, hround])
    (List.forall_mem_singleton.2 hr)
  rw [List.flatMap_singleton] at hfirst
  have hdelivered : .delivered ⟨7⟩ (.text "hi" []) false ∈ r.step.effects := by decide +kernel
  obtain ⟨notices, htold⟩ := hr.told
  obtain ⟨t, hchain, -⟩ := hr.chain
  have hcarved := hr.carved
  have hread := hr.arrived
  rw [hround] at htold hchain hcarved hread
  rw [htold] at hdelivered
  have hall : r.before ++ report.arrived = bareText := by
    have hrest : r.step.session.socket.incoming.content = [] := by decide +kernel
    rw [hrest, List.append_nil] at hread
    rw [← hread]
    rfl
  -- The first unit that was handled is the text, and nothing can have come before it.
  obtain ⟨k, ks, hk, hdelivers⟩ : ∃ k ks, report.handlings = k :: ks ∧ k.Delivers := by
    rcases hchain.first with ⟨hnil, -⟩ | ⟨k, -, hk, -⟩ | ⟨k, ks, units, hk, htaken, hh⟩
    · rw [hnil] at hdelivered
      simp at hdelivered
    · rw [hk] at hdelivered
      exact ⟨k, [], hk, _, _, _, by simpa using hdelivered⟩
    · rw [Report.taken, htaken, hall] at hcarved
      obtain ⟨n, hn, hunit⟩ := hcarved.head
      obtain rfl : 4 = n := by
        have hown : (narrow bareText).policy.boundary bareText = .ok (.complete 4) := by
          decide +kernel
        exact Boundary.complete.inj (Except.ok.inj (hown.symm.trans hn))
      have hd : (narrow bareText).policy.decode k.unit = .ok (.text "hi" []) := by
        rw [hunit]
        decide +kernel
      exact ⟨k, ks, hk, hh.delivers hd rfl⟩
  obtain ⟨u, hu, -⟩ := hfirst [] k ks hk hdelivers
  simp at hu

end Session
end WebSocket
