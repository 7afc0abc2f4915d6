import WartungsRemote.RemoteSession.Steps
import WartungsRemote.Server.Composition

/-!
# Superseded connections

An agent that reconnects before its old socket has died leaves two `ServeAgentWS` runs for one
device. The new one takes the map entry and cancels the old one; what is left of the old one is its
teardown. The teardown checks that the map entry is its own before it removes it, and checks nothing
before it writes `connection_lost` and calls the disconnect handler. So the end of the old
connection marks the reconnected device as lost and interrupts the sessions that run over the new
connection.

`Harmless` says, in terms of the state before each step of the teardown, when there is nothing left
for it to change. This is exact, step by step, along every run.
-/

namespace WartungsRemote.Server

open List Option RemoteSession
open ControlHub (ConnID Phase)
open Transition

variable {cfg : ControlHub.Config} {s t : State} {l : Label}

/-! ### The end of a connection -/

/-- The device of a connection that has entered the map. -/
def deviceOf : Phase → Option UUID
  | .serving conn | .ended conn | .unmapped conn | .lost conn => some conn.deviceID
  | _ => none

/-- The connection whose end a step is part of, and its device: the return of the read loop, the
three parts of the teardown and the disconnect handler's statements. -/
def ending (s : State) : Label → Option (ConnID × UUID)
  | .hub (.endRead c) | .hub (.unmap c) | .hub (.markLost c) | .notify c _ _ =>
    (deviceOf (s.hub.phase c)).map fun id ↦ (c, id)
  | .session (.exec (.disconnect c) _) => (s.notified c).map fun id ↦ (c, id)
  | _ => none

/-- The step is part of the end of a connection of a device with another one in the map. -/
def EndsSuperseded (s : State) (l : Label) : Prop :=
  ∃ c id c', ending s l = some (c, id) ∧ s.hub.conns.lookup id = some c' ∧ c' ≠ c

/-- Nothing that the rest of the system sees has changed: device status, remote sessions, broker
streams, maintenance sessions. -/
structure SameObservables (s t : State) : Prop where
  status : ∀ id, (t.hub.repo.devices id).map (·.status) = (s.hub.repo.devices id).map (·.status)
  sessions : t.svc.sessions = s.svc.sessions
  broker : t.svc.broker = s.svc.broker
  maintenance : t.svc.maintenance = s.svc.maintenance

/-- A statement of the disconnect handler that finds its work done. -/
def Idle (svc : RemoteSession.State) : Stmt → Prop
  | .unregister id => id ∉ svc.broker.streams
  | .closeMaintenance id result summary => ∀ m ∈ svc.maintenance, m.id = id →
      m.endedAt = some svc.now ∧ m.result = some result ∧ m.summary = some summary
  | _ => False

/-- The condition on a step of a connection's end: the device is already stored as `connection_lost`
when the teardown writes it, has no interruptible session when the disconnect handler looks for
them, and the statements of the handler find their work done (or fail). A run comes there if the
newer connection has not stored `online` before the older one's teardown writes, if no session was
opened over it, and if those of the older one were ended by somebody else. -/
def Harmless (s : State) : Label → Prop
  | .hub (.markLost c) => ∀ conn d, s.hub.phase c = .unmapped conn →
      s.hub.repo.devices conn.deviceID = some d → d.status = .connectionLost
  | .notify c out _ => out = .failed ∨ ∀ conn, s.hub.phase c = .lost conn →
      ∀ r ∈ s.svc.sessions, r.deviceID = conn.deviceID → ¬ r.state.interruptible
  | .session (.exec (.disconnect c) out) => out = .failed ∨
      ∀ stmt rest, s.svc.threads (.disconnect c) = some (.running (stmt :: rest)) → Idle s.svc stmt
  | _ => True

/-! ### What a disconnect handler has left to do -/

/-- The statements a disconnect handler consists of. -/
def cleansUp : Stmt → Bool
  | .unregister _ | .closeMaintenance _ _ _ => true
  | _ => false

/-- Disconnect handlers only clean up. -/
def CleanupInv (svc : RemoteSession.State) : Prop :=
  ∀ c th, svc.threads (.disconnect c) = some th → ∃ stmts, th = .running stmts ∧ ∀ stmt ∈ stmts,
    cleansUp stmt

theorem cleansUp_disconnectStmts (rows : List InterruptedSession) :
    ∀ stmt ∈ disconnectStmts rows, cleansUp stmt := by
  intro stmt hmem
  obtain ⟨i, -, hi⟩ := mem_flatMap.1 hmem
  cases hm : i.maintenanceSessionID <;> simp only [hm, mem_cons, not_mem_nil] at hi
  · obtain rfl | hi := hi <;> simp_all [cleansUp]
  · obtain rfl | rfl | hi := hi <;> simp_all [cleansUp]

theorem CleanupInv.of_request {svc svc' : RemoteSession.State} (hinv : CleanupInv svc)
    (h : ∀ c, svc'.threads (.disconnect c) = svc.threads (.disconnect c)) : CleanupInv svc' := by
  intro c th hth
  exact hinv c th (by rw [← h c, hth])

variable {c : ConnID} {out : Outcome}

theorem CleanupInv.of_disconnect {svc u : RemoteSession.State} (hinv : CleanupInv svc)
    (hu : u.threads = svc.threads) {th : Option Thread}
    (hth : th = none ∨ ∃ stmts, th = Thread.ofStmts stmts ∧ ∀ stmt ∈ stmts, cleansUp stmt) :
    CleanupInv (u.setThread (.disconnect c) th) := by
  intro c' th' hth'
  by_cases hc : c' = c
  · subst hc
    have heq : th = some th' := by simpa [State.setThread] using hth'
    obtain rfl | ⟨stmts, rfl, hall⟩ := hth
    · cases heq
    · exact ⟨stmts, stmts_ofStmts heq, hall⟩
  · rw [u.setThread_threads_of_ne th (by simpa using hc), hu] at hth'
    exact hinv c' th' hth'

theorem cleanupInv_of_sessionStep {svc svc' : RemoteSession.State} {l : RemoteSession.Label}
    (h : RemoteSession.step svc l = some svc') (hinv : CleanupInv svc) : CleanupInv svc' := by
  cases step_cases h with
  | interruptDevice => exact hinv.of_disconnect rfl (.inr ⟨_, rfl, cleansUp_disconnectStmts _⟩)
  | interruptFailed => exact hinv
  | interruptLate => exact hinv.of_request fun _ ↦ rfl
  | @prepare tid _ _ _ _ hth =>
    cases tid with
    | disconnect c =>
      obtain ⟨stmts, hrun, -⟩ := hinv c _ hth
      cases hrun
    | request | startup =>
      exact hinv.of_request fun c ↦ threads_of_step h (by simp [Label.handler?]) (by simp)
  | @exec tid _ _ rest _ hth hnext =>
    cases tid with
    | disconnect c =>
      obtain ⟨stmts, hrun, hall⟩ := hinv c _ hth
      obtain rfl := Thread.running.inj hrun
      refine hinv.of_disconnect (by simp) (hnext.imp And.left fun hrest ↦ ⟨rest, hrest, ?_⟩)
      exact fun stmt' hmem ↦ hall stmt' (mem_cons_of_mem _ hmem)
    | request | startup =>
      exact hinv.of_request fun c ↦ threads_of_step h (by simp [Label.handler?]) (by simp)
  | restart hstop =>
    -- no disconnect handler outlives the process
    subst hstop
    rintro c th ⟨⟩
  | restartFailed _ hstop hnext =>
    subst hstop
    obtain rfl | rfl := hnext <;> rintro c th ⟨⟩
  | _ => exact hinv.of_request fun c ↦ threads_of_step h (by simp [Label.handler?]) (by simp)

/-- Every step leaves the disconnect handlers just cleaning up. -/
theorem cleanupInv_of_step (h : step cfg s l = some t) (hinv : CleanupInv s.svc) :
    CleanupInv t.svc := by
  cases l with
  | hub =>
    obtain ⟨hub, -, rfl⟩ := step_hub_eq_some h
    exact hinv
  | session =>
    obtain ⟨-, svc, hsvc, rfl⟩ := step_session_eq_some h
    exact cleanupInv_of_sessionStep hsvc hinv
  | notify c out rows =>
    obtain ⟨conn, svc, -, hsvc, rfl⟩ := step_notify_eq_some h
    exact cleanupInv_of_sessionStep (l := .interruptDevice c conn.deviceID out rows) hsvc hinv
  | tick | restart =>
    simp only [step] at h
    obtain ⟨hub, -, hmap⟩ := bind_eq_some_iff.1 h
    obtain ⟨svc, hsvc, rfl⟩ := map_eq_some_iff.1 hmap
    exact cleanupInv_of_sessionStep hsvc hinv

/-! ### When a step of the end is harmless -/

theorem map_eq_self_iff {α : Type*} {f : α → α} {xs : List α} :
    xs.map f = xs ↔ ∀ x ∈ xs, f x = x := by
  simpa using map_eq_map_iff (f := f) (g := id) (l := xs)

theorem sameObservables_of_hub {hub : ControlHub.State} (h : hub.repo = s.hub.repo) :
    SameObservables s { s with hub } :=
  ⟨fun id ↦ by rw [h], rfl, rfl, rfl⟩

/-- The status write changes nothing exactly on a device stored as `connection_lost`. -/
theorem markLost_harmless_iff (h : step cfg s (.hub (.markLost c)) = some t) :
    SameObservables s t ↔ Harmless s (.hub (.markLost c)) := by
  obtain ⟨hub, hhub, rfl⟩ := step_hub_eq_some h
  simp only [ControlHub.step, ControlHub.State.markLost] at hhub
  split at hhub
  next conn hph =>
    cases hhub
    have hrow : ∀ id, ((s.hub.repo.updateStatusOnly conn.deviceID .connectionLost).devices id).map
        (·.status) = if id = conn.deviceID then
          (s.hub.repo.devices conn.deviceID).map fun _ ↦ .connectionLost
        else (s.hub.repo.devices id).map (·.status) := by
      intro id
      rw [Device.Repo.updateStatusOnly, Device.Repo.updateRow_devices]
      split
      · rw [Option.map_map]
        rfl
      · rfl
    constructor
    · intro hsame conn' d hph' hd
      obtain rfl : conn = conn' := by simpa [hph] using hph'
      have hstat := hsame.status conn.deviceID
      rw [hrow, if_pos rfl, hd] at hstat
      exact (some.inj hstat).symm
    · intro hlost
      refine ⟨fun id ↦ ?_, rfl, rfl, rfl⟩
      rw [hrow]
      split
      next hid =>
        subst hid
        cases hd : s.hub.repo.devices conn.deviceID with
        | none => rfl
        | some d => exact congrArg some (hlost conn d hph hd).symm
      · rfl
  · cases hhub

/-- An interrupt touches only the session table, and leaves it if there is nothing to interrupt. -/
theorem interrupt_sessions_eq_iff (svc : RemoteSession.State) (deviceID : UUID) (reason : String) :
    (svc.interrupt (fun r ↦ r.deviceID = deviceID) reason).sessions = svc.sessions ↔
      ∀ r ∈ svc.sessions, r.deviceID = deviceID → ¬ r.state.interruptible := by
  rw [State.interrupt, map_eq_self_iff]
  refine forall₂_congr fun r _ ↦ ⟨fun hself hdev hint ↦ ?_, fun hnone ↦ if_neg fun hhit ↦ ?_⟩
  · simp only [hdev, hint, decide_true, Bool.and_true, if_true] at hself
    have hst : SessionState.interrupted = r.state :=
      congrArg Session.state hself
    rw [← hst] at hint
    cases hint
  · obtain ⟨hdev, hint⟩ := Bool.and_eq_true_iff.1 hhit
    exact hnone (by simpa using hdev) hint

theorem notify_harmless_iff {rows : List InterruptedSession}
    (h : step cfg s (.notify c out rows) = some t) :
    SameObservables s t ↔ Harmless s (.notify c out rows) := by
  obtain ⟨conn, _, hph, hsvc, rfl⟩ := step_notify_eq_some h
  have hharm : out ≠ .failed → (Harmless s (.notify c out rows) ↔
      ∀ r ∈ s.svc.sessions, r.deviceID = conn.deviceID → ¬ r.state.interruptible) := by
    refine fun hok ↦ ⟨fun hharm ↦ (hharm.resolve_left hok) conn hph, fun hnone ↦ .inr ?_⟩
    intro conn' hph'
    obtain rfl : conn = conn' := by simpa [hph] using hph'
    exact hnone
  cases step_cases (l := .interruptDevice c conn.deviceID out rows) hsvc with
  | interruptFailed => exact iff_of_true ⟨fun _ ↦ rfl, rfl, rfl, rfl⟩ (.inl rfl)
  | interruptLate | interruptDevice =>
    rw [hharm (by simp), ← interrupt_sessions_eq_iff s.svc conn.deviceID "agent_disconnected"]
    exact ⟨fun hsame ↦ hsame.sessions, fun heq ↦ ⟨fun _ ↦ rfl, heq, rfl, rfl⟩⟩

/-- Ending a maintenance session changes nothing iff it has ended so at this moment. -/
theorem closeMaintenance_eq_iff (svc : RemoteSession.State) (id : UUID) (result summary : String) :
    (Stmt.run svc (.closeMaintenance id result summary)).maintenance = svc.maintenance ↔
      Idle svc (.closeMaintenance id result summary) := by
  rw [Stmt.run, State.updateMaintenance, map_eq_self_iff]
  refine forall₂_congr fun m _ ↦ ?_
  split
  next hid =>
    constructor
    · intro heq _
      exact ⟨(congrArg MaintenanceSession.endedAt heq).symm,
        (congrArg MaintenanceSession.result heq).symm,
        (congrArg MaintenanceSession.summary heq).symm⟩
    · intro hdone
      obtain ⟨hend, hres, hsummary⟩ := hdone hid
      rw [← hend, ← hres, ← hsummary]
  next hid => simp [hid]

/-- A statement of a disconnect handler changes nothing iff it finds its work done. -/
theorem sameObservables_run_iff {stmt : Stmt} (hclean : cleansUp stmt)
    (tid : RemoteSession.ThreadID) (th : Option Thread) :
    SameObservables s { s with svc := (stmt.run s.svc).setThread tid th } ↔ Idle s.svc stmt := by
  cases stmt with
  | unregister =>
    rw [Idle, ← Relay.Broker.unregister_eq_self_iff]
    exact ⟨fun hsame ↦ hsame.broker, fun heq ↦ ⟨fun _ ↦ rfl, rfl, heq, rfl⟩⟩
  | closeMaintenance =>
    rw [← closeMaintenance_eq_iff]
    exact ⟨fun hsame ↦ hsame.maintenance, fun heq ↦ ⟨fun _ ↦ rfl, rfl, rfl, heq⟩⟩
  | setMaintenanceSession | addEvent | setState | close | createTunnel | register => cases hclean

theorem exec_harmless_iff (hinv : CleanupInv s.svc)
    (h : step cfg s (.session (.exec (.disconnect c) out)) = some t) :
    SameObservables s t ↔ Harmless s (.session (.exec (.disconnect c) out)) := by
  obtain ⟨-, _, hsvc, rfl⟩ := step_session_eq_some h
  cases step_cases hsvc with
  | prepare hth =>
    obtain ⟨stmts, hrun, -⟩ := hinv c _ hth
    cases hrun
  | @exec _ _ stmt rest th hth =>
    obtain ⟨stmts, hrun, hall⟩ := hinv c _ hth
    obtain rfl := Thread.running.inj hrun
    have hharm : Harmless s (.session (.exec (.disconnect c) out)) ↔
        out = .failed ∨ Idle s.svc stmt := by
      refine or_congr_right ⟨fun hall' ↦ hall' stmt rest hth, fun hidle stmt' rest' hth' ↦ ?_⟩
      obtain ⟨rfl, -⟩ : stmt = stmt' ∧ rest = rest' := by simpa [hth] using hth'
      exact hidle
    rw [hharm]
    by_cases hfail : out = .failed
    · subst hfail
      exact iff_of_true ⟨fun _ ↦ rfl, rfl, rfl, rfl⟩ (.inl rfl)
    · simp only [Stmt.attempt, hfail, if_false, false_or]
      exact sameObservables_run_iff (hall stmt mem_cons_self) _ th

/-- The steps of a connection's end, one by one. -/
theorem harmless_iff_of_step (hinv : CleanupInv s.svc) (h : step cfg s l = some t)
    (hends : EndsSuperseded s l) : SameObservables s t ↔ Harmless s l := by
  obtain ⟨c, _, _, hending, -⟩ := hends
  cases l with
  | tick | restart => cases hending
  | notify => exact notify_harmless_iff h
  | hub l =>
    cases l with
    | markLost => exact markLost_harmless_iff h
    | endRead | unmap =>
      obtain ⟨hub, hhub, rfl⟩ := step_hub_eq_some h
      refine iff_of_true (sameObservables_of_hub ?_) trivial
      simp only [ControlHub.step, ControlHub.State.endRead, ControlHub.State.unmap] at hhub
      split at hhub
      · cases hhub
        rfl
      · cases hhub
    | tick | enroll | delete | revoke | accept | hello | verify | admitConn | register | connect
    | heartbeat | inventory | notify | sweepStart | sweepRead | sweepDecide | sweepMark
    | sweepClose | sweepEnd | restart => cases hending
  | session l =>
    cases l with
    | exec tid =>
      cases tid with
      | disconnect => exact exec_harmless_iff hinv h
      | request | startup => cases hending
    | tick | openTerminal | openTunnel | openMaintenance | agentReply | closeSession | agentClose
    | attach | getStream | endStream | reread | interruptDevice | restart => cases hending

/-- **Superseded connections are harmless exactly in the runs whose steps meet the condition**: the
end of a connection leaves everything observable alone whenever another connection of its device is
in the map, iff each such step finds its work done. -/
theorem superseded_harmless_iff (cfg : ControlHub.Config) (ls : List Label) :
    Along (step cfg) (fun s l t ↦ EndsSuperseded s l → SameObservables s t) State.init ls ↔
      Along (step cfg) (fun s l _ ↦ EndsSuperseded s l → Harmless s l) State.init ls := by
  refine along_congr_of_invariant (I := fun s ↦ CleanupInv s.svc)
    (fun _ _ _ hinv h ↦ cleanupInv_of_step h hinv) (fun s l t hinv h ↦ ?_) ?_
  · exact forall_congr' fun hends ↦ harmless_iff_of_step hinv h hends
  · intro c th hth
    cases hth

/-- The agent reconnects before its old socket has died. When the old `ServeAgentWS` run ends, the
device is stored as `connection_lost` although its new connection is served. -/
theorem not_superseded_harmless : ¬ ∀ (cfg : ControlHub.Config) (ls : List Label),
      Along (step cfg) (fun s l t ↦ EndsSuperseded s l → SameObservables s t) State.init ls := by
  intro h
  have hrun := h ControlHub.Sample.config
    (((ControlHub.Sample.enroll :: ControlHub.Sample.connect 0 ++ ControlHub.Sample.connect 1 ++
      [ControlHub.Label.endRead 0, ControlHub.Label.unmap 0]).map .hub) ++ [.hub (.markLost 0)])
  have hlast := (((along_append rfl).1 hrun).2 _ rfl).1
  have hsame := hlast ⟨0, ControlHub.Sample.device, 1, rfl, rfl, by decide⟩
  exact absurd (hsame.status ControlHub.Sample.device) (by decide)

end WartungsRemote.Server
