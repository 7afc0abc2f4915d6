import WartungsRemote.RemoteSession.Calls

/-!
# Maintenance records

`OpenTerminal` opens a maintenance session and links it to the remote session before it asks the
agent. The record is ended by whoever ends the session: `Service.Close`, the disconnect handler, the
start of the server. It is not always ended, and not only once:

* when the agent cannot be asked or declines, `OpenTerminal` marks the row failed and **leaves the
  record open**;
* the disconnect handler and the start of the server make their rows final first and end the records
  after, so that a server that stops in between leaves them open;
* two handlers that end the same session **both write the record**, and the later one wins.

In a run without these (`Careful`), and with a database that does not fail, the record of a final
session is ended, or some handler has it still to end, or the call that opens the session has not
returned.
-/

namespace WartungsRemote.RemoteSession

open List State Option
open ControlHub (ConnID)
open Transition

/-! ### Records -/

namespace State

/-- The maintenance session has ended. -/
def Ended (s : State) (mid : UUID) : Prop :=
  ∃ m ∈ s.maintenance, m.id = mid ∧ m.endedAt.isSome
  deriving Decidable

/-- The maintenance session has ended, or a handler has it still to end. -/
def Covered (s : State) (mid : UUID) : Prop :=
  s.Ended mid ∨ ∃ tid stmts, s.threads tid = some (.running stmts) ∧
    ∃ result summary, .closeMaintenance mid result summary ∈ stmts

/-- A row with the same id is linked to the same maintenance session. -/
def KeepsLink (s : State) (r : Session) : Prop :=
  ∃ r₀ ∈ s.sessions, r₀.id = r.id ∧ r₀.maintenanceSessionID = r.maintenanceSessionID

end State

/-- The handler opens or closes a session, or is in the loop of the disconnect or of the start. -/
def Thread.busy : Thread → Bool
  | .created _ _ | .preparing _ _ | .awaiting _ | .running _ => true
  | .attaching _ _ | .streaming _ _ | .rereading _ _ => false

/-- No handler is in progress that opens or closes a session. -/
def Quiet (s : State) : Prop :=
  ∀ tid th, s.threads tid = some th → th.busy = false

/-- The records of the final sessions have ended. -/
def RecordsEnded (s : State) : Prop :=
  ∀ r ∈ s.sessions, r.state.final = true → ∀ mid ∈ r.maintenanceSessionID, s.Ended mid

/-- The end and the result of a record that has ended do not change. -/
def KeepsEnded (s t : State) : Prop :=
  ∀ m ∈ s.maintenance, m.endedAt.isSome → ∃ m' ∈ t.maintenance, m'.id = m.id ∧
    m'.endedAt = m.endedAt ∧ m'.result = m.result
  deriving Decidable

/-- **Maintenance records follow their session.** -/
def RecordsFollow (s : State) (_ : Label) (t : State) : Prop :=
  (Quiet t → RecordsEnded t) ∧ KeepsEnded s t

/-- The database call of a step succeeds. -/
def Label.succeeds : Label → Bool
  | .interruptDevice _ _ out _ | .exec _ out | .restart out _ => out = .ok
  | _ => true

/-- The condition on a step. -/
structure Careful (s : State) (l : Label) : Prop where
  /-- A row is marked failed only if its record is ended or about to be. -/
  failed : ∀ id reason, s.makes l = some (.close id .failed reason) →
    ∀ r ∈ s.sessions, r.id = id → ∀ mid ∈ r.maintenanceSessionID, s.Covered mid
  /-- A record is ended only once. -/
  once : ∀ mid result summary, s.makes l = some (.closeMaintenance mid result summary) →
    ¬ s.Ended mid
  /-- The server does not stop while the record of a final session is open. -/
  restart : ∀ out rows, l = .restart out rows → RecordsEnded s

variable {s t : State} {l : Label} {w w' : Called} {mid : UUID}

/-! ### Ended and covered records -/

variable {stmt : Stmt} {r : Session} {rows : List InterruptedSession}

variable {out : Outcome} {tid : ThreadID} {stmts : List Stmt} {p : Session → Bool} {th : Thread}
  {sess : Session} {i : InterruptedSession}

theorem ended_closeMaintenance {result summary : String} (h : mid ∈ s.maintenance.map (·.id)) :
    ((Stmt.closeMaintenance mid result summary).run s).Ended mid := by
  obtain ⟨m, hm, hid⟩ := mem_map.1 h
  exact ⟨_, mem_map_of_mem hm, by simp [hid], by simp [hid]⟩

theorem exists_act (h : step s l = some t) : ∃ e, Act s l t e :=
  ⟨_, act_of_step h⟩

theorem mem_maintenance_attempt {m : MaintenanceSession} (hm : m ∈ s.maintenance) :
    m ∈ (stmt.attempt s out).maintenance ∨ out ≠ .failed ∧
      (∃ result summary, stmt = .closeMaintenance m.id result summary) ∧
        ∃ m' ∈ (stmt.attempt s out).maintenance, m'.id = m.id ∧ m'.endedAt.isSome := by
  unfold Stmt.attempt
  split
  · exact .inl hm
  next hok =>
    cases stmt with
    | closeMaintenance mid result summary =>
      by_cases heq : m.id = mid
      · subst heq
        exact .inr ⟨hok, ⟨result, summary, rfl⟩, _, mem_map_of_mem hm, by simp⟩
      · exact .inl (mem_map.2 ⟨m, hm, if_neg heq⟩)
    | _ => exact .inl hm

/-- A record stays as it is, unless a statement of a handler ends it. -/
theorem mem_maintenance_of_step {m : MaintenanceSession} (h : step s l = some t)
    (hm : m ∈ s.maintenance) :
    m ∈ t.maintenance ∨ (∃ result summary,
      s.makes l = some (.closeMaintenance m.id result summary) ∨
        ∃ tid sess rest,
          s.threads tid = some (.preparing sess (.closeMaintenance m.id result summary :: rest))) ∧
      ∃ m' ∈ t.maintenance, m'.id = m.id ∧ m'.endedAt.isSome := by
  obtain ⟨e, hact⟩ := exists_act h
  cases hact with
  | idle _ hmnt => exact .inl (hmnt ▸ hm)
  | maintained => exact .inl (mem_append_left _ hm)
  | prepared hth =>
    refine (mem_maintenance_attempt hm).imp_right ?_
    rintro ⟨-, ⟨result, summary, rfl⟩, hend⟩
    exact ⟨⟨result, summary, .inr ⟨_, _, _, hth⟩⟩, hend⟩
  | ran hth =>
    refine (mem_maintenance_attempt hm).imp_right ?_
    rintro ⟨hok, ⟨result, summary, rfl⟩, hend⟩
    exact ⟨⟨result, summary, .inl (by simp [makes, hth, hok])⟩, hend⟩
  | restarted hstop =>
    subst hstop
    exact .inl hm
  | restartedFailed _ hstop ht =>
    subst hstop
    obtain rfl | rfl := ht <;> exact .inl hm
  | _ => exact .inl hm

theorem ended_of_step (h : step s l = some t) (hend : s.Ended mid) : t.Ended mid := by
  obtain ⟨m, hm, rfl, hend⟩ := hend
  obtain hm | ⟨-, hend⟩ := mem_maintenance_of_step h hm
  · exact ⟨m, hm, rfl, hend⟩
  · exact hend

theorem maintenance_of_step (h : step s l = some t) (hmid : mid ∈ s.maintenance.map (·.id)) :
    mid ∈ t.maintenance.map (·.id) := by
  obtain ⟨m, hm, rfl⟩ := mem_map.1 hmid
  obtain hm | ⟨-, m', hm', hid, -⟩ := mem_maintenance_of_step h hm
  · exact mem_map_of_mem hm
  · exact mem_map.2 ⟨m', hm', hid⟩

theorem exec_ok {rest : List Stmt} (h : step s (.exec tid .ok) = some t)
    (hth : s.threads tid = some (.running (stmt :: rest))) :
    t = (stmt.run s).setThread tid (Thread.ofStmts rest) := by
  simpa [step, State.exec, hth, Stmt.attempt] using h.symm

theorem ofStmts_of_mem (h : stmt ∈ stmts) : Thread.ofStmts stmts = some (.running stmts) := by
  cases stmts with
  | nil => cases h
  | cons => rfl

/-! ### The link of a session -/

theorem link_attempt (out : Outcome) (hr : r ∈ (stmt.attempt s out).sessions) :
    s.KeepsLink r ∨ ∃ mid, stmt = .setMaintenanceSession r.id mid ∧
      r.maintenanceSessionID = some mid := by
  obtain ⟨hr, -⟩ | ⟨-, r₀, hr₀, hid, ⟨mid, hstmt, hmid, -⟩ | ⟨-, hlink⟩⟩ := row_attempt hr
  · exact .inl ⟨r, hr, rfl, rfl⟩
  · exact .inr ⟨mid, hstmt, hmid⟩
  · exact .inl ⟨r₀, hr₀, hid, hlink⟩

theorem link_interrupt {reason : String} (hr : r ∈ (s.interrupt p reason).sessions) :
    ∃ r₀ ∈ s.sessions, r₀.id = r.id ∧ r₀.maintenanceSessionID = r.maintenanceSessionID ∧
      (r = r₀ ∨ p r₀ = true ∧ r₀.state.interruptible = true) := by
  obtain ⟨r₀, hr₀, rfl⟩ := mem_map.1 hr
  refine ⟨r₀, hr₀, ?_⟩
  split
  next hp =>
    rw [Bool.and_eq_true] at hp
    exact ⟨rfl, rfl, .inr hp⟩
  · exact ⟨rfl, rfl, .inl rfl⟩

/-- A row is linked to what it was linked to, unless it is new or `OpenTerminal` links it. -/
theorem CallInv.link_of_step (hw : CallInv w) (h : RemoteSession.step w.1 l = some t)
    (hr : r ∈ t.sessions) : w.1.KeepsLink r ∨ ¬ w.1.Has r.id ∧ r.maintenanceSessionID = none ∨
      ∃ tid sess rest mid, w.1.threads tid =
        some (.preparing sess (.setMaintenanceSession r.id mid :: rest)) ∧
          r.maintenanceSessionID = some mid := by
  have hsame : r ∈ w.1.sessions → w.1.KeepsLink r := fun hr ↦ ⟨r, hr, rfl, rfl⟩
  have hint : ∀ {p reason}, r ∈ (w.1.interrupt p reason).sessions → w.1.KeepsLink r := by
    intro p reason hr
    obtain ⟨r₀, hr₀, hid, hlink, -⟩ := link_interrupt hr
    exact ⟨r₀, hr₀, hid, hlink⟩
  obtain ⟨e, hact⟩ := exists_act h
  cases hact with
  | idle hsess => exact .inl (hsame (hsess ▸ hr))
  | opened _ hnew _ hunlinked =>
    obtain hr | rfl := mem_snoc.1 hr
    · exact .inl (hsame hr)
    · exact .inr (.inl ⟨hnew, hunlinked⟩)
  | prepared hth =>
    refine (link_attempt _ hr).imp_right fun hlinked ↦ ?_
    obtain ⟨mid, rfl, hmid⟩ := hlinked
    exact .inr ⟨_, _, _, mid, hth, hmid⟩
  | ran hth =>
    refine (link_attempt _ hr).imp_right fun hlinked ↦ ?_
    obtain ⟨mid, rfl, -⟩ := hlinked
    exact (hw.threads _ _ hth _ mem_cons_self).elim
  | interrupted | interruptedLate => exact .inl (hint hr)
  | restarted hstop =>
    subst hstop
    exact .inl (hint hr)
  | restartedFailed _ hstop ht =>
    subst hstop
    obtain rfl | rfl := ht
    · exact .inl (hsame hr)
    · exact .inl (hint hr)
  | _ => exact .inl (hsame hr)

/-- Only `OpenTerminal` links a session, and only while the session was never active. -/
theorem CallInv.keepsLink_of_wasActive (hw : CallInv w) (h : RemoteSession.step w.1 l = some t)
    (hwas : WasActive w r.id) (hr : r ∈ t.sessions) : w.1.KeepsLink r := by
  obtain hrow | ⟨hnew, -⟩ | ⟨_, _, _, _, hth, -⟩ := hw.link_of_step h hr
  · exact hrow
  · exact absurd hwas.1 hnew
  · obtain ⟨⟨-, hactd⟩, hsts⟩ := hw.threads _ _ hth
    obtain ⟨_, heq⟩ | ⟨_, _, _, _, heq⟩ := hsts _ mem_cons_self
    · rw [← (Stmt.setMaintenanceSession.inj heq).1, hwas.2] at hactd
      cases hactd
    · cases heq

/-! ### The invariant -/

/-- The statement settles the state of a session for the call that opens it. -/
def Stmt.settles (id : UUID) : Stmt → Prop
  | .setState id' _ | .close id' .failed _ => id' = id
  | _ => False

/-- The handler is in a call that opens the session. -/
def Thread.Opens (id : UUID) : Thread → Prop
  | .created sess _ | .preparing sess _ | .awaiting sess => sess.id = id
  | .running stmts => ∃ stmt ∈ stmts, stmt.settles id
  | .attaching _ _ | .streaming _ _ | .rereading _ _ => False

/-- A call that opens the session has not settled its state. -/
def State.Opening (s : State) (id : UUID) : Prop :=
  ∃ tid th, s.threads tid = some th ∧ th.Opens id

/-- What a handler relies on for the record that it links or ends. -/
def Thread.Tracks (s : State) : Thread → Prop
  | .created _ _ | .awaiting _ => True
  | .preparing _ stmts =>
    ∀ id mid, .setMaintenanceSession id mid ∈ stmts → mid ∈ s.maintenance.map (·.id)
  | .attaching sess _ | .streaming sess _ | .rereading sess _ =>
    ∀ r ∈ s.sessions, r.id = sess.id → r.maintenanceSessionID = sess.maintenanceSessionID
  | .running stmts =>
    (∀ mid result summary, .closeMaintenance mid result summary ∈ stmts →
      mid ∈ s.maintenance.map (·.id)) ∧ ∀ id reason, .close id .closed reason ∈ stmts →
        ∀ r ∈ s.sessions, r.id = id → ∀ mid ∈ r.maintenanceSessionID, s.Covered mid

/-- Records are linked to their sessions, and ended or about to be. -/
structure RecordInv (w : Called) : Prop where
  calls : CallInv w
  linked : ∀ r ∈ w.1.sessions, ∀ mid ∈ r.maintenanceSessionID, mid ∈ w.1.maintenance.map (·.id)
  tracks : ∀ tid th, w.1.threads tid = some th → th.Tracks w.1
  settled : ∀ r ∈ w.1.sessions, r.state.final = true → ∀ mid ∈ r.maintenanceSessionID,
    w.1.Covered mid ∨ w.1.Opening r.id

theorem recordInv_init : RecordInv (.init, .init) where
  calls := callInv_init
  linked _ h := by cases h
  tracks _ _ h := by cases h
  settled := nofun

theorem RecordInv.recordsEnded (hw : RecordInv w) (hqui : Quiet w.1) : RecordsEnded w.1 := by
  intro r hr hfin mid hmid
  obtain (hend | ⟨tid, _, hth, -⟩) | ⟨tid, th, hth, hopn⟩ := hw.settled r hr hfin mid hmid
  · exact hend
  · cases hqui tid _ hth
  · have hidle := hqui tid th hth
    cases th with
    | attaching | streaming | rereading => exact hopn.elim
    | _ => cases hidle

section Tracks

variable {sess : Session} {stmts : List Stmt}

/-- A handler that closes a session with its own link ends its record. -/
theorem tracks_closes (hcls : Closes sess stmts) {tid : ThreadID}
    (hth : t.threads tid = some (.running stmts))
    (hlink : ∀ r ∈ t.sessions, r.id = sess.id → r.maintenanceSessionID = sess.maintenanceSessionID)
    (hmid : ∀ mid ∈ sess.maintenanceSessionID, mid ∈ t.maintenance.map (·.id)) :
    (Thread.running stmts).Tracks t := by
  refine ⟨fun mid result summary hmem ↦ ?_, fun id reason hmem r hr hid mid hmem' ↦ ?_⟩
  · obtain ⟨reason, hmem⟩ := (hcls.only _ hmem).resolve_right (by simp)
    refine hmid mid ?_
    unfold closeStmts at hmem
    split at hmem
    next maintenanceID heq => simp_all
    · simp at hmem
  · have hid' : id = sess.id := by
      obtain ⟨reason', hmem⟩ := (hcls.only _ hmem).resolve_right (by simp)
      unfold closeStmts at hmem
      split at hmem <;> simp_all
    obtain ⟨reason', hall⟩ := hcls.mem
    rw [hlink r hr (hid.trans hid'), mem_def] at hmem'
    have hcl : .closeMaintenance mid "completed" ("Terminal session closed: " ++ reason') ∈
        closeStmts sess reason' := by
      simp [closeStmts, hmem']
    exact .inr ⟨tid, stmts, hth, _, _, hall _ hcl⟩

theorem tracks_of_copy {th : Thread} (hcopy : th.copy = some sess) :
    th.Tracks t ↔ ∀ r ∈ t.sessions, r.id = sess.id →
      r.maintenanceSessionID = sess.maintenanceSessionID := by
  cases th with
  | attaching | streaming | rereading =>
    cases hcopy
    rfl
  | _ => cases hcopy

theorem tracks_replyStmts (sess : Session) (reply : OpenReply) :
    (Thread.running (replyStmts sess reply)).Tracks t := by
  cases reply with
  | unreachable | rejected => simp [Thread.Tracks, replyStmts]
  | success => by_cases hkind : sess.kind = .terminal <;> simp [Thread.Tracks, replyStmts, hkind]

end Tracks

theorem opens_replyStmts {reply : OpenReply} :
    ∃ th, Thread.ofStmts (replyStmts sess reply) = some th ∧ th.Opens sess.id := by
  cases reply with
  | unreachable | rejected | success => exact ⟨_, rfl, _, mem_cons_self, rfl⟩

theorem not_opens_of_copy {id : UUID} (h : th.copy = some sess) : ¬ th.Opens id := by
  cases th with
  | attaching | streaming | rereading => exact not_false
  | _ => cases h

section

variable (h : step s l = some t) (hl : l.succeeds = true) (hres : ∀ out rows, l ≠ .restart out rows)
include h hl hres

/-- A handler that has a record to end goes on until it has. -/
theorem covered_of_step (hmid : mid ∈ s.maintenance.map (·.id)) (hcov : s.Covered mid) :
    t.Covered mid := by
  obtain hend | ⟨tid, stmts, hth, result, summary, hmem⟩ := hcov
  · exact .inl (ended_of_step h hend)
  by_cases hexec : ∀ out, l ≠ .exec tid out
  · exact .inr ⟨tid, stmts, threads_of_running h hth hexec hres, result, summary, hmem⟩
  push Not at hexec
  obtain ⟨out, rfl⟩ := hexec
  obtain rfl : out = .ok := by simpa [Label.succeeds] using hl
  cases stmts with
  | nil => cases hmem
  | cons _ rest =>
    obtain rfl := exec_ok h hth
    obtain rfl | hmem := mem_cons.1 hmem
    · exact .inl (ended_closeMaintenance hmid)
    · refine .inr ⟨tid, rest, ?_, result, summary, hmem⟩
      rw [setThread_threads_self, ofStmts_of_mem hmem]

/-- The call that opens a session goes on until it has settled its state. -/
theorem opening_of_step {id : UUID} (hopng : s.Opening id) :
    t.Opening id ∨ ∃ stmt, s.makes l = some stmt ∧ stmt.settles id := by
  obtain ⟨tid, th, hth, hopn⟩ := hopng
  -- it is this call that moves, or another handler
  have hmov : ∀ {u : State} {tid' : ThreadID} {o : Option Thread}, t = u.setThread tid' o →
      u.threads = s.threads → (∀ th', s.threads tid' = some th' → th'.Opens id →
        (∃ th'', o = some th'' ∧ th''.Opens id) ∨ ∃ stmt, s.makes l = some stmt ∧ stmt.settles id) →
      t.Opening id ∨ ∃ stmt, s.makes l = some stmt ∧ stmt.settles id := by
    rintro u tid' o rfl hths hnext
    by_cases heq : tid = tid'
    · subst heq
      refine (hnext th hth hopn).imp_left ?_
      rintro ⟨th', rfl, hopn'⟩
      exact ⟨tid, th', setThread_threads_self, hopn'⟩
    · refine .inl ⟨tid, th, ?_, hopn⟩
      rw [u.setThread_threads_of_ne o heq, hths, hth]
  obtain ⟨e, hact⟩ := exists_act h
  cases hact with
  | idle _ _ hths => exact .inl ⟨tid, th, hths ▸ hth, hopn⟩
  | opened _ _ _ _ hfree | closing hfree | attached hfree | interrupted hfree =>
    refine hmov rfl rfl fun th' heq ↦ ?_
    cases hfree.symm.trans heq
  | maintained hth' | unmaintained hth' =>
    refine hmov rfl rfl fun th' heq hopn' ↦ .inl ⟨_, rfl, ?_⟩
    cases hth'.symm.trans heq
    exact hopn'
  | replied hth' =>
    refine hmov rfl rfl fun th' heq hopn' ↦ .inl ?_
    cases hth'.symm.trans heq
    obtain rfl : _ = id := hopn'
    exact opens_replyStmts
  | reclosing hth' =>
    refine hmov rfl rfl fun th' heq hopn' ↦ ?_
    cases hth'.symm.trans heq
    exact hopn'.elim
  | streamed hth' hcopy =>
    refine hmov rfl rfl fun th' heq hopn' ↦ ?_
    cases hth'.symm.trans heq
    exact (not_opens_of_copy hcopy hopn').elim
  | @prepared _ out _ stmt rest hth' =>
    refine hmov rfl (stmt.attempt_threads s out) fun th' heq hopn' ↦ .inl ⟨_, rfl, ?_⟩
    cases hth'.symm.trans heq
    cases rest <;> exact hopn'
  | @ran _ out stmt _ _ hth' hnext =>
    obtain rfl : out = .ok := by simpa [Label.succeeds] using hl
    obtain rfl | ⟨-, hne⟩ := hnext
    swap
    · exact absurd rfl hne
    refine hmov rfl (stmt.attempt_threads s .ok) fun th' heq hopn' ↦ ?_
    cases hth'.symm.trans heq
    obtain ⟨stmt', hmem, hsett⟩ := hopn'
    obtain rfl | hmem := mem_cons.1 hmem
    · exact .inr ⟨stmt', by simp [makes, hth'], hsett⟩
    · exact .inl ⟨_, ofStmts_of_mem hmem, stmt', hmem, hsett⟩
  | interruptedLate => cases hl
  | restarted | restartedFailed => exact absurd rfl (hres _ _)

end

theorem makes_eq_some (hl : l.succeeds = true) (h : s.makes l = some stmt) :
    ∃ tid rest, l = .exec tid .ok ∧ s.threads tid = some (.running (stmt :: rest)) := by
  cases l with
  | exec tid out =>
    obtain rfl : out = .ok := by simpa [Label.succeeds] using hl
    simp only [makes] at h
    split at h
    next stmt' rest hth =>
      obtain rfl : stmt' = stmt := by simpa using h
      exact ⟨tid, rest, rfl, hth⟩
    · cases h
  | _ => cases h

theorem restart_ok (h : step s (.restart .ok rows) = some t) :
    rows.Perm (s.interrupted fun _ ↦ true) ∧
      t = ({ s with broker := .empty, threads := fun _ ↦ none }.interrupt (fun _ ↦
        true) "server_restart").setThread .startup (Thread.ofStmts (startupStmts rows)) := by
  simp only [step, restart] at h
  split at h
  next hperm => exact ⟨hperm, (some.inj h).symm⟩
  · cases h

/-! ### What a step preserves -/

theorem mem_interrupted (hperm : rows.Perm (s.interrupted p)) :
    i ∈ rows ↔ ∃ r ∈ s.sessions, (p r = true ∧ r.state.interruptible = true) ∧
      (⟨r.id, r.maintenanceSessionID⟩ : InterruptedSession) = i := by
  rw [hperm.mem_iff]
  simp [interrupted, and_assoc]

/-- A row was not touched, or the loop over the interrupted rows ends its record. -/
theorem mem_or_covered_of_interrupt {reason : String} (stmts : List Stmt)
    (hperm : rows.Perm (s.interrupted p)) (hr : r ∈ (s.interrupt p reason).sessions)
    (hmid : mid ∈ r.maintenanceSessionID) (hsts : ∀ i ∈ rows, mid ∈ i.maintenanceSessionID →
      ∃ result summary, .closeMaintenance mid result summary ∈ stmts) :
    r ∈ s.sessions ∨ ∀ u : State, (u.setThread tid (Thread.ofStmts stmts)).Covered mid := by
  obtain ⟨r₀, hr₀, -, hlink, rfl | hinterrupted⟩ := link_interrupt hr
  · exact .inl hr₀
  · obtain ⟨result, summary, hmem⟩ :=
      hsts _ ((mem_interrupted hperm).2 ⟨r₀, hr₀, hinterrupted, rfl⟩) (hlink ▸ hmid)
    exact .inr fun u ↦ .inr ⟨tid, stmts, setThread_threads_self.trans (ofStmts_of_mem hmem), _, _,
      hmem⟩

namespace RecordInv

section

variable (hw : RecordInv w)
include hw

theorem linked_of_step (h : step w.1 l = some t) :
    ∀ r ∈ t.sessions, ∀ mid ∈ r.maintenanceSessionID, mid ∈ t.maintenance.map (·.id) := by
  intro r hr mid hmid
  obtain ⟨r₀, hr₀, -, hlink⟩ | ⟨-, hnone⟩ | ⟨tid, _, _, _, hth, hlink⟩ := hw.calls.link_of_step h hr
  · exact maintenance_of_step h (hw.linked r₀ hr₀ mid (hlink ▸ hmid))
  · rw [hnone] at hmid
    cases hmid
  · cases hlink.symm.trans hmid
    exact maintenance_of_step h (hw.tracks tid _ hth _ _ mem_cons_self)

theorem tracks_of_interrupted {stmts : List Stmt} {p : Session → Bool}
    {rows : List InterruptedSession} (hperm : rows.Perm (w.1.interrupted p))
    (hmnt : t.maintenance = w.1.maintenance) (hsts : ∀ stmt ∈ stmts, (∃ id, stmt = .unregister id) ∨
      ∃ i ∈ rows, ∃ mid ∈ i.maintenanceSessionID, ∃ result summary,
        stmt = .closeMaintenance mid result summary) : (Thread.running stmts).Tracks t := by
  refine ⟨fun mid result summary hmem ↦ ?_, fun id reason hmem ↦ ?_⟩
  · obtain ⟨id, heq⟩ | ⟨i, hi, _, hmid, _, _, heq⟩ := hsts _ hmem
    · cases heq
    · cases heq
      obtain ⟨r, hr, -, rfl⟩ := (mem_interrupted hperm).1 hi
      rw [hmnt]
      exact hw.linked r hr mid hmid
  · obtain ⟨_, heq⟩ | ⟨i, -, mid, -, result, summary, heq⟩ := hsts _ hmem <;> cases heq

section

variable (h : step w.1 l = some t) (hl : l.succeeds = true)
include h hl

/-- The opening call settles its session: it is active now, or its record is covered. -/
theorem settled_of_makes (hcare : Careful w.1 l) {stmt : Stmt} {r : Session}
    (hmakes : w.1.makes l = some stmt) (hsett : stmt.settles r.id) (hr : r ∈ t.sessions)
    (hfin : r.state.final = true) (hmid : mid ∈ r.maintenanceSessionID) : t.Covered mid := by
  obtain ⟨tid, _, rfl, hth⟩ := makes_eq_some hl hmakes
  have hfits := hw.calls.threads tid _ hth _ mem_cons_self
  have hres : ∀ out rows, Label.exec tid .ok ≠ .restart out rows := by rintro _ _ ⟨⟩
  obtain rfl := exec_ok h hth
  cases stmt with
  | setState id =>
    obtain rfl : id = r.id := hsett
    obtain ⟨rfl, -⟩ := hfits
    obtain ⟨r₀, -, heq⟩ := mem_map.1 hr
    by_cases hid : r₀.id = r.id
    · rw [if_pos hid] at heq
      rw [← heq] at hfin
      cases hfin
    · rw [if_neg hid] at heq
      exact absurd (congrArg Session.id heq) hid
  | close id state reason =>
    cases state with
    | failed =>
      obtain rfl : id = r.id := hsett
      have hr' : r ∈ ((Stmt.close r.id .failed reason).attempt w.1 .ok).sessions := hr
      obtain ⟨r₀, hr₀, hid, hlink⟩ := (link_attempt .ok hr').resolve_right (by simp)
      rw [← hlink] at hmid
      exact covered_of_step h hl hres (hw.linked r₀ hr₀ mid hmid)
        (hcare.failed _ _ hmakes r₀ hr₀ hid mid hmid)
    | _ => exact hsett.elim
  | _ => exact hsett.elim

variable (hres : ∀ out rows, l ≠ .restart out rows)
include hres

theorem tracks_of_eq {tid : ThreadID} {th : Thread} (hth : w.1.threads tid = some th) :
    th.Tracks t := by
  have htracks := hw.tracks tid th hth
  have hfits := hw.calls.threads tid th hth
  have hcopy : ∀ sess : Session, WasActive w sess.id →
      (∀ r ∈ w.1.sessions, r.id = sess.id → r.maintenanceSessionID = sess.maintenanceSessionID) →
      ∀ r ∈ t.sessions, r.id = sess.id → r.maintenanceSessionID = sess.maintenanceSessionID := by
    intro sess hwas hlinks r hr hid
    obtain ⟨r₀, hr₀, hid₀, hlink⟩ := hw.calls.keepsLink_of_wasActive h (hid ▸ hwas) hr
    exact hlink.symm.trans (hlinks r₀ hr₀ (hid₀.trans hid))
  cases th with
  | created | awaiting => trivial
  | preparing => exact fun id mid hmem ↦ maintenance_of_step h (htracks id mid hmem)
  | attaching sess | streaming sess | rereading sess => exact hcopy sess hfits htracks
  | running =>
    refine ⟨fun mid result summary hmem ↦ maintenance_of_step h (htracks.1 mid result summary hmem),
      ?_⟩
    rintro _ reason hmem r hr rfl mid hmid
    obtain ⟨r₀, hr₀, hid₀, hlink⟩ := hw.calls.keepsLink_of_wasActive h (hfits _ hmem) hr
    rw [← hlink] at hmid
    exact covered_of_step h hl hres (hw.linked r₀ hr₀ mid hmid)
      (htracks.2 _ reason hmem r₀ hr₀ hid₀ mid hmid)

theorem tracks_of_step : ∀ tid th, t.threads tid = some th → th.Tracks t := by
  have hoth : ∀ tid th, w.1.threads tid = some th → th.Tracks t :=
    fun tid th hth ↦ hw.tracks_of_eq h hl hres hth
  -- the row of a session that was read is the only one with its id
  have hsame : ∀ sess ∈ w.1.sessions, ∀ r ∈ w.1.sessions, r.id = sess.id →
      r.maintenanceSessionID = sess.maintenanceSessionID := fun sess hsess r hr hid ↦ by
    rw [inj_on_of_nodup_map hw.calls.ids hr hsess hid]
  obtain ⟨e, hact⟩ := exists_act h
  cases hact with
  | idle _ _ hths =>
    intro tid th hth
    exact hoth tid th (hths ▸ hth)
  | opened _ _ _ _ _ hth =>
    refine forall_setThread_some hoth rfl ?_
    obtain rfl | ⟨_, rfl⟩ := hth <;> trivial
  | maintained _ hid =>
    refine forall_setThread_some hoth rfl fun id mid hmem ↦ ?_
    simp only [mem_cons, Stmt.setMaintenanceSession.injEq, reduceCtorEq, not_mem_nil, or_false]
      at hmem
    rw [hmem.2, ← hid]
    exact mem_map.2 ⟨_, mem_append_right _ (mem_singleton_self _), rfl⟩
  | unmaintained => exact forall_setThread_some hoth rfl trivial
  | replied => exact forall_setThread_ofStmts hoth rfl (tracks_replyStmts _ _)
  | closing _ hmem _ hcls =>
    exact forall_setThread_some hoth rfl
      (tracks_closes hcls setThread_threads_self (hsame _ hmem) (hw.linked _ hmem))
  | @reclosing _ sess reason hth =>
    refine forall_setThread_some hoth rfl
      (tracks_closes (closes_closeStmts sess reason) setThread_threads_self (hoth _ _ hth) ?_)
    intro mid hmid
    obtain ⟨r, hr, hid⟩ := mem_map.1 (hw.calls.threads _ _ hth).1
    exact hw.linked r hr mid (hw.tracks _ _ hth r hr hid ▸ hmid)
  | attached _ hmem => exact forall_setThread_some hoth rfl (hsame _ hmem)
  | streamed hth hcopy hnext =>
    exact forall_setThread hoth rfl fun th' heq ↦
      (tracks_of_copy (hnext th' heq)).2 ((tracks_of_copy hcopy).1 (hoth _ _ hth))
  | @prepared _ out _ stmt rest hth =>
    refine forall_setThread_some hoth (stmt.attempt_threads w.1 out) ?_
    cases rest with
    | nil => trivial
    | cons => exact fun id mid hmem ↦ hoth _ _ hth id mid (mem_cons_of_mem _ hmem)
  | @ran _ out stmt _ _ hth hnext =>
    obtain ⟨hrecords, hcls⟩ := hoth _ _ hth
    exact forall_setThread_rest hoth (stmt.attempt_threads w.1 out) hnext
      ⟨fun mid result summary hmem ↦ hrecords mid result summary (mem_cons_of_mem _ hmem),
        fun id reason hmem ↦ hcls id reason (mem_cons_of_mem _ hmem)⟩
  | interrupted _ hperm =>
    exact forall_setThread_ofStmts hoth rfl (hw.tracks_of_interrupted hperm rfl fun _ ↦
      mem_disconnectStmts)
  | interruptedLate => cases hl
  | restarted | restartedFailed => exact absurd rfl (hres _ _)

theorem settled_of_mem {r : Session}
    (hmakes : ∀ stmt, w.1.makes l = some stmt → ¬ stmt.settles r.id) (hr : r ∈ w.1.sessions)
    (hfin : r.state.final = true) (hmid : mid ∈ r.maintenanceSessionID) :
    t.Covered mid ∨ t.Opening r.id := by
  obtain hcov | hopng := hw.settled r hr hfin mid hmid
  · exact .inl (covered_of_step h hl hres (hw.linked r hr mid hmid) hcov)
  · obtain hopng | ⟨stmt, hstmt, hsett⟩ := opening_of_step h hl hres hopng
    · exact .inr hopng
    · exact absurd hsett (hmakes stmt hstmt)

/-- The record of a final session is covered, or the session is still being opened. -/
theorem settled_of_step (hcare : Careful w.1 l) :
    ∀ r ∈ t.sessions, r.state.final = true → ∀ mid ∈ r.maintenanceSessionID, t.Covered mid ∨
      t.Opening r.id := by
  intro r hr hfin mid hmid
  by_cases hmakes : ∃ stmt, w.1.makes l = some stmt ∧ stmt.settles r.id
  · obtain ⟨stmt, hstmt, hsett⟩ := hmakes
    exact .inl (hw.settled_of_makes h hl hcare hstmt hsett hr hfin hmid)
  push Not at hmakes
  have hsame : r ∈ w.1.sessions → t.Covered mid ∨ t.Opening r.id := fun hr ↦
    hw.settled_of_mem h hl hres hmakes hr hfin hmid
  obtain ⟨e, hact⟩ := exists_act h
  cases hact with
  | idle hsess => exact hsame (hsess ▸ hr)
  | opened _ _ hst =>
    obtain hr | rfl := mem_snoc.1 hr
    · exact hsame hr
    · rw [hst] at hfin
      cases hfin
  | @prepared tid _ _ _ rest hth =>
    obtain ⟨hr, -⟩ | ⟨-, r₀, -, -, ⟨mid', rfl, -⟩ | ⟨hwr, -⟩⟩ := row_attempt hr
    · exact hsame hr
    · -- the call has just linked its session
      refine .inr ⟨tid, _, setThread_threads_self, ?_⟩
      obtain ⟨mid'', heq⟩ | ⟨_, _, _, _, heq⟩ := (hw.calls.threads _ _ hth).2 _ mem_cons_self
      · cases rest <;> exact (Stmt.setMaintenanceSession.inj heq).1.symm
      · cases heq
    · obtain ⟨mid'', rfl⟩ | ⟨_, _, _, _, rfl⟩ := (hw.calls.threads _ _ hth).2 _ mem_cons_self
      · obtain ⟨⟨⟩⟩ | ⟨_, ⟨⟩⟩ := hwr
      · obtain ⟨⟨⟩⟩ | ⟨_, ⟨⟩⟩ := hwr
  | @ran _ out stmt _ _ hth =>
    obtain rfl : out = .ok := by simpa [Label.succeeds] using hl
    have hstmt := hmakes stmt (by simp [makes, hth])
    have hfits := hw.calls.threads _ _ hth _ mem_cons_self
    obtain ⟨hr, -⟩ | ⟨-, r₀, hr₀, hid, ⟨mid', rfl, -⟩ | ⟨rfl | ⟨_, rfl⟩, hlink⟩⟩ := row_attempt hr
    · exact hsame hr
    · exact hfits.elim
    · exact absurd rfl hstmt
    · generalize r.state = state at h hth hstmt hfits ⊢
      cases state with
      | failed => exact absurd rfl hstmt
      | closed =>
        rw [← hlink] at hmid
        exact .inl (covered_of_step h hl hres (hw.linked r₀ hr₀ mid hmid)
          ((hw.tracks _ _ hth).2 _ _ mem_cons_self r₀ hr₀ hid mid hmid))
      | _ => exact hfits.elim
  | interrupted _ hperm =>
    obtain hr₀ | hcov := mem_or_covered_of_interrupt (disconnectStmts _) hperm hr hmid
      fun i hi hmid ↦ ⟨_, _, mem_flatMap.2 ⟨i, hi, by
        rw [mem_def.1 hmid]
        exact mem_cons_of_mem _ mem_cons_self⟩⟩
    · exact hsame hr₀
    · exact .inl (hcov _)
  | interruptedLate => cases hl
  | restarted | restartedFailed => exact absurd rfl (hres _ _)
  | _ => exact hsame hr

end

/-- The server starts again: it interrupts the sessions whose records its loop ends. -/
theorem of_restart {rows : List InterruptedSession} (h : step w.1 (.restart .ok rows) = some t)
    (hend : RecordsEnded w.1) : (∀ tid th, t.threads tid = some th → th.Tracks t) ∧
      ∀ r ∈ t.sessions, r.state.final = true → ∀ mid ∈ r.maintenanceSessionID, t.Covered mid ∨
        t.Opening r.id := by
  obtain ⟨hperm, rfl⟩ := restart_ok h
  constructor
  · refine forall_setThread_ofStmts (s := { w.1 with threads := fun _ ↦ none }) ?_ rfl
      (hw.tracks_of_interrupted hperm rfl fun _ hmem ↦ .inr (mem_startupStmts hmem))
    rintro _ _ ⟨⟩
  · intro r hr hfin mid hmid
    obtain hr₀ | hcov := mem_or_covered_of_interrupt (s := w.1) (startupStmts _) hperm hr hmid
      fun i hi hmid ↦ ⟨_, _, mem_flatMap.2 ⟨i, hi, by rw [mem_def.1 hmid]; exact mem_cons_self⟩⟩
    · exact .inl (.inl (ended_of_step h (hend r hr₀ hfin mid hmid)))
    · exact .inl (hcov _)

theorem step (h : calledStep w l = some w') (hl : l.succeeds = true) (hcare : Careful w.1 l) :
    RecordInv w' := by
  have hcalls := hw.calls.step h
  obtain ⟨t, hstep, rfl⟩ := withHistory_eq_some_iff.1 h
  have hlink := hw.linked_of_step hstep
  by_cases hres : ∀ out rows, l ≠ .restart out rows
  · exact ⟨hcalls, hlink, hw.tracks_of_step hstep hl hres, hw.settled_of_step hstep hl hres hcare⟩
  · push Not at hres
    obtain ⟨out, rows, rfl⟩ := hres
    obtain rfl : out = .ok := by simpa [Label.succeeds] using hl
    obtain ⟨htracks, hsett⟩ := hw.of_restart hstep (hcare.restart _ _ rfl)
    exact ⟨hcalls, hlink, htracks, hsett⟩

end

end RecordInv

/-- A record that has ended stays as it is. -/
theorem keepsEnded_of_step (hw : CallInv w) (h : step w.1 l = some t) (hcare : Careful w.1 l) :
    KeepsEnded w.1 t := by
  intro m hm hend
  obtain hm' | ⟨⟨result, summary, hmakes | ⟨tid, _, _, hth⟩⟩, -⟩ := mem_maintenance_of_step h hm
  · exact ⟨m, hm', rfl, rfl, rfl⟩
  · exact absurd ⟨m, hm, rfl, hend⟩ (hcare.once _ result summary hmakes)
  · have hstmt := (hw.threads tid _ hth).2 _ mem_cons_self
    simp at hstmt

/-- **Maintenance records follow their sessions**, in every run in which they are ended once, with
the session. -/
theorem recordsFollow_of_careful (ls : List Label) (hok : ∀ l ∈ ls, l.succeeds = true)
    (hcare : Along step (fun s l _ ↦ Careful s l) .init ls) :
    Along step RecordsFollow .init ls := by
  have hgrd : Along step (fun s l _ ↦ Careful s l ∧ l.succeeds = true) .init ls :=
    hcare.and (along_of_forall_mem fun l hl _ _ ↦ hok l hl)
  rw [← along_withHistory Calls.record .init] at hgrd ⊢
  refine along_of_invariant (I := RecordInv) (fun _ _ _ hw h hl ↦ hw.step h hl.2 hl.1) ?_
    recordInv_init hgrd
  intro w l w' hw h hl
  refine ⟨(hw.step h hl.2 hl.1).recordsEnded, ?_⟩
  obtain ⟨t, hstep, rfl⟩ := withHistory_eq_some_iff.1 h
  exact keepsEnded_of_step hw.calls hstep hl.1

namespace Sample

/-- A terminal is asked for, with a maintenance session. -/
def asked : List Label :=
  [.openTerminal 0 1 2 3 none 100, .openMaintenance 0 (some 9), .exec (.request 0) .ok,
    .exec (.request 0) .ok]

/-- The agent opens the terminal. -/
def opened : List Label :=
  asked ++ ([.agentReply 0 .success, .exec (.request 0) .ok, .exec (.request 0) .ok] : List Label)

/-- The administrator closes the session. -/
def closed : List Label :=
  opened ++ ([.closeSession 1 1, .exec (.request 1) .ok, .exec (.request 1) .ok,
    .exec (.request 1) .ok, .exec (.request 1) .ok] : List Label)

/-- The administrator closes the session twice. -/
def closedTwice : List Label :=
  opened ++ ([.closeSession 1 1, .closeSession 2 1, .exec (.request 1) .ok, .exec (.request 1) .ok,
    .tick 5, .exec (.request 2) .ok, .exec (.request 2) .ok] : List Label)

/-- The agent cannot be asked. -/
def unreachable : List Label :=
  asked ++ ([.agentReply 0 .unreachable, .exec (.request 0) .ok] : List Label)

end Sample

open Sample

theorem recordsFollow_of_careful_closed :
    ((exec step .init closed).map fun s ↦
      (s.sessions.map (·.state), s.maintenance.map (·.endedAt))) =
        some ([.closed], [some 0]) ∧
      Along step RecordsFollow .init closed := by
  refine ⟨by decide +kernel, recordsFollow_of_careful closed (by decide) ?_⟩
  iterate 9 refine .cons rfl ⟨by rintro _ _ ⟨⟩, by rintro _ _ _ ⟨⟩, by rintro _ _ ⟨⟩⟩ ?_
  refine .cons rfl ⟨by rintro _ _ ⟨⟩, ?_, by rintro _ _ ⟨⟩⟩ ?_
  · rintro mid _ _ heq
    cases heq
    decide
  iterate 2 refine .cons rfl ⟨by rintro _ _ ⟨⟩, by rintro _ _ _ ⟨⟩, by rintro _ _ ⟨⟩⟩ ?_
  exact trivial

/-- The record of a failed opening stays open, and a second close moves the end of its record. -/
theorem not_recordsFollow : (∀ l ∈ unreachable ++ closedTwice, l.succeeds = true) ∧
      ¬ Along step RecordsFollow .init unreachable ∧
        ¬ Along step RecordsFollow .init closedTwice := by
  refine ⟨by decide, fun h ↦ ?_, fun h ↦ ?_⟩
  · iterate 5 replace h := ((along_cons_of_eq rfl).1 h).2
    have hend := ((along_cons_of_eq rfl).1 h).1.1 fun tid th hth ↦ by
      obtain ((_ | n) | c | -) := tid <;> cases hth
    exact absurd (hend _ mem_cons_self rfl 9 rfl) (by decide)
  · iterate 13 replace h := ((along_cons_of_eq rfl).1 h).2
    have hkeep := ((along_cons_of_eq rfl).1 h).1.2
    revert hkeep
    decide

end WartungsRemote.RemoteSession
