import WartungsRemote.RemoteSession.Steps
import WartungsRemote.Transition.History

/-!
# Calls and the rows they have created

`OpenTerminal` and `OpenTunnel` create a row and settle its state later. Neither the row nor the
statements of a handler say **whose row it is** and whether it was ever made active, but much
depends on it: as long as a row was not active, nobody but the call that created it has read it.
`Calls` keeps the two facts beside the service, and `CallInv` says how the handlers stand to them.
What a step does to the tables and the handlers is one of the cases of `Act`.
-/

namespace WartungsRemote.RemoteSession

open Function List State
open ControlHub (ConnID)
open Transition

/-! ### What is remembered of a run -/

inductive Event
  /-- A call of `OpenTerminal` or `OpenTunnel` has created a row. -/
  | opened (n : ℕ) (id : UUID)
  /-- `SetState` has been made. -/
  | activated (id : UUID)

/-- What a statement that ends with the given outcome adds to the history. -/
def Stmt.event (out : Outcome) : Stmt → Option Event
  | .setState id _ => if out = .failed then none else some (.activated id)
  | _ => none

/-- What a step adds to the history. -/
def State.event (s : State) : Label → Option Event
  | .openTerminal n id _ _ _ _ | .openTunnel n id _ _ _ _ => some (.opened n id)
  | .exec tid out =>
    match s.threads tid with
    | some (.running (stmt :: _)) => stmt.event out
    | _ => none
  | _ => none

/-- The statement of a handler without decisions ahead that takes effect in a step. -/
def State.makes (s : State) : Label → Option Stmt
  | .exec tid out =>
    match s.threads tid with
    | some (.running (stmt :: _)) => if out = .failed then none else some stmt
    | _ => none
  | _ => none

/-- The handler whose call has created a row, and whether the row was ever made active. -/
structure Calls where
  opener : UUID → Option ThreadID
  activated : UUID → Bool

namespace Calls

def init : Calls where
  opener _ := none
  activated _ := false

def add (h : Calls) : Option Event → Calls
  | some (.opened n id) => { h with opener := update h.opener id (some (.request n)) }
  | some (.activated id) => { h with activated := update h.activated id true }
  | none => h

def record (h : Calls) (s : State) (l : Label) (_ : State) : Calls :=
  h.add (s.event l)

end Calls

/-- The service, and its calls. -/
abbrev Called : Type := State × Calls

/-- A step of the service, remembered. -/
abbrev calledStep : Called → Label → Option Called :=
  withHistory step Calls.record

variable {s t : State} {l : Label} {w w' : Called} {h h' : Calls}

/-! ### The cases of a step -/

/-- The session of which a stream handler keeps a copy. -/
def Thread.copy : Thread → Option Session
  | .attaching sess _ | .streaming sess _ | .rereading sess _ => some sess
  | .created _ _ | .preparing _ _ | .awaiting _ | .running _ => none

/-- The statements of `Service.Close` and the end of the stream, in whichever order. -/
structure Closes (sess : Session) (stmts : List Stmt) : Prop where
  mem : ∃ reason, ∀ stmt ∈ closeStmts sess reason, stmt ∈ stmts
  only : ∀ stmt ∈ stmts, (∃ reason, stmt ∈ closeStmts sess reason) ∨ stmt = .unregister sess.id

/-- The ways a step can go, with what it adds to the history. -/
inductive Act (s : State) : Label → State → Option Event → Prop
  | idle {l : Label} {t : State} (sessions : t.sessions = s.sessions)
      (maintenance : t.maintenance = s.maintenance) (threads : t.threads = s.threads) :
      Act s l t none
  | opened {l : Label} {n} (sess : Session) {th : Thread} (fresh : sess.id ∉ s.sessions.map (·.id))
      (state : sess.state = .requested) (unlinked : sess.maintenanceSessionID = none)
      (free : s.threads (.request n) = none)
      (th_eq : th = .awaiting sess ∨ ∃ customerID, th = .created sess customerID) :
      Act s l ({ s with sessions := s.sessions ++ [sess] }.setThread (.request n) (some th))
        (some (.opened n sess.id))
  | maintained {n sess customerID mid m}
      (thread : s.threads (.request n) = some (.created sess customerID)) (id : m.id = mid)
      (running : m.endedAt = none) :
      Act s (.openMaintenance n (some mid))
      ({ s with maintenance := s.maintenance ++ [m] }.setThread (.request n)
        (some (.preparing { sess with maintenanceSessionID := some mid }
          [.setMaintenanceSession sess.id mid,
            .addEvent mid "terminal_opened" "Remote terminal session opened" (some sess.id)]))) none
  | unmaintained {n sess customerID}
      (thread : s.threads (.request n) = some (.created sess customerID)) :
      Act s (.openMaintenance n none) (s.setThread (.request n) (some (.awaiting sess))) none
  | replied {n reply sess} (thread : s.threads (.request n) = some (.awaiting sess)) :
      Act s (.agentReply n reply) (s.setThread (.request n)
        (Thread.ofStmts (replyStmts sess reply))) none
  /-- A handler has found a session active and is going to close it. -/
  | closing {l : Label} {n sess stmts} (free : s.threads (.request n) = none)
      (mem : sess ∈ s.sessions) (active : sess.state = .active) (closes : Closes sess stmts) :
      Act s l (s.setThread (.request n) (some (.running stmts))) none
  /-- A stream handler is going to close the session that it was attached to. -/
  | reclosing {n sess reason}
      (thread : s.threads (.request n) = some (.rereading sess reason)) :
      Act s (.reread n) (s.setThread (.request n) (some (.running (closeStmts sess reason)))) none
  | attached {l : Label} {n sess reason} (free : s.threads (.request n) = none)
      (mem : sess ∈ s.sessions) (active : sess.state = .active) :
      Act s l (s.setThread (.request n) (some (.attaching sess reason))) none
  /-- A stream handler moves on or ends. -/
  | streamed {l : Label} {n b sess th o}
      (thread : s.threads (.request n) = some th) (copy : th.copy = some sess)
      (next : ∀ th', o = some th' → th'.copy = some sess) :
      Act s l ({ s with broker := b }.setThread (.request n) o) none
  | prepared {tid out sess stmt rest}
      (thread : s.threads tid = some (.preparing sess (stmt :: rest))) :
      Act s (.exec tid out)
        ((stmt.attempt s out).setThread tid (some (Thread.ofPreparation sess rest))) none
  | ran {tid out stmt rest o}
      (thread : s.threads tid = some (.running (stmt :: rest)))
      (next : o = Thread.ofStmts rest ∨ o = none ∧ out ≠ .ok) :
      Act s (.exec tid out) ((stmt.attempt s out).setThread tid o) (stmt.event out)
  | interrupted {c deviceID rows} (free : s.threads (.disconnect c) = none)
      (perm : rows.Perm (s.interrupted fun r ↦ r.deviceID = deviceID)) :
      Act s (.interruptDevice c deviceID .ok rows)
        ((s.interrupt (fun r ↦ r.deviceID = deviceID) "agent_disconnected").setThread
          (.disconnect c) (Thread.ofStmts (disconnectStmts rows))) none
  /-- The sessions are interrupted, and the disconnect handler returns. -/
  | interruptedLate {c deviceID rows} :
      Act s (.interruptDevice c deviceID .failedLate rows)
        (s.interrupt (fun r ↦ r.deviceID = deviceID) "agent_disconnected") none
  | restarted {rows stopped}
      (stopped_eq : stopped = { s with broker := .empty, threads := fun _ ↦ none })
      (perm : rows.Perm (s.interrupted fun _ ↦ true)) :
      Act s (.restart .ok rows)
        ((stopped.interrupt (fun _ ↦ true) "server_restart").setThread .startup
          (Thread.ofStmts (startupStmts rows))) none
  /-- The server starts, and its query reports an error. -/
  | restartedFailed {out rows} {stopped t : State} (failed : out ≠ .ok)
      (stopped_eq : stopped = { s with broker := .empty, threads := fun _ ↦ none })
      (t_eq : t = stopped ∨ t = stopped.interrupt (fun _ ↦ true) "server_restart") :
      Act s (.restart out rows) t none

theorem closes_closeStmts (sess : Session) (reason : String) :
    Closes sess (closeStmts sess reason) where
  mem := ⟨reason, fun _ hmem ↦ hmem⟩
  only _ hmem := .inl ⟨reason, hmem⟩

/-- **Every step is one of the cases.** -/
theorem act_of_step (h : step s l = some t) : Act s l t (s.event l) := by
  cases step_cases h with
  | tick | notClosed | notAgentClosed | notAttached | interruptFailed => exact .idle rfl rfl rfl
  | openTerminal hnew hfree => exact .opened _ hnew rfl rfl hfree (.inr ⟨_, rfl⟩)
  | openTunnel hnew hfree => exact .opened _ hnew rfl rfl hfree (.inl rfl)
  | openMaintenance _ hth hid hrun => exact .maintained hth hid hrun
  | unmaintained hth => exact .unmaintained hth
  | agentReply hth => exact .replied hth
  | closeSession hget hact hfree =>
    obtain rfl := get_id hget
    refine .closing hfree (mem_of_get hget) hact ⟨⟨_, fun _ hmem ↦ mem_append_left _ hmem⟩, ?_⟩
    exact fun stmt hmem ↦ (mem_snoc.1 hmem).imp_left fun hmem ↦ ⟨_, hmem⟩
  | agentClose hget hact hfree =>
    obtain rfl := get_id hget
    refine .closing hfree (mem_of_get hget) hact.2 ⟨⟨_, fun _ hmem ↦ mem_cons_of_mem _ hmem⟩, ?_⟩
    exact fun stmt hmem ↦ (mem_cons.1 hmem).symm.imp_left fun hmem ↦ ⟨_, hmem⟩
  | attach hget hact hfree => exact .attached hfree (mem_of_get hget) hact
  | getStream hth hnext =>
    refine .streamed (b := s.broker) hth rfl ?_
    obtain rfl | rfl := hnext <;> rintro _ ⟨⟩
    rfl
  | endStream hth => exact .streamed hth rfl (by rintro _ ⟨⟩; rfl)
  | ended hth => exact .streamed (b := s.broker) hth rfl nofun
  | reread hth => exact .reclosing hth
  | interruptDevice hfree hperm => exact .interrupted hfree hperm
  | interruptLate => exact .interruptedLate
  | @prepare tid out _ _ _ hth =>
    have hev : s.event (.exec tid out) = none := by simp [event, hth]
    rw [hev]
    exact .prepared hth
  | @exec tid out stmt _ _ hth hnext =>
    have hev : s.event (.exec tid out) = stmt.event out := by simp [event, hth]
    rw [hev]
    exact .ran hth (hnext.symm.imp_right fun hnext ↦ ⟨hnext.1, hnext.2.1⟩)
  | restart hstop hperm => exact .restarted hstop hperm
  | restartFailed hfail hstop hnext => exact .restartedFailed hfail hstop hnext

/-! ### How the handlers stand to the rows -/

/-- There is a row with this id. -/
def State.Has (s : State) (id : UUID) : Prop :=
  id ∈ s.sessions.map (·.id)

/-- The row is there, and it is the one that the handler's call has created. -/
def Owns (w : Called) (tid : ThreadID) (id : UUID) : Prop :=
  w.1.Has id ∧ w.2.opener id = some tid

/-- The row is there, and it has been active. -/
def WasActive (w : Called) (id : UUID) : Prop :=
  w.1.Has id ∧ w.2.activated id = true

/-- What a statement that is still to be made says of its row. -/
def Stmt.Fits (w : Called) (tid : ThreadID) : Stmt → Prop
  | .setState id state => state = .active ∧ Owns w tid id
  | .close id .failed _ => Owns w tid id
  | .close id .closed _ => WasActive w id
  | .close _ _ _ | .setMaintenanceSession _ _ => False
  | .createTunnel id => Owns w tid id
  | .addEvent _ _ _ _ | .closeMaintenance _ _ _ | .register _ _ _ | .unregister _ => True

/-- What the place of a handler says of the row it is about. -/
def Thread.Fits (w : Called) (tid : ThreadID) : Thread → Prop
  | .created sess _ => Owns w tid sess.id ∧ w.2.activated sess.id = false
  | .preparing sess stmts => (Owns w tid sess.id ∧ w.2.activated sess.id = false) ∧
      ∀ stmt ∈ stmts, (∃ mid, stmt = .setMaintenanceSession sess.id mid) ∨
        ∃ mid eventType summary referenceID, stmt = .addEvent mid eventType summary referenceID
  | .awaiting sess => Owns w tid sess.id
  | .attaching sess _ | .streaming sess _ | .rereading sess _ => WasActive w sess.id
  | .running stmts => ∀ stmt ∈ stmts, stmt.Fits w tid

/-- The session that a handler may still link to its maintenance session. -/
def Thread.links : Thread → Option UUID
  | .created sess _ | .preparing sess _ => some sess.id
  | .awaiting _ | .attaching _ _ | .streaming _ _ | .rereading _ _ | .running _ => none

/-- A session is active only after the call that opens it has made it so. -/
structure CallInv (w : Called) : Prop where
  ids : (w.1.sessions.map (·.id)).Nodup
  activated : ∀ id, w.2.activated id = true → w.1.Has id
  active : ∀ r ∈ w.1.sessions, r.state = .active → w.2.activated r.id = true
  threads : ∀ tid th, w.1.threads tid = some th → th.Fits w tid

theorem callInv_init : CallInv (.init, .init) where
  ids := nodup_nil
  activated _ h := by cases h
  active _ h := by cases h
  threads _ _ h := by cases h

section Kept

variable {tid : ThreadID} {id : UUID} {th : Thread}

/-- Nothing that a handler relies on is lost from `w` to `w'`. -/
structure Kept (w w' : Called) : Prop where
  has : ∀ id, w.1.Has id → w'.1.Has id
  opener : ∀ id, w.1.Has id → w'.2.opener id = w.2.opener id
  activated : ∀ id, w.2.activated id = true → w'.2.activated id = true

theorem Owns.kept (h : Owns w tid id) (hkept : Kept w w') : Owns w' tid id :=
  ⟨hkept.has id h.1, (hkept.opener id h.1).trans h.2⟩

theorem WasActive.kept (h : WasActive w id) (hkept : Kept w w') : WasActive w' id :=
  ⟨hkept.has id h.1, hkept.activated id h.2⟩

theorem Stmt.Fits.kept {stmt : Stmt} (h : stmt.Fits w tid) (hkept : Kept w w') :
    stmt.Fits w' tid := by
  cases stmt with
  | setState => exact ⟨h.1, h.2.kept hkept⟩
  | close _ state =>
    cases state with
    | failed => exact Owns.kept h hkept
    | closed => exact WasActive.kept h hkept
    | _ => exact h
  | createTunnel => exact Owns.kept h hkept
  | _ => exact h

theorem Thread.Fits.kept (h : th.Fits w tid) (hkept : Kept w w')
    (hlinks : ∀ id, th.links = some id → w'.2.activated id = false) : th.Fits w' tid := by
  cases th with
  | created => exact ⟨h.1.kept hkept, hlinks _ rfl⟩
  | preparing => exact ⟨⟨h.1.1.kept hkept, hlinks _ rfl⟩, h.2⟩
  | awaiting => exact Owns.kept h hkept
  | attaching | streaming | rereading => exact WasActive.kept h hkept
  | running => exact fun stmt hmem ↦ (h stmt hmem).kept hkept

theorem fresh_of_opened {n : ℕ} (h : step s l = some t) (hev : s.event l = some (.opened n id)) :
    ¬ s.Has id := by
  have hact := act_of_step h
  generalize s.event l = e at hact hev
  cases hact with
  | opened _ hnew =>
    cases hev
    exact hnew
  | @ran _ _ stmt =>
    cases stmt with
    | setState =>
      simp only [Stmt.event] at hev
      split at hev <;> cases hev
    | _ => cases hev
  | _ => cases hev

theorem kept_of_step (h : calledStep w l = some w') : Kept w w' := by
  obtain ⟨t, hstep, rfl⟩ := withHistory_eq_some_iff.1 h
  refine ⟨fun id hid ↦ ?_, fun id hid ↦ ?_, fun id hid ↦ ?_⟩
  · obtain ⟨f, hf, hrows⟩ | ⟨_, -, -, hrows⟩ := (frame_of_step hstep).rows
    · obtain ⟨r, hr, rfl⟩ := mem_map.1 hid
      exact mem_map.2 ⟨f r, hrows ▸ mem_map_of_mem hr, (hf r).id⟩
    · unfold Has
      rw [hrows, map_append]
      exact mem_append_left _ hid
  · unfold Calls.record
    rcases hev : w.1.event l with _ | ⟨n, id'⟩ | id'
    · rfl
    · have hne : id ≠ id' := by
        rintro rfl
        exact fresh_of_opened hstep hev hid
      exact update_of_ne hne _ _
    · rfl
  · unfold Calls.record
    rcases w.1.event l with _ | ⟨n, id'⟩ | id'
    · exact hid
    · exact hid
    · by_cases heq : id = id'
      · subst heq
        simp [Calls.add]
      · simpa [Calls.add, update_of_ne heq] using hid

end Kept

/-! ### What a handler goes on with -/

section Fits

variable {tid : ThreadID} {sess : Session} {stmts : List Stmt}

theorem fits_replyStmts (h : Owns w tid sess.id) (reply : OpenReply) :
    ∀ stmt ∈ replyStmts sess reply, stmt.Fits w tid := by
  cases reply with
  | unreachable | rejected => simpa [replyStmts, Stmt.Fits] using h
  | success => by_cases hkind : sess.kind = .terminal <;> simp [replyStmts, hkind, Stmt.Fits, h]

theorem fits_closeStmts (h : WasActive w sess.id) (reason : String) :
    ∀ stmt ∈ closeStmts sess reason, stmt.Fits w tid := by
  unfold closeStmts
  split <;> simp [Stmt.Fits, h]

theorem Closes.fits (hcls : Closes sess stmts) (h : WasActive w sess.id) :
    ∀ stmt ∈ stmts, stmt.Fits w tid := by
  intro stmt hmem
  obtain ⟨reason, hmem⟩ | rfl := hcls.only stmt hmem
  · exact fits_closeStmts h reason stmt hmem
  · trivial

variable {rows : List InterruptedSession} {stmt : Stmt} {th : Thread} {reason : String}
  {r : Session}

theorem mem_disconnectStmts (h : stmt ∈ disconnectStmts rows) :
    (∃ id, stmt = .unregister id) ∨ ∃ i ∈ rows, ∃ mid ∈ i.maintenanceSessionID, ∃ result summary,
      stmt = .closeMaintenance mid result summary := by
  obtain ⟨i, hi, hmem⟩ := mem_flatMap.1 h
  cases hlink : i.maintenanceSessionID with
  | none => simp_all
  | some mid =>
    simp only [hlink, mem_cons, not_mem_nil, or_false] at hmem
    obtain rfl | rfl := hmem
    · exact .inl ⟨_, rfl⟩
    · exact .inr ⟨i, hi, mid, hlink, _, _, rfl⟩

theorem mem_startupStmts (h : stmt ∈ startupStmts rows) :
    ∃ i ∈ rows, ∃ mid ∈ i.maintenanceSessionID, ∃ result summary,
      stmt = .closeMaintenance mid result summary := by
  obtain ⟨i, hi, hmem⟩ := mem_flatMap.1 h
  cases hlink : i.maintenanceSessionID with
  | none => simp_all
  | some mid =>
    simp only [hlink, mem_singleton] at hmem
    exact ⟨i, hi, mid, hlink, _, _, hmem⟩

theorem fits_disconnectStmts (rows : List InterruptedSession) : ∀ stmt ∈ disconnectStmts rows,
    stmt.Fits w tid := by
  intro stmt hmem
  obtain ⟨_, rfl⟩ | ⟨i, -, _, -, _, _, rfl⟩ := mem_disconnectStmts hmem <;> trivial

theorem fits_startupStmts (rows : List InterruptedSession) :
    ∀ stmt ∈ startupStmts rows, stmt.Fits w tid := by
  intro stmt hmem
  obtain ⟨i, -, _, -, _, _, rfl⟩ := mem_startupStmts hmem
  trivial

theorem fits_of_copy (hcopy : th.copy = some sess) : th.Fits w tid ↔ WasActive w sess.id := by
  cases th with
  | attaching | streaming | rereading =>
    cases hcopy
    rfl
  | _ => cases hcopy

theorem Stmt.Fits.ne_active {id : UUID} {state : SessionState}
    (h : (Stmt.close id state reason).Fits w tid) : state ≠ .active := by
  rintro rfl
  exact h

theorem active_of_attempt {out : Outcome}
    (hcl : ∀ id state reason, stmt = .close id state reason → state ≠ .active)
    (hr : r ∈ (stmt.attempt s out).sessions) (hact : r.state = .active) :
    (∃ r₀ ∈ s.sessions, r₀.id = r.id ∧ r₀.state = .active) ∨
    stmt.event out = some (.activated r.id) := by
  obtain ⟨hr, -⟩ | ⟨hok, r₀, hr₀, hid, ⟨_, -, -, hst⟩ | ⟨rfl | ⟨_, rfl⟩, -⟩⟩ := row_attempt hr
  · exact .inl ⟨r, hr, rfl, hact⟩
  · exact .inl ⟨r₀, hr₀, hid, hst.symm.trans hact⟩
  · exact .inr (if_neg hok)
  · exact absurd hact (hcl _ _ _ rfl)

theorem active_of_interrupt {p : Session → Bool} (hr : r ∈ (s.interrupt p reason).sessions)
    (hact : r.state = .active) : r ∈ s.sessions := by
  obtain ⟨r₀, hr₀, rfl⟩ := mem_map.1 hr
  split_ifs at hact
  next hp => rwa [if_neg hp]

end Fits

theorem activated_of_event {id : UUID} (hev : s.event l = some (.activated id)) :
    ∃ tid out state rest, l = .exec tid out ∧ out ≠ .failed ∧
      s.threads tid = some (.running (.setState id state :: rest)) := by
  cases l with
  | exec tid out =>
    simp only [event] at hev
    split at hev
    next stmt rest hth =>
      cases stmt with
      | setState _ state =>
        simp only [Stmt.event] at hev
        split_ifs at hev
        next hout =>
          cases hev
          exact ⟨tid, out, state, rest, rfl, hout, hth⟩
      | _ => cases hev
    · cases hev
  | _ => cases hev

namespace CallInv

/-- A handler that may still link its session is the only one that can make it active. -/
theorem activated_of_links (hw : CallInv w) (h : calledStep w l = some w') {tid : ThreadID}
    {th : Thread} {id : UUID} (hth : w.1.threads tid = some th) (hlinks : th.links = some id) :
    w'.2.activated id = false := by
  obtain ⟨t, -, rfl⟩ := withHistory_eq_some_iff.1 h
  have hfits := hw.threads tid th hth
  have hown : Owns w tid id ∧ w.2.activated id = false := by
    cases th with
    | created =>
      cases hlinks
      exact hfits
    | preparing =>
      cases hlinks
      exact hfits.1
    | _ => cases hlinks
  show (w.2.add (w.1.event l)).activated id = false
  rcases hev : w.1.event l with _ | ⟨n, id'⟩ | id'
  · exact hown.2
  · exact hown.2
  · by_cases heq : id = id'
    · subst heq
      obtain ⟨tid', _, _, _, -, -, hth'⟩ := activated_of_event hev
      have hown' := (hw.threads tid' _ hth' _ mem_cons_self).2
      cases hown.1.2.symm.trans hown'.2
      rw [hth] at hth'
      cases hth'
      cases hlinks
    · exact (update_of_ne heq _ _).trans hown.2

/-- A session becomes active only by the call that opens it. -/
theorem active_of_step (hw : CallInv w) (h : step w.1 l = some t) {r : Session}
    (hr : r ∈ t.sessions) (hactive : r.state = .active) :
    (∃ r₀ ∈ w.1.sessions, r₀.id = r.id ∧ r₀.state = .active) ∨
    w.1.event l = some (.activated r.id) := by
  have hsame : r ∈ w.1.sessions → ∃ r₀ ∈ w.1.sessions, r₀.id = r.id ∧ r₀.state = .active :=
    fun hr ↦ ⟨r, hr, rfl, hactive⟩
  have hact := act_of_step h
  generalize w.1.event l = e at hact
  cases hact with
  | idle hsess => exact .inl (hsame (hsess ▸ hr))
  | opened _ _ hst =>
    obtain hr | rfl := mem_snoc.1 hr
    · exact .inl (hsame hr)
    · cases hst.symm.trans hactive
  | prepared hth =>
    obtain ⟨mid, rfl⟩ | ⟨mid, _, _, _, rfl⟩ := (hw.threads _ _ hth).2 _ mem_cons_self
    · exact .inl ((active_of_attempt (by rintro _ _ _ ⟨⟩) hr hactive).resolve_right (by rintro ⟨⟩))
    · exact .inl ((active_of_attempt (by rintro _ _ _ ⟨⟩) hr hactive).resolve_right (by rintro ⟨⟩))
  | ran hth =>
    refine active_of_attempt (fun id state reason heq ↦ ?_) hr hactive
    have hfits := hw.threads _ _ hth _ mem_cons_self
    rw [heq] at hfits
    exact hfits.ne_active
  | interrupted | interruptedLate => exact .inl (hsame (active_of_interrupt hr hactive))
  | restarted hstop =>
    subst hstop
    exact .inl (hsame (active_of_interrupt hr hactive))
  | restartedFailed _ hstop ht =>
    subst hstop
    obtain rfl | rfl := ht
    · exact .inl (hsame hr)
    · exact .inl (hsame (active_of_interrupt hr hactive))
  | _ => exact .inl (hsame hr)

theorem threads_of_step (hw : CallInv w) (h : calledStep w l = some w') :
    ∀ tid th, w'.1.threads tid = some th → th.Fits w' tid := by
  have hkept := kept_of_step h
  have hoth : ∀ tid th, w.1.threads tid = some th → th.Fits w' tid := fun tid th hth ↦
    (hw.threads tid th hth).kept hkept fun _ hlinks ↦ hw.activated_of_links h hth hlinks
  have hwas : ∀ sess ∈ w.1.sessions, sess.state = .active → WasActive w' sess.id :=
    fun sess hmem hactive ↦ WasActive.kept ⟨mem_map_of_mem hmem, hw.active sess hmem hactive⟩ hkept
  obtain ⟨t, hstep, rfl⟩ := withHistory_eq_some_iff.1 h
  have hact := act_of_step hstep
  generalize hev : w.1.event l = e at hact
  cases hact with
  | idle _ _ hths =>
    intro tid th hth
    exact hoth tid th (hths ▸ hth)
  | @opened _ n sess _ hnew _ _ _ hth =>
    have hopener : (w.2.add (w.1.event l)).opener sess.id = some (.request n) := by simp [hev,
      Calls.add]
    have hactd : (w.2.add (w.1.event l)).activated sess.id = false := by
      rw [hev, ← Bool.not_eq_true]
      exact fun hactd ↦ hnew (hw.activated _ hactd)
    refine forall_setThread_some hoth rfl ?_
    obtain rfl | ⟨_, rfl⟩ := hth
    · exact ⟨by simp [Has], hopener⟩
    · exact ⟨⟨by simp [Has], hopener⟩, hactd⟩
  | maintained hth => exact forall_setThread_some hoth rfl ⟨hoth _ _ hth, by simp⟩
  | unmaintained hth => exact forall_setThread_some hoth rfl (hoth _ _ hth).1
  | replied hth => exact forall_setThread_ofStmts hoth rfl (fits_replyStmts (hoth _ _ hth) _)
  | closing _ hmem hactive hcls =>
    exact forall_setThread_some hoth rfl (hcls.fits (hwas _ hmem hactive))
  | reclosing hth => exact forall_setThread_some hoth rfl (fits_closeStmts (hoth _ _ hth) _)
  | attached _ hmem hactive => exact forall_setThread_some hoth rfl (hwas _ hmem hactive)
  | streamed hth hcopy hnext =>
    exact forall_setThread hoth rfl fun th' heq ↦
      (fits_of_copy (hnext th' heq)).2 ((fits_of_copy hcopy).1 (hoth _ _ hth))
  | @prepared _ out _ stmt rest hth =>
    refine forall_setThread_some hoth (stmt.attempt_threads w.1 out) ?_
    obtain ⟨hown, hsts⟩ := hoth _ _ hth
    cases rest with
    | nil => exact hown.1
    | cons => exact ⟨hown, fun stmt hmem ↦ hsts stmt (mem_cons_of_mem _ hmem)⟩
  | @ran _ out stmt _ _ hth hnext =>
    exact forall_setThread_rest hoth (stmt.attempt_threads w.1 out) hnext
      fun stmt' hmem ↦ hoth _ _ hth stmt' (mem_cons_of_mem _ hmem)
  | interrupted => exact forall_setThread_ofStmts hoth rfl (fits_disconnectStmts _)
  | interruptedLate => exact hoth
  | restarted hstop =>
    subst hstop
    refine forall_setThread_ofStmts (s := { w.1 with threads := fun _ ↦ none }) ?_ rfl
      (fits_startupStmts _)
    rintro _ _ ⟨⟩
  | restartedFailed _ hstop ht =>
    subst hstop
    obtain rfl | rfl := ht <;> rintro _ _ ⟨⟩

theorem step (hw : CallInv w) (h : calledStep w l = some w') : CallInv w' := by
  have hths := hw.threads_of_step h
  have hkept := kept_of_step h
  obtain ⟨t, hstep, rfl⟩ := withHistory_eq_some_iff.1 h
  refine ⟨ids_nodup_of_step hstep hw.ids, fun id hid ↦ ?_, fun r hr hact ↦ ?_, hths⟩
  · by_cases hbef : w.2.activated id = true
    · exact hkept.has id (hw.activated id hbef)
    · rcases hev : w.1.event l with _ | ⟨n, id'⟩ | id'
      · exact absurd (by simpa [Calls.record, hev, Calls.add] using hid) hbef
      · exact absurd (by simpa [Calls.record, hev, Calls.add] using hid) hbef
      · have heq : id = id' := by
          by_contra hne
          exact hbef (by simpa [Calls.record, hev, Calls.add, update_of_ne hne] using hid)
        subst heq
        obtain ⟨tid, _, _, _, -, -, hth⟩ := activated_of_event hev
        exact hkept.has id (hw.threads tid _ hth _ mem_cons_self).2.1
  · obtain ⟨r₀, hr₀, hid, hactive₀⟩ | hev := hw.active_of_step hstep hr hact
    · exact hkept.activated r.id (hid ▸ hw.active r₀ hr₀ hactive₀)
    · simp [Calls.record, hev, Calls.add]

end CallInv

end WartungsRemote.RemoteSession
