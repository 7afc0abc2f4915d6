import WartungsRemote.RemoteSession.Steps

/-!
# Final session states

A session that is closed, failed, interrupted or expired should stay what it is; in particular no
interrupted session becomes active again. `SetState` and `Close` write without looking at the row,
so the state machine is kept only by the **windows** between a handler's last read and its write:
what is final when such a write is still outstanding does not stay final.

`State.pending` is the list of sessions a handler has still to write. A step is `Exclusive` when it
does not open a second window on a session: a handler that finds a session active begins to close it
only if nobody else has still to write it, and a disconnect interrupts only such sessions. Every
effect of a step on the rows and on the windows is one of the cases of `Effect`; windows do not
overlap and no final session has one (`AbsorbInv`).
-/

namespace WartungsRemote.RemoteSession

open Transition Function List State

variable {s t : State} {l : Label}

/-! ### Windows -/

/-- The session whose state a statement writes. -/
def Stmt.writes : Stmt → Option UUID
  | .setState id _ | .close id _ _ => some id
  | _ => none

/-- The sessions whose state a handler has still to write. -/
def Thread.writes : Thread → List UUID
  | .created sess _ | .awaiting sess => [sess.id]
  | .preparing sess stmts => stmts.filterMap Stmt.writes ++ [sess.id]
  | .attaching _ _ | .streaming _ _ | .rereading _ _ => []
  | .running stmts => stmts.filterMap Stmt.writes

/-- The sessions whose state the handler running as `tid` has still to write. -/
def State.pending (s : State) (tid : ThreadID) : List UUID :=
  match s.threads tid with
  | some th => th.writes
  | none => []

/-- Some handler has still to write the session. -/
def Contended (s : State) (id : UUID) : Prop :=
  ∃ tid, id ∈ s.pending tid

/-- A read of the session would find it active. -/
def Active (s : State) (id : UUID) : Prop :=
  ∃ sess, s.get id = some sess ∧ sess.state = .active

/-- The condition on a step: no second window is opened on a session. -/
def Exclusive (s : State) : Label → Prop
  | .closeSession _ id | .agentClose _ _ id _ => Active s id → ¬ Contended s id
  | .reread n => ∀ sess reason, s.threads (.request n) = some (.rereading sess reason) →
      Active s sess.id → ¬ Contended s sess.id
  | .interruptDevice _ deviceID _ _ => ∀ r ∈ s.sessions, r.deviceID = deviceID →
      r.state.interruptible → ¬ Contended s r.id
  | _ => True

/-- The two rows agree in what finality is about. -/
def Session.Same (r r' : Session) : Prop :=
  r'.id = r.id ∧ r'.state = r.state ∧ r'.closedAt = r.closedAt ∧ r'.closeReason = r.closeReason

/-- **Final states absorb** from `s` to `t`. -/
def KeepsFinal (s t : State) : Prop :=
  ∀ id r, s.get id = some r → r.state.final → ∃ r', t.get id = some r' ∧ r.Same r'

theorem pending_setThread (s : State) (tid : ThreadID) (th : Option Thread) :
    (s.setThread tid th).pending = update s.pending tid (th.elim [] Thread.writes) := by
  funext tid'
  unfold pending setThread
  by_cases h : tid' = tid
  · subst h
    cases th <;> simp
  · simp [h]

theorem writes_ofStmts (stmts : List Stmt) :
    (Thread.ofStmts stmts).elim [] Thread.writes = stmts.filterMap Stmt.writes := by
  cases stmts <;> rfl

theorem writes_ofPreparation (sess : Session) (stmts : List Stmt) :
    (Thread.ofPreparation sess stmts).writes = stmts.filterMap Stmt.writes ++ [sess.id] := by
  cases stmts <;> rfl

theorem writes_cons (stmt : Stmt) (stmts : List Stmt) : (stmt :: stmts).filterMap Stmt.writes =
      stmt.writes.toList ++ stmts.filterMap Stmt.writes := by
  cases h : stmt.writes <;> simp [h]

theorem writes_closeStmts (sess : Session) (reason : String) :
    (closeStmts sess reason).filterMap Stmt.writes = [sess.id] := by
  unfold closeStmts
  split <;> rfl

theorem writes_replyStmts (sess : Session) (reply : OpenReply) :
    (replyStmts sess reply).filterMap Stmt.writes = [sess.id] := by
  cases reply with
  | unreachable | rejected => rfl
  | success => by_cases h : sess.kind = .terminal <;> simp [replyStmts, h, Stmt.writes]

theorem writes_flatMap_nil {f : InterruptedSession → List Stmt}
    (hf : ∀ i, (f i).filterMap Stmt.writes = []) (rows : List InterruptedSession) :
    (rows.flatMap f).filterMap Stmt.writes = [] := by
  simp [filterMap_flatMap, hf]

theorem writes_disconnectStmts (rows : List InterruptedSession) :
    (disconnectStmts rows).filterMap Stmt.writes = [] :=
  writes_flatMap_nil (fun i ↦ by cases i.maintenanceSessionID <;> rfl) rows

theorem writes_startupStmts (rows : List InterruptedSession) :
    (startupStmts rows).filterMap Stmt.writes = [] :=
  writes_flatMap_nil (fun i ↦ by cases i.maintenanceSessionID <;> rfl) rows

/-! ### What a step does to rows and windows -/

/-- The cases of a step. Rows are only added or changed in place, so a change of the table is a
function on its rows that keeps the ids. -/
inductive Effect (s : State) (l : Label) (t : State) : Prop
  /-- No state is written and no window opened. -/
  | quiet {f : Session → Session} (sessions : t.sessions = s.sessions.map f)
      (same : ∀ r : Session, r.Same (f r))
      (pending : ∀ tid, (t.pending tid).Sublist (s.pending tid))
  /-- A session is created; its handler has still to settle its state. -/
  | opened {tid sess} (sessions : t.sessions = s.sessions ++ [sess])
      (fresh : sess.id ∉ s.sessions.map (·.id)) (state : sess.state = .requested)
      (pending : t.pending = update s.pending tid [sess.id])
  /-- A handler has found a session active and is going to close it. -/
  | closing (tid : ThreadID) {id} (sessions : t.sessions = s.sessions) (active : Active s id)
      (alone : Exclusive s l → ¬ Contended s id) (pending : t.pending = update s.pending tid [id])
  /-- A handler writes the state of a session and closes its window. -/
  | wrote {tid id before after} {f : Session → Session} (sessions : t.sessions = s.sessions.map f)
      (ids : ∀ r : Session, (f r).id = r.id) (same : ∀ r : Session, r.id ≠ id → r.Same (f r))
      (window : s.pending tid = id :: before) (rest : after.Sublist before)
      (pending : t.pending = update s.pending tid after)
  /-- Interruptible sessions are interrupted. -/
  | interrupted {p : Session → Bool} {f : Session → Session}
      (sessions : t.sessions = s.sessions.map f) (ids : ∀ r : Session, (f r).id = r.id)
      (same : ∀ r : Session, ¬ (p r ∧ r.state.interruptible) → r.Same (f r))
      (alone : Exclusive s l → ∀ r ∈ s.sessions, p r → r.state.interruptible →
        ∀ tid, r.id ∉ t.pending tid)
      (pending : ∀ tid, (t.pending tid).Sublist (s.pending tid))

theorem Session.Same.refl (r : Session) : r.Same r := ⟨rfl, rfl, rfl, rfl⟩

variable {tid : ThreadID} {th : Option Thread} {u : State} {out : Outcome} {reason : String}
  {rows : List InterruptedSession}

theorem sublist_update {f : ThreadID → List UUID} {xs : List UUID} (h : xs.Sublist (f tid)) :
    ∀ tid', (update f tid xs tid').Sublist (f tid') :=
  (forall_update_iff f fun tid' xs ↦ xs.Sublist (f tid')).2 ⟨h, fun _ _ ↦ Sublist.refl _⟩

theorem Effect.of_setThread
    (hsess : u.sessions = s.sessions) (hths : u.threads = s.threads)
    (hth : (th.elim [] Thread.writes).Sublist (s.pending tid)) :
    Effect s l (u.setThread tid th) := by
  refine .quiet (f := id) (by simp [hsess]) Session.Same.refl fun tid' ↦ ?_
  have hpend : u.pending = s.pending := by
    funext tid
    simp [pending, hths]
  rw [pending_setThread, hpend]
  exact sublist_update hth tid'

theorem Stmt.run_sessions (s : State) (stmt : Stmt) :
    ∃ f : Session → Session, (stmt.run s).sessions = s.sessions.map f ∧
      (∀ r : Session, (f r).id = r.id) ∧
      ∀ r : Session, stmt.writes ≠ some r.id → r.Same (f r) := by
  cases stmt with
  | addEvent | closeMaintenance | createTunnel | register | unregister =>
    exact ⟨id, by simp [Stmt.run, updateMaintenance], fun _ ↦ rfl, fun r _ ↦ Session.Same.refl r⟩
  | setMaintenanceSession =>
    refine ⟨_, rfl, fun r ↦ ?_, fun r _ ↦ ?_⟩
    · split <;> rfl
    · split <;> exact ⟨rfl, rfl, rfl, rfl⟩
  | setState | close =>
    refine ⟨_, rfl, fun r ↦ ?_, fun r hne ↦ ?_⟩
    · split <;> rfl
    · rw [if_neg fun h ↦ hne (by rw [Stmt.writes, h])]
      exact Session.Same.refl r

/-- A handler executes a statement and still writes what the rest of its list says. -/
theorem Effect.of_run {stmt : Stmt} {before : List UUID}
    (hwin : s.pending tid = (stmt.writes.toList ++ before))
    (hrest : (th.elim [] Thread.writes).Sublist before) :
    Effect s l ((stmt.attempt s out).setThread tid th) := by
  have hsub : (th.elim [] Thread.writes).Sublist (s.pending tid) := by
    rw [hwin]
    exact hrest.trans (sublist_append_right _ _)
  unfold Stmt.attempt
  split
  · exact .of_setThread rfl rfl hsub
  · obtain ⟨f, hf, hids, hsame⟩ := stmt.run_sessions s
    have hpend : (stmt.run s).pending = s.pending := by
      funext tid
      simp [pending]
    cases hw : stmt.writes with
    | none =>
      refine .quiet hf (fun r ↦ hsame r (by simp [hw])) fun tid' ↦ ?_
      rw [pending_setThread, hpend]
      exact sublist_update hsub tid'
    | some id =>
      rw [hw] at hwin
      refine .wrote hf hids (fun r hne ↦ hsame r ?_) hwin hrest ?_
      · rw [hw]
        exact fun heq ↦ hne (Option.some.inj heq).symm
      · rw [pending_setThread, hpend]

theorem interrupt_sessions (s : State) (p : Session → Bool) (reason : String) :
    ∃ f : Session → Session, (s.interrupt p reason).sessions = s.sessions.map f ∧
      (∀ r : Session, (f r).id = r.id) ∧
      ∀ r : Session, ¬ (p r ∧ r.state.interruptible) → r.Same (f r) := by
  refine ⟨_, rfl, fun r ↦ ?_, fun r hnot ↦ ?_⟩
  · split <;> rfl
  · rw [if_neg (by simpa using hnot)]
    exact Session.Same.refl r

/-- An interrupt by the disconnect handler, which writes no state afterwards. -/
theorem Effect.of_interruptDevice {c : ControlHub.ConnID} {deviceID : UUID}
    (hsub : ∀ tid, (t.pending tid).Sublist (s.pending tid))
    (ht : t.sessions = (s.interrupt (fun r ↦ r.deviceID = deviceID) reason).sessions) :
    Effect s (.interruptDevice c deviceID out rows) t := by
  obtain ⟨f, hf, hids, hsame⟩ := interrupt_sessions s (fun r ↦ r.deviceID = deviceID) reason
  refine .interrupted (ht.trans hf) hids hsame (fun hex r hr hp hint tid hmem ↦ ?_) hsub
  exact hex r hr (by simpa using hp) hint ⟨tid, (hsub tid).subset hmem⟩

theorem Effect.of_restart
    (hnone : ∀ tid, t.pending tid = [])
    (ht : t.sessions = (s.interrupt (fun _ ↦ true) reason).sessions) :
    Effect s (.restart out rows) t := by
  obtain ⟨f, hf, hids, hsame⟩ := interrupt_sessions s (fun _ ↦ true) reason
  refine .interrupted (ht.trans hf) hids hsame (fun _ r _ _ _ tid ↦ ?_) fun tid ↦ ?_
  · rw [hnone]
    exact not_mem_nil
  · rw [hnone]
    exact nil_sublist _

theorem Effect.of_closing {n : ℕ} {id : UUID} {sess : Session} {stmts : List Stmt}
    (hget : s.get id = some sess) (hact : sess.state = .active)
    (hwr : stmts.filterMap Stmt.writes = [id]) (halone : Exclusive s l → ¬ Contended s id) :
    Effect s l (s.setThread (.request n) (some (.running stmts))) := by
  refine .closing (.request n) rfl ⟨sess, hget, hact⟩ halone ?_
  rw [pending_setThread]
  exact congrArg _ hwr

/-- **What a step can do.** -/
theorem effect_of_step (h : step s l = some t) : Effect s l t := by
  cases step_cases h with
  | tick | notClosed | notAgentClosed | notAttached | interruptFailed =>
    exact .quiet (f := id) (by simp) Session.Same.refl fun _ ↦ Sublist.refl _
  | @openTerminal n _ _ _ _ _ hnew | @openTunnel n _ _ _ _ _ hnew =>
    exact .opened rfl hnew rfl (pending_setThread _ _ _)
  | openMaintenance _ hth | unmaintained hth =>
    -- with a maintenance session or without: the handler has still to settle the same row
    refine .of_setThread rfl rfl ?_
    rw [pending, hth]
    exact Sublist.refl _
  | agentReply hth =>
    refine .of_setThread rfl rfl ?_
    rw [writes_ofStmts, writes_replyStmts, pending, hth]
    exact Sublist.refl _
  | closeSession hget hact =>
    refine .of_closing hget hact ?_ fun hex ↦ hex ⟨_, hget, hact⟩
    rw [filterMap_append, writes_closeStmts, get_id hget]
    rfl
  | agentClose hget hact =>
    refine .of_closing hget hact.2 ?_ fun hex ↦ hex ⟨_, hget, hact.2⟩
    rw [filterMap_cons_none rfl, writes_closeStmts, get_id hget]
  | attach | endStream | ended => exact .of_setThread rfl rfl (nil_sublist _)
  | getStream _ hnext => obtain rfl | rfl := hnext <;> exact .of_setThread rfl rfl (nil_sublist _)
  | reread hth hget hact =>
    exact .of_closing hget hact (writes_closeStmts _ _) fun hex ↦ hex _ _ hth ⟨_, hget, hact⟩
  | interruptDevice =>
    refine .of_interruptDevice (fun tid ↦ ?_) rfl
    rw [pending_setThread, writes_ofStmts, writes_disconnectStmts]
    exact sublist_update (nil_sublist _) tid
  | interruptLate => exact .of_interruptDevice (fun _ ↦ Sublist.refl _) rfl
  | @prepare tid _ sess stmt rest hth =>
    have hwin : s.pending tid = stmt.writes.toList ++ (rest.filterMap Stmt.writes ++
        [sess.id]) := by
      rw [pending, hth, ← append_assoc, ← writes_cons]
      rfl
    exact .of_run hwin ((writes_ofPreparation sess rest).symm ▸ Sublist.refl _)
  | @exec tid _ stmt rest _ hth hnext =>
    have hwin : s.pending tid = stmt.writes.toList ++ rest.filterMap Stmt.writes := by
      rw [pending, hth, ← writes_cons]
      rfl
    refine .of_run hwin ?_
    obtain ⟨rfl, -⟩ | rfl := hnext
    · exact nil_sublist _
    · rw [writes_ofStmts]
  | restart hstop =>
    subst hstop
    refine .of_restart (fun tid ↦ ?_) rfl
    rw [pending_setThread, writes_ofStmts, writes_startupStmts]
    exact sublist_nil.1 (sublist_update (nil_sublist _) tid)
  | restartFailed _ hstop hnext =>
    subst hstop
    obtain rfl | rfl := hnext
    · exact .quiet (f := id) (by simp) Session.Same.refl fun _ ↦ nil_sublist _
    · exact .of_restart (fun _ ↦ rfl) rfl

/-! ### Windows do not overlap -/

/-- **The invariant of exclusive runs.** -/
structure AbsorbInv (s : State) : Prop where
  /-- Sessions have different ids. -/
  ids_nodup : (s.sessions.map (·.id)).Nodup
  /-- Windows are windows on stored sessions. -/
  known : ∀ tid, ∀ id ∈ s.pending tid, id ∈ s.sessions.map (·.id)
  /-- A handler writes a session at most once more. -/
  once : ∀ tid, (s.pending tid).Nodup
  /-- No two handlers have a window on one session. -/
  apart : ∀ tid tid' id, id ∈ s.pending tid → id ∈ s.pending tid' → tid = tid'
  /-- There is no window on a final session. -/
  final : ∀ r ∈ s.sessions, r.state.final → ¬ Contended s r.id

theorem absorbInv_init : AbsorbInv init where
  ids_nodup := nodup_nil
  known := by simp [init, pending]
  once := by simp [init, pending]
  apart := by simp [init, pending]
  final := by simp [init]

theorem ids_map {f : Session → Session} (hids : ∀ r, (f r).id = r.id) (rows : List Session) :
    (rows.map f).map (·.id) = rows.map (·.id) := by
  rw [map_map]
  exact map_congr_left fun r _ ↦ hids r

theorem not_interruptible_of_final {state : SessionState} (h : state.final) :
    ¬ state.interruptible := by
  cases state <;> simp_all [SessionState.final, SessionState.interruptible]

theorem get_eq_some_iff (hnd : (s.sessions.map (·.id)).Nodup) {id : UUID} {r : Session} :
    s.get id = some r ↔ r ∈ s.sessions ∧ r.id = id := by
  constructor
  · intro h
    exact ⟨mem_of_find?_eq_some h, get_id h⟩
  · rintro ⟨hr, rfl⟩
    have hsome : (s.get r.id).isSome := by
      rw [State.get, find?_isSome]
      exact ⟨r, hr, by simp⟩
    obtain ⟨r', hr'⟩ := Option.isSome_iff_exists.1 hsome
    have heq : r' = r := inj_on_of_nodup_map hnd (mem_of_find?_eq_some hr') hr (get_id hr')
    rw [hr', heq]

section Preservation

variable {f : Session → Session}

/-- Rows change in place and no window is added: only finality has to be looked at. -/
theorem AbsorbInv.of_map (hinv : AbsorbInv s) (hsess : t.sessions = s.sessions.map f)
    (hids : ∀ r, (f r).id = r.id) (hpend : ∀ tid, (t.pending tid).Sublist (s.pending tid))
    (hfin : ∀ r ∈ s.sessions, (f r).state.final → ¬ Contended t r.id) : AbsorbInv t := by
  have hids' : t.sessions.map (·.id) = s.sessions.map (·.id) := by rw [hsess, ids_map hids]
  refine ⟨?_, ?_, ?_, ?_, ?_⟩
  · rw [hids']
    exact hinv.ids_nodup
  · intro tid id hid
    rw [hids']
    exact hinv.known tid id ((hpend tid).subset hid)
  · exact fun tid ↦ (hinv.once tid).sublist (hpend tid)
  · intro tid tid' id h h'
    exact hinv.apart tid tid' id ((hpend tid).subset h) ((hpend tid').subset h')
  · intro r' hr'
    rw [hsess] at hr'
    obtain ⟨r, hr, rfl⟩ := mem_map.1 hr'
    rw [hids]
    exact hfin r hr

theorem AbsorbInv.not_contended_of_same (hinv : AbsorbInv s)
    (hpend : ∀ tid, (t.pending tid).Sublist (s.pending tid)) {r r' : Session} (hr : r ∈ s.sessions)
    (hsame : r.Same r') (hfin : r'.state.final) : ¬ Contended t r.id := by
  rintro ⟨tid, hmem⟩
  rw [hsame.2.1] at hfin
  exact hinv.final r hr hfin ⟨tid, (hpend tid).subset hmem⟩

theorem mem_pending_of_update {tid tid' : ThreadID} {id id' : UUID}
    (hpend : t.pending = update s.pending tid [id]) (h : id' ∈ t.pending tid') :
    (tid' = tid ∧ id' = id) ∨ id' ∈ s.pending tid' := by
  rw [hpend] at h
  by_cases htid : tid' = tid
  · subst htid
    rw [update_self] at h
    exact .inl ⟨rfl, mem_singleton.1 h⟩
  · rw [update_of_ne htid] at h
    exact .inr h

/-- A window is opened on a stored session that has none and is not final. -/
theorem AbsorbInv.of_window (hinv : AbsorbInv s) {tid : ThreadID} {id : UUID}
    (hpend : t.pending = update s.pending tid [id]) (halone : ¬ Contended s id)
    (hnd : (t.sessions.map (·.id)).Nodup)
    (hkeep : ∀ id' ∈ s.sessions.map (·.id), id' ∈ t.sessions.map (·.id))
    (hin : id ∈ t.sessions.map (·.id)) (hfin : ∀ r ∈ t.sessions, r.state.final → r.id ≠ id ∧
      ¬ Contended s r.id) : AbsorbInv t := by
  refine ⟨hnd, fun tid' id' hmem ↦ ?_, fun tid' ↦ ?_, fun tid₁ tid₂ id' h₁ h₂ ↦ ?_, ?_⟩
  · obtain ⟨-, rfl⟩ | hmem := mem_pending_of_update hpend hmem
    · exact hin
    · exact hkeep id' (hinv.known tid' id' hmem)
  · rw [hpend]
    exact (forall_update_iff s.pending fun _ ids ↦ ids.Nodup).2 ⟨nodup_singleton _, fun tid _ ↦
      hinv.once tid⟩ tid'
  · obtain ⟨rfl, rfl⟩ | h₁ := mem_pending_of_update hpend h₁
    · obtain ⟨rfl, -⟩ | h₂ := mem_pending_of_update hpend h₂
      · rfl
      · exact absurd ⟨tid₂, h₂⟩ halone
    · obtain ⟨rfl, rfl⟩ | h₂ := mem_pending_of_update hpend h₂
      · exact absurd ⟨tid₁, h₁⟩ halone
      · exact hinv.apart tid₁ tid₂ id' h₁ h₂
  · rintro r hr hf ⟨tid', hmem⟩
    obtain ⟨hne, hqui⟩ := hfin r hr hf
    obtain ⟨-, heq⟩ | hmem := mem_pending_of_update hpend hmem
    · exact hne heq
    · exact hqui ⟨tid', hmem⟩

theorem AbsorbInv.not_contended_of_wrote (hinv : AbsorbInv s) {tid : ThreadID} {id : UUID}
    {before after : List UUID} (hwin : s.pending tid = id :: before) (hrest : after.Sublist before)
    (hpend : t.pending = update s.pending tid after) : ¬ Contended t id := by
  rintro ⟨tid', hmem⟩
  rw [hpend] at hmem
  by_cases htid : tid' = tid
  · subst htid
    rw [update_self] at hmem
    have honce : (id :: before).Nodup := hwin ▸ hinv.once tid'
    exact (nodup_cons.1 honce).1 (hrest.subset hmem)
  · rw [update_of_ne htid] at hmem
    have hin : id ∈ s.pending tid := hwin ▸ mem_cons_self
    exact htid (hinv.apart tid' tid id hmem hin)

/-- **Every exclusive step preserves the invariant.** -/
theorem AbsorbInv.step (hinv : AbsorbInv s) (h : step s l = some t) (hex : Exclusive s l) :
    AbsorbInv t := by
  cases effect_of_step h with
  | quiet hsess hsame hpend =>
    exact hinv.of_map hsess (fun r ↦ (hsame r).1) hpend fun r hr hfin ↦
      hinv.not_contended_of_same hpend hr (hsame r) hfin
  | @interrupted p _ hsess hids hsame halone hpend =>
    refine hinv.of_map hsess hids hpend fun r hr hfin ↦ ?_
    by_cases hp : p r ∧ r.state.interruptible
    · rintro ⟨tid, hmem⟩
      exact halone hex r hr hp.1 hp.2 tid hmem
    · exact hinv.not_contended_of_same hpend hr (hsame r hp) hfin
  | @wrote _ id _ _ _ hsess hids hsame hwin hrest hpend =>
    have hsub : ∀ tid', (t.pending tid').Sublist (s.pending tid') := by
      rw [hpend]
      exact sublist_update (hwin ▸ hrest.cons id)
    refine hinv.of_map hsess hids hsub fun r hr hfin ↦ ?_
    by_cases hid : r.id = id
    · subst hid
      exact hinv.not_contended_of_wrote hwin hrest hpend
    · exact hinv.not_contended_of_same hsub hr (hsame r hid) hfin
  | @opened _ sess hsess hnew hst hpend =>
    have hids : t.sessions.map (·.id) = s.sessions.map (·.id) ++ [sess.id] := by
      rw [hsess, map_append]
      rfl
    -- nobody can have a window on a row that was not there
    have halone : ¬ Contended s sess.id := fun ⟨tid', h'⟩ ↦ hnew (hinv.known tid' _ h')
    refine hinv.of_window hpend halone ?_ ?_ ?_ fun r hr hfin ↦ ?_ <;> try rw [hids]
    · exact hinv.ids_nodup.append (nodup_singleton _) (by simpa using hnew)
    · exact fun _ ↦ mem_append_left _
    · exact mem_append_right _ (mem_singleton_self _)
    · rw [hsess] at hr
      obtain hr | rfl := mem_snoc.1 hr
      · exact ⟨fun heq ↦ hnew (heq ▸ mem_map_of_mem hr), hinv.final r hr hfin⟩
      · rw [hst] at hfin
        cases hfin
  | closing _ hsess hact halone hpend =>
    obtain ⟨sess, hget, hst⟩ := hact
    obtain ⟨hmem, rfl⟩ := (get_eq_some_iff hinv.ids_nodup).1 hget
    refine hinv.of_window hpend (halone hex) ?_ ?_ ?_ ?_ <;> rw [hsess]
    · exact hinv.ids_nodup
    · exact fun _ ↦ id
    · exact mem_map_of_mem hmem
    · intro r hr hfin
      refine ⟨fun heq ↦ ?_, hinv.final r hr hfin⟩
      rw [inj_on_of_nodup_map hinv.ids_nodup hr hmem heq, hst] at hfin
      cases hfin

end Preservation

/-! ### Final states absorb -/

theorem KeepsFinal.refl (s : State) : KeepsFinal s s :=
  fun _ r hget _ ↦ ⟨r, hget, Session.Same.refl r⟩

theorem KeepsFinal.trans (h₁ : KeepsFinal s t) (h₂ : KeepsFinal t u) : KeepsFinal s u := by
  intro id r hget hfin
  obtain ⟨r', hget', hid', hst', hclosed', hreason'⟩ := h₁ id r hget hfin
  obtain ⟨r'', hget'', hid'', hstate'', hclosed'', hreason''⟩ :=
    h₂ id r' hget' (hst' ▸ hfin)
  exact ⟨r'', hget'', hid''.trans hid', hstate''.trans hst', hclosed''.trans hclosed',
    hreason''.trans hreason'⟩

/-- No step writes to a final session, as nobody has a window on it. -/
theorem AbsorbInv.keepsFinal (hinv : AbsorbInv s) (h : RemoteSession.step s l = some t)
    (hex : Exclusive s l) :
    KeepsFinal s t := by
  have hinv' : AbsorbInv t := hinv.step h hex
  have hmap : ∀ f : Session → Session, t.sessions = s.sessions.map f →
      (∀ r ∈ s.sessions, r.state.final → r.Same (f r)) → KeepsFinal s t := by
    intro f hsess hsame id r hget hfin
    obtain ⟨hr, hid⟩ := (get_eq_some_iff hinv.ids_nodup).1 hget
    refine ⟨f r, (get_eq_some_iff hinv'.ids_nodup).2 ⟨?_, ?_⟩, hsame r hr hfin⟩
    · rw [hsess]
      exact mem_map_of_mem hr
    · exact (hsame r hr hfin).1.trans hid
  cases effect_of_step h with
  | quiet hsess hsame => exact hmap _ hsess fun r _ _ ↦ hsame r
  | closing _ hsess =>
    exact hmap id (by simpa using hsess) fun r _ _ ↦ Session.Same.refl r
  | @wrote tid _ _ _ _ hsess _ hsame hwin =>
    refine hmap _ hsess fun r hr hfin ↦ hsame r fun hid ↦ ?_
    refine hinv.final r hr hfin ⟨tid, ?_⟩
    rw [hwin, hid]
    exact mem_cons_self
  | interrupted hsess _ hsame =>
    exact hmap _ hsess fun r _ hfin ↦
      hsame r fun hp ↦ not_interruptible_of_final hfin hp.2
  | opened hsess =>
    intro id r hget hfin
    obtain ⟨hr, hid⟩ := (get_eq_some_iff hinv.ids_nodup).1 hget
    refine ⟨r, (get_eq_some_iff hinv'.ids_nodup).2 ⟨?_, hid⟩, Session.Same.refl r⟩
    rw [hsess]
    exact mem_append_left _ hr

/-- **Final states absorb in every exclusive run**: what is final at one moment is, with its closing
time and reason, the same at every later one. -/
theorem keepsFinal_of_exclusive (pre post : List Label) (hpre : exec step init pre = some s)
    (hpost : exec step s post = some t)
    (hex : Along step (fun s l _ ↦ Exclusive s l) init (pre ++ post)) :
    KeepsFinal s t := by
  obtain ⟨hexpre, hexpost⟩ := (along_append hpre).1 hex
  have hinv : AbsorbInv s :=
    invariant_of_along (I := AbsorbInv) (fun _ _ _ hi h hp ↦ hi.step h hp) absorbInv_init hpre
      hexpre
  have hrun : AbsorbInv t ∧ KeepsFinal s t :=
    invariant_of_along (I := fun u ↦ AbsorbInv u ∧ KeepsFinal s u)
      (fun _ _ _ hi h hp ↦ ⟨hi.1.step h hp, hi.2.trans (hi.1.keepsFinal h hp)⟩)
      ⟨hinv, KeepsFinal.refl s⟩ hpost hexpost
  exact hrun.2

/-- A terminal is opened, closed by the administrator and left alone by the disconnect. -/
theorem keepsFinal_of_exclusive_closed : ∃ s t, exec step init
        [.openTerminal 0 1 2 3 none 100, .openMaintenance 0 none, .agentReply 0 .success,
          .exec (.request 0) .ok, .exec (.request 0) .ok, .closeSession 1 1,
          .exec (.request 1) .ok] = some s ∧
      exec step s [.interruptDevice 0 2 .ok [], .tick 5, .closeSession 2 1] = some t ∧
      (s.get 1).map (·.state) = some .closed ∧ KeepsFinal s t := by
  refine ⟨_, _, rfl, rfl, rfl, keepsFinal_of_exclusive
    [.openTerminal 0 1 2 3 none 100, .openMaintenance 0 none, .agentReply 0 .success,
      .exec (.request 0) .ok, .exec (.request 0) .ok, .closeSession 1 1, .exec (.request 1) .ok]
    [.interruptDevice 0 2 .ok [], .tick 5, .closeSession 2 1] rfl rfl ?_⟩
  iterate 5 refine .cons rfl trivial ?_
  refine .cons rfl ?_ ?_
  · rintro - ⟨(_ | n) | c | -, hmem⟩ <;> exact not_mem_nil hmem
  refine .cons rfl trivial ?_
  refine .cons rfl ?_ ?_
  · rintro r hr - hint
    obtain rfl := mem_singleton.1 hr
    cases hint
  refine .cons rfl trivial ?_
  refine .cons rfl ?_ trivial
  rintro ⟨r, hr, hact⟩
  cases hr
  cases hact

/-- The control connection is lost while `OpenTerminal` has still to mark the session active: the
interrupted session becomes active again. -/
theorem not_keepsFinal_interrupted_open :
    ¬ ∀ (pre post : List Label) (s t : State), exec step init pre = some s →
      exec step s post = some t → KeepsFinal s t := by
  intro h
  have hkeep := h
    [.openTerminal 0 1 2 3 none 100, .openMaintenance 0 none, .agentReply 0 .success,
      .interruptDevice 0 2 .ok [⟨1, none⟩]]
    [.exec (.request 0) .ok] _ _ rfl rfl
  obtain ⟨r, hr, hsame⟩ := hkeep 1 _ rfl (by decide)
  cases hr
  exact absurd hsame.2.1 (by decide)

end WartungsRemote.RemoteSession
