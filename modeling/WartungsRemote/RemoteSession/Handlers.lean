import WartungsRemote.RemoteSession.Absorption

/-!
# What a step does to the handlers

Whatever its label, a step does one of a few things to the handlers: one begins to open a session
whose row it has just inserted, it gets the agent's answer, it moves on with nothing to write, it
executes a statement, or the disconnect handler runs (`Move`). A step that decides to **close a
session with `Service.Close`** is told apart by `closes`, and what is then left to do is `Closing`.
-/

namespace WartungsRemote.RemoteSession

open List State
open ControlHub (ConnID)

/-- The statements left when there is no decision ahead. -/
def Thread.stmts : Thread → List Stmt
  | .running stmts => stmts
  | .created _ _ | .preparing _ _ | .awaiting _ | .attaching _ _ | .streaming _ _
  | .rereading _ _ => []

/-- The session that a handler is opening and has not heard of from the agent. -/
def Thread.opening : Thread → Option UUID
  | .created sess _ | .preparing sess _ | .awaiting sess => some sess.id
  | .attaching _ _ | .streaming _ _ | .rereading _ _ | .running _ => none

/-- Before it asks the agent `OpenTerminal` writes no state; `Repo.Close` never activates. -/
def Thread.Regular : Thread → Prop
  | .preparing _ stmts => ∀ stmt ∈ stmts, stmt.writes = none
  | .running stmts => ∀ id state reason, .close id state reason ∈ stmts → state ≠ .active
  | _ => True

/-- The session that a step decides to close with `Service.Close`, and the handler that will. -/
def closes (s : State) : Label → Option (ℕ × Session)
  | .closeSession n id =>
    ((s.get id).filter fun sess ↦ sess.state = .active).map fun sess ↦ (n, sess)
  | .agentClose n deviceID id _ =>
    ((s.get id).filter fun sess ↦ sess.deviceID = deviceID ∧ sess.state = .active).map fun sess ↦
      (n, sess)
  | .reread n =>
    match s.threads (.request n) with
    | some (.rereading sess _) =>
      ((s.get sess.id).filter fun current ↦ current.state = .active).map fun _ ↦ (n, sess)
    | _ => none
  | _ => none

/-- What is left of a handler that closes a session. -/
structure Closing (sess : Session) (stmts : List Stmt) : Prop where
  mem : ∃ reason, .close sess.id .closed reason ∈ stmts
  not_required : ∀ stmt ∈ stmts, stmt.required = false
  only : ∀ id state reason, .close id state reason ∈ stmts → id = sess.id ∧ state = .closed

theorem closing_closeStmts (sess : Session) (reason : String) :
    Closing sess (closeStmts sess reason) := by
  refine ⟨⟨reason, mem_append_right _ (mem_singleton_self _)⟩, ?_, ?_⟩
  · unfold closeStmts
    split <;> simp [Stmt.required]
  · unfold closeStmts
    split <;> simp +contextual

variable {sess : Session} {stmts : List Stmt}

theorem Closing.append_unregister (h : Closing sess stmts) (id : UUID) :
    Closing sess (stmts ++ [.unregister id]) where
  mem := h.mem.imp fun _ hmem ↦ mem_append_left _ hmem
  not_required stmt hmem := by
    obtain hmem | rfl := mem_snoc.1 hmem
    · exact h.not_required stmt hmem
    · rfl
  only id' state reason hmem := by
    obtain hmem | hmem := mem_snoc.1 hmem
    · exact h.only id' state reason hmem
    · cases hmem

theorem Closing.cons_unregister (h : Closing sess stmts) (id : UUID) :
    Closing sess (.unregister id :: stmts) where
  mem := h.mem.imp fun _ hmem ↦ mem_cons_of_mem _ hmem
  not_required stmt hmem := by
    rcases mem_cons.1 hmem with rfl | hmem
    · rfl
    · exact h.not_required stmt hmem
  only id' state reason hmem := by
    rcases mem_cons.1 hmem with heq | hmem
    · cases heq
    · exact h.only id' state reason hmem

theorem Closing.of_cons {stmt : Stmt} (h : Closing sess (stmt :: stmts))
    (hstmt : ∀ reason, stmt ≠ .close sess.id .closed reason) : Closing sess stmts where
  mem := h.mem.imp fun reason hmem ↦ (mem_cons.1 hmem).resolve_left (hstmt reason).symm
  not_required stmt' hmem := h.not_required stmt' (mem_cons_of_mem _ hmem)
  only id state reason hmem := h.only id state reason (mem_cons_of_mem _ hmem)

theorem Closing.ofStmts (h : Closing sess stmts) :
    Thread.ofStmts stmts = some (.running stmts) := by
  obtain ⟨_, hmem⟩ := h.mem
  cases stmts with
  | nil => cases hmem
  | cons => rfl

variable {s t : State} {l : Label}

/-! ### Closing -/

theorem get_of_closes {id : UUID} {p : Session → Prop} [DecidablePred p] {f : Session → ℕ × Session}
    {decided : ℕ × Session} (h : ((s.get id).filter fun sess ↦ p sess).map f = some decided) :
    ∃ r, s.get id = some r ∧ p r ∧ f r = decided := by
  simpa [and_assoc] using h

/-- A step that decides to close a session has found it active. The closing handler begins, or was a
stream handler. -/
theorem closing_of_closes {n : ℕ} (h : step s l = some t) (hcls : closes s l = some (n, sess)) :
    ∃ stmts, t = s.setThread (.request n) (some (.running stmts)) ∧ Closing sess stmts ∧
      (∃ r ∈ s.sessions, r.id = sess.id ∧ r.state = .active) ∧
      ∀ stmts', s.threads (.request n) ≠ some (.running stmts') := by
  cases l with
  | closeSession _ id =>
    obtain ⟨_, hget, hact, ⟨⟩⟩ := get_of_closes hcls
    simp only [step, closeSession, hget, if_pos hact] at h
    obtain ⟨hfree, rfl⟩ := start_eq_some_iff.1 h
    exact ⟨_, rfl, (closing_closeStmts sess _).append_unregister id,
      ⟨sess, mem_of_get hget, rfl, hact⟩, by simp [hfree]⟩
  | agentClose _ _ id =>
    obtain ⟨_, hget, hact, ⟨⟩⟩ := get_of_closes hcls
    simp only [step, agentClose, hget, if_pos hact] at h
    obtain ⟨hfree, rfl⟩ := start_eq_some_iff.1 h
    exact ⟨_, rfl, (closing_closeStmts sess _).cons_unregister id,
      ⟨sess, mem_of_get hget, rfl, hact.2⟩, by simp [hfree]⟩
  | reread =>
    simp only [closes] at hcls
    split at hcls
    next sess' reason hth =>
      obtain ⟨current, hget, hact, ⟨⟩⟩ := get_of_closes hcls
      simp only [step, reread, hth, hget, if_pos hact, Option.some.injEq] at h
      exact ⟨_, h.symm, closing_closeStmts sess reason,
        ⟨current, mem_of_get hget, get_id hget, hact⟩, by simp [hth]⟩
    · cases hcls
  | _ => cases hcls

theorem stored_of_closes {n : ℕ} (hcopies : Copies s) (h : closes s l = some (n, sess)) :
    Stored s.sessions sess := by
  cases l with
  | closeSession | agentClose =>
    obtain ⟨_, hget, -, ⟨⟩⟩ := get_of_closes h
    exact stored_of_mem (mem_of_get hget)
  | reread =>
    simp only [closes] at h
    split at h
    next sess' reason hth =>
      obtain ⟨_, -, -, ⟨⟩⟩ := get_of_closes h
      exact hcopies _ _ sess hth rfl
    · cases h
  | _ => cases h

/-! ### All other steps -/

/-- Rows change in place and keep their state. -/
def KeepsStates (s t : State) : Prop :=
  ∃ f : Session → Session, t.sessions = s.sessions.map f ∧ ∀ r, (f r).id = r.id ∧
    (f r).state = r.state

theorem keepsStates_of_eq (h : t.sessions = s.sessions) : KeepsStates s t :=
  ⟨id, by rw [h, map_id], fun _ ↦ ⟨rfl, rfl⟩⟩

theorem Stmt.keepsStates_attempt (s : State) (out : Outcome) {stmt : Stmt}
    (h : stmt.writes = none) : KeepsStates s (stmt.attempt s out) := by
  unfold Stmt.attempt
  split
  · exact keepsStates_of_eq rfl
  · cases stmt with
    | setState | close => cases h
    | setMaintenanceSession =>
      refine ⟨_, rfl, fun r ↦ ?_⟩
      split <;> exact ⟨rfl, rfl⟩
    | _ => exact keepsStates_of_eq rfl

/-- What a step does that does not decide to close a session. -/
inductive Move (s : State) (l : Label) : State → Prop
  | idle {u} (hsess : u.sessions = s.sessions) (hths : u.threads = s.threads) : Move s l u
  /-- A row is inserted, and a handler begins to open the session. -/
  | opened {u : State} {n sess} {th : Thread} (hnew : sess.id ∉ s.sessions.map (·.id))
      (hst : sess.state = .requested) (hsess : u.sessions = s.sessions ++ [sess])
      (hths : u.threads = s.threads) (hsts : th.stmts = [])
      (hopng : th.opening = some sess.id) (hreg : th.Regular) :
      Move s l (u.setThread (.request n) (some th))
  /-- A handler with decisions ahead moves on. -/
  | moved {u tid th} (hrows : KeepsStates s u) (hths : u.threads = s.threads)
      (hsts : ∀ th', th = some th' → th'.stmts = [])
      (hopng : ∀ th' id, th = some th' → th'.opening = some id →
        ∃ th₀, s.threads tid = some th₀ ∧ th₀.opening = some id)
      (hreg : ∀ th', th = some th' → th'.Regular) : Move s l (u.setThread tid th)
  /-- `SendAndWait` returns. -/
  | replied {n reply sess} (hl : l = .agentReply n reply)
      (hth : s.threads (.request n) = some (.awaiting sess)) :
      Move s l (s.setThread (.request n) (Thread.ofStmts (replyStmts sess reply)))
  /-- A statement is executed; the handler returns early if it needed it. -/
  | ran {tid out stmt rest th} (hl : l = .exec tid out)
      (hth : s.threads tid = some (.running (stmt :: rest)))
      (hnext : th = Thread.ofStmts rest ∨ th = none ∧ stmt.required = true) :
      Move s l ((stmt.attempt s out).setThread tid th)
  /-- The disconnect handler interrupts the sessions of a device. -/
  | interrupted {u v c deviceID out rows} (hl : l = .interruptDevice c deviceID out rows)
      (hout : out ≠ .failed)
      (hu : u = s.interrupt (fun r ↦ r.deviceID = deviceID) "agent_disconnected")
      (ht : v = u ∨ v = u.setThread (.disconnect c) (Thread.ofStmts (disconnectStmts rows))) :
      Move s l v

/-- All handlers are regular. -/
def Regular (s : State) : Prop :=
  ∀ tid th, s.threads tid = some th → th.Regular

/-- `Move` has what a step can do that closes nothing. -/
theorem move_of_step (h : step s l = some t) (hreg : Regular s) (hcls : closes s l = none)
    (hres : ∀ out rows, l ≠ .restart out rows) : Move s l t := by
  -- a stream handler moves on or ends
  have hstr : ∀ {u : State} {tid : ThreadID} {th : Option Thread}, u.sessions = s.sessions →
      u.threads = s.threads → (∀ th', th = some th' → th'.stmts = [] ∧ th'.opening = none ∧
        th'.Regular) →
      Move s l (u.setThread tid th) := by
    intro u tid th hsess hths hth
    refine .moved (keepsStates_of_eq hsess) hths (fun th' hth' ↦ (hth th' hth').1) ?_
      fun th' hth' ↦ (hth th' hth').2.2
    intro th' id hth' hid
    rw [(hth th' hth').2.1] at hid
    cases hid
  cases step_cases h with
  | tick | notClosed | notAgentClosed | notAttached | interruptFailed => exact .idle rfl rfl
  | openTerminal hnew | openTunnel hnew => exact .opened hnew rfl rfl rfl rfl rfl trivial
  | openMaintenance _ hth | unmaintained hth =>
    refine .moved (keepsStates_of_eq rfl) rfl ?_ ?_ ?_
    · rintro th' ⟨⟩
      rfl
    · rintro th' id ⟨⟩ ⟨⟩
      exact ⟨_, hth, rfl⟩
    · rintro th' ⟨⟩
      simp [Thread.Regular, Stmt.writes]
  | agentReply hth => exact .replied rfl hth
  | closeSession hget hact | agentClose hget hact => simp [closes, hget, hact] at hcls
  | attach | endStream =>
    refine hstr rfl rfl ?_
    rintro th' ⟨⟩
    exact ⟨rfl, rfl, trivial⟩
  | getStream _ hnext =>
    refine hstr rfl rfl ?_
    obtain rfl | rfl := hnext <;> rintro th' ⟨⟩
    exact ⟨rfl, rfl, trivial⟩
  | ended => exact hstr rfl rfl (by rintro th' ⟨⟩)
  | reread hth hget hact => simp [closes, hth, hget, hact] at hcls
  | interruptDevice => exact .interrupted rfl (by simp) rfl (.inr rfl)
  | interruptLate => exact .interrupted rfl (by simp) rfl (.inl rfl)
  | @prepare tid out _ stmt rest hth =>
    have hsts := hreg tid _ hth
    refine .moved (stmt.keepsStates_attempt s out (hsts stmt mem_cons_self))
      (stmt.attempt_threads s out) ?_ ?_ ?_
    · rintro th' ⟨⟩
      cases rest <;> rfl
    · rintro th' id ⟨⟩ hid
      refine ⟨_, hth, ?_⟩
      cases rest <;> exact hid
    · rintro th' ⟨⟩
      cases rest with
      | nil => trivial
      | cons => exact fun _ hmem ↦ hsts _ (mem_cons_of_mem _ hmem)
  | exec hth hnext =>
    exact .ran rfl hth (hnext.symm.imp_right fun hnext ↦ ⟨hnext.1, hnext.2.2⟩)
  | restart | restartFailed => exact absurd rfl (hres _ _)

theorem writes_of_mem_disconnectStmts {rows : List InterruptedSession} {stmt : Stmt}
    (h : stmt ∈ disconnectStmts rows) : stmt.writes = none :=
  filterMap_eq_nil_iff.1 (writes_disconnectStmts rows) stmt h

theorem setState_mem_replyStmts {reply : OpenReply} {id : UUID} {state : SessionState}
    (h : .setState id state ∈ replyStmts sess reply) : id = sess.id := by
  have hmem : id ∈ (replyStmts sess reply).filterMap Stmt.writes := mem_filterMap.2 ⟨_, h, rfl⟩
  rw [writes_replyStmts] at hmem
  exact mem_singleton.1 hmem

/-! ### The handlers after a step -/

theorem regular_ofStmts {th : Thread} (hth : Thread.ofStmts stmts = some th)
    (h : ∀ id state reason, .close id state reason ∈ stmts → state ≠ .active) : th.Regular := by
  rw [stmts_ofStmts hth]
  exact h

/-- Every handler keeps to what it may write. -/
theorem Regular.step (hs : Regular s) (h : step s l = some t)
    (hres : ∀ out rows, l ≠ .restart out rows) : Regular t := by
  rcases hcls : closes s l with _ | ⟨n, _⟩
  · cases move_of_step h hs hcls hres with
    | idle _ hths =>
      unfold Regular
      rwa [hths]
    | opened _ _ _ hths _ _ hreg =>
      exact forall_setThread_some hs hths hreg
    | moved _ hths _ _ hreg =>
      exact forall_setThread hs hths hreg
    | @replied _ reply =>
      refine forall_setThread_ofStmts hs rfl fun id state reason hmem ↦ ?_
      cases reply with
      | unreachable | rejected =>
        cases mem_singleton.1 hmem
        simp
      | success => simp [replyStmts] at hmem
    | @ran tid out stmt _ _ _ hth hnext =>
      exact forall_setThread_rest hs (stmt.attempt_threads s out) hnext fun id state reason hmem ↦
        hs tid _ hth id state reason (mem_cons_of_mem _ hmem)
    | interrupted _ _ hu ht =>
      subst hu
      obtain rfl | rfl := ht
      · exact hs
      · refine forall_setThread_ofStmts hs rfl fun id state reason hmem ↦ ?_
        cases writes_of_mem_disconnectStmts hmem
  · obtain ⟨_, rfl, hclos, -⟩ := closing_of_closes h hcls
    refine forall_setThread_some hs rfl fun id state reason hmem ↦ ?_
    rw [(hclos.only id state reason hmem).2]
    simp

end WartungsRemote.RemoteSession
