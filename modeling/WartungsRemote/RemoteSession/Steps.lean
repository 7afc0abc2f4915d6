import WartungsRemote.RemoteSession.Service

/-!
# What an operation of the session service does

The operations of `State` check where a handler stands and what the tables hold, and then move one
handler. `Step` reads a successful operation back as those two things: what the checks found, and
the state that results.
-/

namespace WartungsRemote.RemoteSession

open List State
open ControlHub (ConnID)

variable {s t u : State}

namespace State

variable {tid : ThreadID}

theorem start_eq_some_iff {th : Thread} :
    s.start tid th = some t ↔ s.threads tid = none ∧ t = s.setThread tid (some th) := by
  unfold start
  split <;> simp_all [eq_comm]

theorem get_id {id : UUID} {sess : Session} (h : s.get id = some sess) : sess.id = id := by
  simpa using find?_some h

@[simp] theorem setThread_sessions (s : State) (tid : ThreadID) (th : Option Thread) :
    (s.setThread tid th).sessions = s.sessions := rfl

@[simp] theorem setThread_threads_self {s : State} {tid : ThreadID} {th : Option Thread} :
    (s.setThread tid th).threads tid = th := by
  simp [setThread]

theorem setThread_threads_of_ne (s : State) {tid' : ThreadID} (th : Option Thread)
    (h : tid' ≠ tid) : (s.setThread tid th).threads tid' = s.threads tid' := by
  simp [setThread, h]

end State

/-! ### The cases of a step -/

/-- What the checks of an operation have found, and the state that results. -/
inductive Step (s : State) : Label → State → Prop
  | tick (d : ℕ) : Step s (.tick d) { s with now := s.now + d }
  | openTerminal {n id deviceID userID customerID ttl} (fresh : id ∉ s.sessions.map (·.id))
      (free : s.threads (.request n) = none) :
      Step s (.openTerminal n id deviceID userID customerID ttl)
        ((s.create id deviceID userID .terminal ttl).1.setThread (.request n)
          (some (.created (s.create id deviceID userID .terminal ttl).2 customerID)))
  | openTunnel {n id deviceID userID kind ttl} (fresh : id ∉ s.sessions.map (·.id))
      (free : s.threads (.request n) = none) : Step s (.openTunnel n id deviceID userID kind ttl)
        ((s.create id deviceID userID kind ttl).1.setThread (.request n)
          (some (.awaiting (s.create id deviceID userID kind ttl).2)))
  | openMaintenance {n sess customerID mid} (m : MaintenanceSession)
      (thread : s.threads (.request n) = some (.created sess customerID)) (id : m.id = mid)
      (running : m.endedAt = none) : Step s (.openMaintenance n (some mid))
        ({ s with maintenance := s.maintenance ++ [m] }.setThread (.request n)
          (some (.preparing { sess with maintenanceSessionID := some mid }
            [.setMaintenanceSession sess.id mid,
              .addEvent mid "terminal_opened" "Remote terminal session opened" (some sess.id)])))
  /-- `OpenTerminal` goes on without a maintenance session. -/
  | unmaintained {n sess customerID}
      (thread : s.threads (.request n) = some (.created sess customerID)) :
      Step s (.openMaintenance n none) (s.setThread (.request n) (some (.awaiting sess)))
  | agentReply {n reply sess} (thread : s.threads (.request n) = some (.awaiting sess)) :
      Step s (.agentReply n reply) (s.setThread (.request n)
        (Thread.ofStmts (replyStmts sess reply)))
  | closeSession {n id sess} (get : s.get id = some sess) (active : sess.state = .active)
      (free : s.threads (.request n) = none) : Step s (.closeSession n id)
        (s.setThread (.request n)
          (some (.running (closeStmts sess "admin_closed" ++ [.unregister id]))))
  | notClosed {n id} : Step s (.closeSession n id) s
  | agentClose {n deviceID id reason sess} (get : s.get id = some sess)
      (active : sess.deviceID = deviceID ∧ sess.state = .active)
      (free : s.threads (.request n) = none) : Step s (.agentClose n deviceID id reason)
        (s.setThread (.request n)
          (some (.running (.unregister id :: closeStmts sess ("agent_" ++ reason)))))
  | notAgentClosed {n deviceID id reason} : Step s (.agentClose n deviceID id reason) s
  | attach {n id helper sess reason} (get : s.get id = some sess) (active : sess.state = .active)
      (free : s.threads (.request n) = none) :
      Step s (.attach n id helper) (s.setThread (.request n) (some (.attaching sess reason)))
  | notAttached {n id helper} : Step s (.attach n id helper) s
  | getStream {n sess reason th} (thread : s.threads (.request n) = some (.attaching sess reason))
      (next : th = none ∨ th = some (.streaming sess reason)) :
      Step s (.getStream n) (s.setThread (.request n) th)
  | endStream {n sess reason} (thread : s.threads (.request n) = some (.streaming sess reason)) :
      Step s (.endStream n) ({ s with broker := s.broker.unregister sess.id }.setThread (.request n)
        (some (.rereading sess reason)))
  | reread {n sess reason current} (thread : s.threads (.request n) = some (.rereading sess reason))
      (get : s.get sess.id = some current) (active : current.state = .active) :
      Step s (.reread n) (s.setThread (.request n) (some (.running (closeStmts sess reason))))
  /-- The session is not active any more. -/
  | ended {n sess reason} (thread : s.threads (.request n) = some (.rereading sess reason)) :
      Step s (.reread n) (s.setThread (.request n) none)
  /-- The disconnect handler interrupts the sessions of the device and begins its loop. -/
  | interruptDevice {c deviceID rows} (free : s.threads (.disconnect c) = none)
      (perm : rows.Perm (s.interrupted fun r ↦ r.deviceID = deviceID)) :
      Step s (.interruptDevice c deviceID .ok rows)
        ((s.interrupt (fun r ↦ r.deviceID = deviceID) "agent_disconnected").setThread
          (.disconnect c) (Thread.ofStmts (disconnectStmts rows)))
  | interruptFailed {c deviceID rows} : Step s (.interruptDevice c deviceID .failed rows) s
  | interruptLate {c deviceID rows} : Step s (.interruptDevice c deviceID .failedLate rows)
      (s.interrupt (fun r ↦ r.deviceID = deviceID) "agent_disconnected")
  | prepare {tid out sess stmt rest}
      (thread : s.threads tid = some (.preparing sess (stmt :: rest))) : Step s (.exec tid out)
        ((stmt.attempt s out).setThread tid (some (Thread.ofPreparation sess rest)))
  | exec {tid out stmt rest th} (thread : s.threads tid = some (.running (stmt :: rest)))
      (next : th = none ∧ out ≠ .ok ∧ stmt.required = true ∨ th = Thread.ofStmts rest) :
      Step s (.exec tid out) ((stmt.attempt s out).setThread tid th)
  /-- The server starts with an empty broker and without handlers. It interrupts every session and
  begins the loop at its start. -/
  | restart {rows stopped} (state : stopped = { s with broker := .empty, threads := fun _ ↦ none })
      (perm : rows.Perm (s.interrupted fun _ ↦ true)) : Step s (.restart .ok rows)
        ((State.interrupt stopped (fun _ ↦ true) "server_restart").setThread .startup
          (Thread.ofStmts (startupStmts rows)))
  /-- The query reports an error. -/
  | restartFailed {out rows stopped t} (failed : out ≠ .ok)
      (state : stopped = { s with broker := .empty, threads := fun _ ↦ none })
      (next : t = stopped ∨ t = State.interrupt stopped (fun _ ↦ true) "server_restart") :
      Step s (.restart out rows) t

theorem Step.of_start {l : Label} {tid : ThreadID} {th : Thread} (h : u.start tid th = some t)
    (hstep : u.threads tid = none → Step s l (u.setThread tid (some th))) : Step s l t := by
  obtain ⟨hfree, rfl⟩ := start_eq_some_iff.1 h
  exact hstep hfree

/-- `Step` has every case of `step`. -/
theorem step_cases {l : Label} (h : step s l = some t) : Step s l t := by
  cases l with
  | tick d =>
    cases h
    exact .tick d
  | openTerminal =>
    simp only [step, openTerminal] at h
    split_ifs at h
    next hnew => exact .of_start h (.openTerminal hnew)
  | openTunnel =>
    simp only [step, openTunnel] at h
    split_ifs at h
    next hnew => exact .of_start h (.openTunnel fun hmem ↦ hnew (.inl hmem))
  | openMaintenance =>
    simp only [step, openMaintenance] at h
    split at h
    next hth =>
      split at h
      · split_ifs at h
        cases h
        exact .openMaintenance _ hth rfl rfl
      · cases h
        exact .unmaintained hth
    · cases h
  | agentReply =>
    simp only [step, agentReply] at h
    split at h <;> cases h
    next hth => exact .agentReply hth
  | closeSession =>
    simp only [step, closeSession] at h
    split at h
    next hget =>
      split_ifs at h with hact
      · exact .of_start h (.closeSession hget hact)
      · cases h
        exact .notClosed
    · cases h
      exact .notClosed
  | agentClose =>
    simp only [step, agentClose] at h
    split at h
    next hget =>
      split_ifs at h with hact
      · exact .of_start h (.agentClose hget hact)
      · cases h
        exact .notAgentClosed
    · cases h
      exact .notAgentClosed
  | attach =>
    simp only [step, State.attach] at h
    split at h
    next hget =>
      split at h
      · cases h
      · split at h
        next hact => exact .of_start h (.attach hget hact)
        · cases h
          exact .notAttached
    · cases h
      exact .notAttached
  | getStream =>
    simp only [step, getStream] at h
    split at h
    next hth =>
      split_ifs at h <;> cases h
      · exact .getStream hth (.inr rfl)
      · exact .getStream hth (.inl rfl)
    · cases h
  | endStream =>
    simp only [step, endStream] at h
    split at h <;> cases h
    next hth => exact .endStream hth
  | reread =>
    simp only [step, reread] at h
    split at h
    next hth =>
      split at h
      next hget =>
        split_ifs at h with hact <;> cases h
        · exact .reread hth hget hact
        · exact .ended hth
      · cases h
        exact .ended hth
    · cases h
  | interruptDevice _ _ out =>
    simp only [step, interruptDevice] at h
    split_ifs at h
    next hgrd =>
      cases out <;> cases h
      exacts [.interruptDevice hgrd.1 hgrd.2, .interruptFailed, .interruptLate]
  | exec =>
    simp only [step, exec] at h
    split at h
    next hth =>
      cases h
      exact .prepare hth
    next hth =>
      split_ifs at h with _ hreqd <;> cases h
      · exact .exec hth (.inl ⟨rfl, hreqd⟩)
      · exact .exec hth (.inr rfl)
    · cases h
  | restart out =>
    simp only [step, restart] at h
    split_ifs at h
    next hperm =>
      cases out <;> cases h
      exacts [.restart rfl hperm, .restartFailed (by simp) rfl (.inl rfl),
        .restartFailed (by simp) rfl (.inr rfl)]

@[simp] theorem Stmt.run_threads (s : State) (stmt : Stmt) : (stmt.run s).threads = s.threads := by
  cases stmt <;> rfl

@[simp] theorem Stmt.attempt_threads (s : State) (out : Outcome) (stmt : Stmt) :
    (stmt.attempt s out).threads = s.threads := by
  unfold Stmt.attempt
  split <;> simp

/-- The handler that a label moves. -/
def Label.handler? : Label → Option ThreadID
  | .openTerminal n _ _ _ _ _ | .openTunnel n _ _ _ _ _ | .openMaintenance n _ | .agentReply n _
  | .closeSession n _ | .agentClose n _ _ _ | .attach n _ _ | .getStream n | .endStream n
  | .reread n =>
    some (.request n)
  | .interruptDevice c _ _ _ => some (.disconnect c)
  | .exec tid _ => some tid
  | .tick _ | .restart _ _ => none

variable {tid : ThreadID} {sess : Session}

variable {th : Option Thread} {stmts : List Stmt} {rows : List Session} {out : Outcome}

theorem stmts_ofStmts {th : Thread} (h : Thread.ofStmts stmts = some th) : th = .running stmts := by
  cases stmts with
  | nil => cases h
  | cons => exact (Option.some.inj h).symm

section Handlers

variable {P : ThreadID → Thread → Prop} (hs : ∀ tid th, s.threads tid = some th → P tid th)
  (hths : u.threads = s.threads)
include hs hths

theorem forall_setThread (hth : ∀ th', th = some th' → P tid th') :
    ∀ tid' th', (u.setThread tid th).threads tid' = some th' → P tid' th' := by
  refine (Function.forall_update_iff u.threads fun tid o ↦ ∀ th, o = some th → P tid th).2
    ⟨hth, fun tid' _ ↦ ?_⟩
  rw [hths]
  exact hs tid'

theorem forall_setThread_some {th : Thread} (hth : P tid th) :
    ∀ tid' th', (u.setThread tid (some th)).threads tid' = some th' → P tid' th' :=
  forall_setThread hs hths fun _ heq ↦ Option.some.inj heq ▸ hth

theorem forall_setThread_ofStmts (hth : P tid (.running stmts)) :
    ∀ tid' th', (u.setThread tid (Thread.ofStmts stmts)).threads tid' = some th' → P tid' th' :=
  forall_setThread hs hths fun _ heq ↦ stmts_ofStmts heq ▸ hth

/-- A handler goes on with its statements, or it returns. -/
theorem forall_setThread_rest {returns : Prop}
    (hnext : th = Thread.ofStmts stmts ∨ th = none ∧ returns) (hth : P tid (.running stmts)) :
    ∀ tid' th', (u.setThread tid th).threads tid' = some th' → P tid' th' := by
  obtain rfl | ⟨rfl, -⟩ := hnext
  · exact forall_setThread_ofStmts hs hths hth
  · exact forall_setThread hs hths nofun

end Handlers

theorem exec_of_running (h : step s (.exec tid out) = some t)
    (hth : s.threads tid = some (.running stmts)) : ∃ stmt rest th, stmts = stmt :: rest ∧
      (th = none ∧ out ≠ .ok ∧ stmt.required = true ∨ th = Thread.ofStmts rest) ∧
      t = (stmt.attempt s out).setThread tid th := by
  cases step_cases h with
  | prepare hth' => cases hth.symm.trans hth'
  | exec hth' hnext =>
    cases hth.symm.trans hth'
    exact ⟨_, _, _, rfl, hnext, rfl⟩

/-! ### Rows -/

/-- The columns that an `INSERT` fills and no `UPDATE` changes. -/
structure Session.Keeps (r r' : Session) : Prop where
  id : r'.id = r.id
  deviceID : r'.deviceID = r.deviceID
  userID : r'.userID = r.userID
  kind : r'.kind = r.kind
  expiresAt : r'.expiresAt = r.expiresAt

theorem Session.Keeps.refl (r : Session) : r.Keeps r := ⟨rfl, rfl, rfl, rfl, rfl⟩

theorem Stmt.run_keeps (s : State) (stmt : Stmt) :
    ∃ f : Session → Session, (∀ r : Session, r.Keeps (f r)) ∧
      (stmt.run s).sessions = s.sessions.map f := by
  cases stmt with
  | addEvent | closeMaintenance | createTunnel | register | unregister =>
    exact ⟨id, Session.Keeps.refl, by simp [Stmt.run, updateMaintenance]⟩
  | setMaintenanceSession | setState | close =>
    refine ⟨_, fun r ↦ ?_, rfl⟩
    split <;> exact ⟨rfl, rfl, rfl, rfl, rfl⟩

theorem Stmt.attempt_keeps (s : State) (out : Outcome) (stmt : Stmt) :
    ∃ f : Session → Session, (∀ r : Session, r.Keeps (f r)) ∧
      (stmt.attempt s out).sessions = s.sessions.map f := by
  unfold Stmt.attempt
  split
  · exact ⟨id, Session.Keeps.refl, by simp⟩
  · exact stmt.run_keeps s

/-- A statement leaves a row alone, or it links it, or it writes its state. -/
theorem row_attempt {stmt : Stmt} {r : Session} (hr : r ∈ (stmt.attempt s out).sessions) :
    r ∈ s.sessions ∧ (out ≠ .failed → ∀ state reason, stmt ≠ .close r.id state reason) ∨
    out ≠ .failed ∧ ∃ r₀ ∈ s.sessions, r₀.id = r.id ∧
      ((∃ mid, stmt = .setMaintenanceSession r.id mid ∧ r.maintenanceSessionID = some mid ∧
        r.state = r₀.state) ∨ (stmt = .setState r.id r.state ∨ ∃ reason, stmt =
          .close r.id r.state reason) ∧ r₀.maintenanceSessionID = r.maintenanceSessionID) := by
  unfold Stmt.attempt at hr
  split at hr
  next hfail => exact .inl ⟨hr, fun hok ↦ absurd hfail hok⟩
  next hok =>
    cases stmt with
    | setMaintenanceSession _ mid =>
      obtain ⟨r₀, hr₀, rfl⟩ := mem_map.1 hr
      split
      next heq => exact .inr ⟨hok, r₀, hr₀, rfl, .inl ⟨mid, by rw [← heq], rfl, rfl⟩⟩
      · exact .inl ⟨hr₀, by simp⟩
    | setState =>
      obtain ⟨r₀, hr₀, rfl⟩ := mem_map.1 hr
      split
      next heq => exact .inr ⟨hok, r₀, hr₀, rfl, .inr ⟨.inl (by rw [← heq]), rfl⟩⟩
      · exact .inl ⟨hr₀, by simp⟩
    | close _ _ reason =>
      obtain ⟨r₀, hr₀, rfl⟩ := mem_map.1 hr
      split
      next heq => exact .inr ⟨hok, r₀, hr₀, rfl, .inr ⟨.inr ⟨reason, by rw [← heq]⟩, rfl⟩⟩
      next hne => exact .inl ⟨hr₀, fun _ _ _ heq ↦ hne (Stmt.close.inj heq).1.symm⟩
    | _ => exact .inl ⟨hr, by simp⟩

theorem State.interrupt_keeps (s : State) (p : Session → Bool) (reason : String) :
    ∃ f : Session → Session, (∀ r : Session, r.Keeps (f r)) ∧
      (s.interrupt p reason).sessions = s.sessions.map f := by
  refine ⟨_, fun r ↦ ?_, rfl⟩
  split <;> exact ⟨rfl, rfl, rfl, rfl, rfl⟩

theorem Stmt.attempt_now (s : State) (out : Outcome) (stmt : Stmt) :
    (stmt.attempt s out).now = s.now := by
  unfold Stmt.attempt
  split
  · rfl
  · cases stmt <;> rfl

/-! ### The copies that handlers keep -/

/-- The session that a handler has read. -/
def Thread.sess? : Thread → Option Session
  | .created sess _ | .preparing sess _ | .awaiting sess | .attaching sess _ | .streaming sess _
  | .rereading sess _ => some sess
  | .running _ => none

/-- There is a row with this id and device. -/
def Stored (rows : List Session) (sess : Session) : Prop :=
  ∃ r ∈ rows, r.id = sess.id ∧ r.deviceID = sess.deviceID

/-- Every handler has read a stored session. -/
def Copies (s : State) : Prop :=
  ∀ tid th sess, s.threads tid = some th → th.sess? = some sess → Stored s.sessions sess

theorem stored_of_mem (h : sess ∈ rows) : Stored rows sess :=
  ⟨sess, h, rfl, rfl⟩

theorem State.mem_of_get {id : UUID} (h : s.get id = some sess) : sess ∈ s.sessions :=
  mem_of_find?_eq_some h

theorem Stored.map (h : Stored rows sess) {f : Session → Session}
    (hf : ∀ r : Session, r.Keeps (f r)) : Stored (rows.map f) sess := by
  obtain ⟨r, hr, hid, hdev⟩ := h
  exact ⟨f r, mem_map_of_mem hr, (hf r).id.trans hid, (hf r).deviceID.trans hdev⟩

theorem Copies.setThread (hs : Copies s) (hths : u.threads = s.threads)
    (hrows : ∀ sess, Stored s.sessions sess → Stored u.sessions sess)
    (hth : ∀ th' sess, th = some th' → th'.sess? = some sess → Stored u.sessions sess) :
    Copies (u.setThread tid th) := by
  intro tid' th' sess hth' hsess
  by_cases htid : tid' = tid
  · subst htid
    exact hth th' sess (by simpa [setThread] using hth') hsess
  · rw [u.setThread_threads_of_ne th htid, hths] at hth'
    exact hrows sess (hs tid' th' sess hth' hsess)

theorem sess?_ofStmts {th : Thread} (h : Thread.ofStmts stmts = some th) : th.sess? = none := by
  cases stmts with
  | nil => cases h
  | cons =>
    cases h
    rfl

theorem sess?_ofPreparation (sess : Session) (stmts : List Stmt) :
    (Thread.ofPreparation sess stmts).sess? = some sess := by
  cases stmts <;> rfl

/-! ### What a step does to the handlers and the rows -/

variable {l : Label}

/-- **Rows change in place, or one is added under a new id**, and only a tick moves the clock. -/
structure Frame (s : State) (l : Label) (t : State) : Prop where
  now : (∀ d, l ≠ .tick d) → t.now = s.now
  rows : (∃ f : Session → Session, (∀ r : Session, r.Keeps (f r)) ∧ t.sessions = s.sessions.map f) ∨
    ∃ sess, sess.id ∉ s.sessions.map (·.id) ∧ sess.state = .requested ∧
      t.sessions = s.sessions ++ [sess]

theorem frame_of_eq (hnow : (∀ d, l ≠ .tick d) → t.now = s.now) (hsess : t.sessions = s.sessions) :
    Frame s l t :=
  ⟨hnow, .inl ⟨id, Session.Keeps.refl, by rw [hsess, map_id]⟩⟩

/-- At most one handler moves, and it is the one that the label names. -/
inductive Moves (s : State) (l : Label) : State → Prop
  | idle {t : State} (frame : Frame s l t) (threads : t.threads = s.threads) : Moves s l t
  | moved {u : State} {tid : ThreadID} {th : Option Thread} (frame : Frame s l u)
      (threads : u.threads = s.threads) (handler : l.handler? = some tid)
      /- A handler does not begin under the name of another, and it does not decide again. -/
      (decides : (∃ out, l = .exec tid out) ∨ ∀ stmts, s.threads tid ≠ some (.running stmts))
      (copy : ∀ th' sess, th = some th' → th'.sess? = some sess → sess ∈ u.sessions ∨
        ∃ th₀ sess₀, s.threads tid = some th₀ ∧ th₀.sess? = some sess₀ ∧
          sess₀.id = sess.id ∧ sess₀.deviceID = sess.deviceID) : Moves s l (u.setThread tid th)
  | restarted {t : State} {out : Outcome} {rows : List InterruptedSession}
      (hl : l = .restart out rows) (frame : Frame s l t)
      (threads : ∀ tid th, t.threads tid = some th → th.sess? = none) : Moves s l t

theorem Moves.of_setThread (hhand : l.handler? = some tid) (hnow : u.now = s.now)
    (hsess : u.sessions = s.sessions) (hths : u.threads = s.threads)
    (hdecides : ∀ stmts, s.threads tid ≠ some (.running stmts))
    (hcopy : ∀ th' sess, th = some th' → th'.sess? = some sess → sess ∈ u.sessions ∨
      ∃ th₀ sess₀, s.threads tid = some th₀ ∧ th₀.sess? = some sess₀ ∧
        sess₀.id = sess.id ∧ sess₀.deviceID = sess.deviceID) : Moves s l (u.setThread tid th) :=
  .moved (frame_of_eq (fun _ ↦ hnow) hsess) hths hhand (.inr hdecides) hcopy

section

variable (h : step s l = some t)
include h

/-- `Moves` has everything that a step can do. -/
theorem moves_of_step : Moves s l t := by
  cases step_cases h with
  | tick d => exact .idle (frame_of_eq (fun hl ↦ absurd rfl (hl d)) rfl) rfl
  | openTerminal hnew hfree | openTunnel hnew hfree =>
    refine .moved ⟨fun _ ↦ rfl, .inr ⟨_, hnew, rfl, rfl⟩⟩ rfl rfl (.inr (by simp [hfree])) ?_
    rintro th' sess ⟨⟩ ⟨⟩
    exact .inl (mem_append_right _ (mem_singleton_self _))
  | openMaintenance _ hth | unmaintained hth | endStream hth =>
    refine .of_setThread rfl rfl rfl rfl (by simp [hth]) ?_
    rintro th' sess' ⟨⟩ ⟨⟩
    exact .inr ⟨_, _, hth, rfl, rfl, rfl⟩
  | agentReply hth =>
    refine .of_setThread rfl rfl rfl rfl (by simp [hth]) fun th' sess' hth' hsess' ↦ ?_
    cases (sess?_ofStmts hth').symm.trans hsess'
  | notClosed | notAgentClosed | notAttached | interruptFailed =>
    exact .idle (frame_of_eq (fun _ ↦ rfl) rfl) rfl
  | closeSession _ _ hfree | agentClose _ _ hfree =>
    exact .of_setThread rfl rfl rfl rfl (by simp [hfree]) (by rintro _ _ ⟨⟩ ⟨⟩)
  | attach hget _ hfree =>
    refine .of_setThread rfl rfl rfl rfl (by simp [hfree]) ?_
    rintro th' sess' ⟨⟩ ⟨⟩
    exact .inl (mem_of_get hget)
  | getStream hth hnext =>
    refine .of_setThread rfl rfl rfl rfl (by simp [hth]) ?_
    obtain rfl | rfl := hnext <;> rintro th' sess' ⟨⟩ ⟨⟩
    exact .inr ⟨_, _, hth, rfl, rfl, rfl⟩
  | reread hth | ended hth =>
    exact .of_setThread rfl rfl rfl rfl (by simp [hth]) (by rintro _ _ ⟨⟩ ⟨⟩)
  | interruptDevice hfree =>
    refine .moved ⟨fun _ ↦ rfl, .inl (s.interrupt_keeps _ _)⟩ rfl rfl (.inr (by simp [hfree])) ?_
    intro th' sess' hth' hsess'
    cases (sess?_ofStmts hth').symm.trans hsess'
  | interruptLate => exact .idle ⟨fun _ ↦ rfl, .inl (s.interrupt_keeps _ _)⟩ rfl
  | @prepare _ out _ stmt _ hth =>
    refine .moved ⟨fun _ ↦ stmt.attempt_now s out, .inl (stmt.attempt_keeps s out)⟩
      (stmt.attempt_threads s out) rfl (.inl ⟨out, rfl⟩) fun th' sess' hth' hsess' ↦ ?_
    cases hth'
    rw [sess?_ofPreparation] at hsess'
    cases hsess'
    exact .inr ⟨_, _, hth, rfl, rfl, rfl⟩
  | @exec _ out stmt _ _ _ hnext =>
    refine .moved ⟨fun _ ↦ stmt.attempt_now s out, .inl (stmt.attempt_keeps s out)⟩
      (stmt.attempt_threads s out) rfl (.inl ⟨out, rfl⟩) fun th' sess' hth' hsess' ↦ ?_
    obtain ⟨rfl, -⟩ | rfl := hnext
    · cases hth'
    · cases (sess?_ofStmts hth').symm.trans hsess'
  | restart hstop =>
    subst hstop
    refine .restarted rfl ⟨fun _ ↦ rfl, .inl (interrupt_keeps _ _ _)⟩ ?_
    refine forall_setThread_ofStmts (s := { s with threads := fun _ ↦ none }) ?_ rfl rfl
    rintro _ _ ⟨⟩
  | restartFailed _ hstop hnext =>
    subst hstop
    obtain rfl | rfl := hnext
    · exact .restarted rfl (frame_of_eq (fun _ ↦ rfl) rfl) (by rintro _ _ ⟨⟩)
    · exact .restarted rfl ⟨fun _ ↦ rfl, .inl (interrupt_keeps _ _ _)⟩ (by rintro _ _ ⟨⟩)

theorem frame_of_step : Frame s l t := by
  cases moves_of_step h with
  | idle frame | restarted _ frame => exact frame
  | moved frame => exact ⟨frame.now, frame.rows⟩

theorem threads_of_step (hl : l.handler? ≠ some tid) (hres : ∀ out rows, l ≠ .restart out rows) :
    t.threads tid = s.threads tid := by
  cases moves_of_step h with
  | idle _ hths => rw [hths]
  | @moved u tid' th _ hths hhand =>
    have htid : tid ≠ tid' := by
      rintro rfl
      exact hl hhand
    rw [u.setThread_threads_of_ne th htid, hths]
  | restarted heq => exact absurd heq (hres _ _)

/-- **Only `exec` moves a handler without a decision ahead**, while the server does not stop. -/
theorem threads_of_running (hth : s.threads tid = some (.running stmts))
    (hexec : ∀ out, l ≠ .exec tid out) (hres : ∀ out rows, l ≠ .restart out rows) :
    t.threads tid = some (.running stmts) := by
  by_cases hl : l.handler? = some tid
  swap
  · rw [threads_of_step h hl hres, hth]
  cases moves_of_step h with
  | idle _ hths => rw [hths, hth]
  | moved _ _ hhand hdecides =>
    cases hhand.symm.trans hl
    obtain ⟨out, heq⟩ | hnot := hdecides
    · exact absurd heq (hexec out)
    · exact absurd hth (hnot stmts)
  | restarted heq => exact absurd heq (hres _ _)

theorem ids_nodup_of_step (hnd : (s.sessions.map (·.id)).Nodup) :
    (t.sessions.map (·.id)).Nodup := by
  obtain ⟨f, hkeep, hrows⟩ | ⟨_, hnew, -, hrows⟩ := (frame_of_step h).rows
  · have hids : (s.sessions.map f).map (·.id) = s.sessions.map (·.id) := by
      rw [map_map]
      exact map_congr_left fun r _ ↦ (hkeep r).id
    rwa [hrows, hids]
  · rw [hrows, map_append, map_singleton, nodup_append]
    refine ⟨hnd, nodup_singleton _, fun id hid id' hid' ↦ ?_⟩
    obtain rfl := mem_singleton.1 hid'
    exact fun heq ↦ hnew (heq ▸ hid)

theorem Stored.of_step (hs : Stored s.sessions sess) : Stored t.sessions sess := by
  obtain ⟨f, hf, hrows⟩ | ⟨_, -, -, hrows⟩ := (frame_of_step h).rows
  · rw [hrows]
    exact hs.map hf
  · obtain ⟨r, hr, hrest⟩ := hs
    rw [hrows]
    exact ⟨r, mem_append_left _ hr, hrest⟩

end

theorem Copies.step (hs : Copies s) (h : step s l = some t) : Copies t := by
  have hkept : ∀ {sess}, Stored s.sessions sess → Stored t.sessions sess := Stored.of_step h
  cases moves_of_step h with
  | idle _ hths => exact fun tid th sess hth hsess ↦ hkept (hs tid th sess (hths ▸ hth) hsess)
  | moved _ hths _ _ hcopy =>
    refine hs.setThread hths (fun _ hstor ↦ hkept hstor) fun th' sess hth' hsess ↦ ?_
    obtain hmem | ⟨th₀, sess₀, hth₀, hsess₀, hid, hdev⟩ := hcopy th' sess hth' hsess
    · exact stored_of_mem hmem
    · obtain ⟨r, hr, hrest⟩ := hkept (hs _ th₀ sess₀ hth₀ hsess₀)
      exact ⟨r, hr, hrest.1.trans hid, hrest.2.trans hdev⟩
  | restarted _ _ hths =>
    intro tid th sess hth hsess
    cases (hths tid th hth).symm.trans hsess

end WartungsRemote.RemoteSession
