import WartungsRemote.Server.Channel

/-!
# Streams that have ended

When a stream ends on the agent, the pump reports it with `session_close`, and the session close
handler of the server closes the session, **if it finds it active**. The session becomes active in
another goroutine: the read loop passes the agent's answer on, and the handler that waits for it
calls `SetState`. If the report overtakes that handler then it is ignored, and the session stays
active although its stream has ended.

A step is `Attentive` if it does not handle a report while the session is still being opened, and if
the database does not fail a close. Then a report is followed by a handler that closes the session
(`Done`): nobody makes the session active any more, and if it is active then somebody is closing it.
-/

namespace WartungsRemote.Server.Channel

open Function List RemoteSession Agent
open ControlHub (ConnID)
open Transition

/-! ### Rows and handlers -/

/-- A handler is closing the session, and its context is not cancelled. -/
def Closer (owes : ThreadID → Option Notice) (svc : RemoteSession.State) (id : UUID)
    (tid : ThreadID) : Prop :=
  ∃ sess stmts, sess.id = id ∧ svc.threads tid = some (.running stmts) ∧ Closing sess stmts ∧
    ∀ notice, owes tid = some notice → notice.cancellable = false

/-- The handler may still make the session active. -/
def Opening (th : Thread) (id : UUID) : Prop :=
  th.opening = some id ∨ ∃ state, .setState id state ∈ th.stmts

/-- Nobody makes the session active any more, and if it is active then a handler is closing it. -/
structure Done (owes : ThreadID → Option Notice) (svc : RemoteSession.State) (id : UUID) :
    Prop where
  opening : ∀ tid th, svc.threads tid = some th → ¬ Opening th id
  active : ∀ r ∈ svc.sessions, r.id = id → r.state = .active → ∃ tid, Closer owes svc id tid

section Service

variable {owes : ThreadID → Option Notice} {svc svc' : RemoteSession.State}
  {l : RemoteSession.Label} {id : UUID}

variable {stmts : List Stmt} {tid : ThreadID} {out : Outcome} {r' : Session}

theorem not_opening_of_closing {sess : Session} (h : Closing sess stmts) (id : UUID) :
    ¬ Opening (.running stmts) id := by
  rintro (hid | ⟨_, hmem⟩)
  · cases hid
  · cases h.not_required _ hmem

theorem owing_of_running (hstep : RemoteSession.step svc l = some svc')
    (hth : svc.threads tid = some (.running stmts)) : owing owes svc l tid = owes tid := by
  rcases hcls : closes svc l with _ | ⟨n, _⟩
  · simp only [owing, hcls]
  · obtain ⟨-, -, -, -, hne⟩ := closing_of_closes hstep hcls
    have htid : tid ≠ .request n := by
      rintro rfl
      exact hne stmts hth
    simp only [owing, hcls, update_of_ne htid]

theorem Closer.step (h : Closer owes svc id tid) (hstep : RemoteSession.step svc l = some svc')
    (hexec : ∀ out, l ≠ .exec tid out) (hres : ∀ out rows, l ≠ .restart out rows) :
    Closer (owing owes svc l) svc' id tid := by
  obtain ⟨sess, stmts, hid, hth, hclos, hcanc⟩ := h
  refine ⟨sess, stmts, hid, threads_of_running hstep hth hexec hres, hclos, ?_⟩
  rwa [owing_of_running hstep hth]

section

variable (h : ∀ tid th, svc.threads tid = some th → ¬ Opening th id)
  (hreg : RemoteSession.Regular svc)
include h hreg

theorem active_of_attempt {stmt : Stmt} (hth : svc.threads tid = some (.running (stmt :: stmts)))
    (hr' : r' ∈ (stmt.attempt svc out).sessions) (hid : r'.id = id) (hact : r'.state = .active) :
    (∃ r ∈ svc.sessions, r.id = id ∧ r.state = .active) ∧
      ∀ state reason, stmt = .close id state reason → out = .failed := by
  subst hid
  obtain ⟨hr, hnot⟩ | ⟨-, r, hr, hid, ⟨_, rfl, -, hst⟩ | ⟨rfl | ⟨_, rfl⟩, -⟩⟩ := row_attempt hr'
  · refine ⟨⟨r', hr, rfl, hact⟩, fun state reason heq ↦ ?_⟩
    by_contra hok
    exact hnot hok state reason heq
  · exact ⟨⟨r, hr, hid, hst.symm.trans hact⟩, by simp⟩
  · exact absurd (.inr ⟨_, mem_cons_self⟩) (h tid _ hth)
  · exact absurd hact (hreg tid _ hth _ _ _ mem_cons_self)

/-- Nobody begins to open a session that has its row. -/
theorem not_opening_of_step (hrow : id ∈ svc.sessions.map (·.id))
    (hstep : RemoteSession.step svc l = some svc') (hres : ∀ out rows, l ≠ .restart out rows) :
    ∀ tid th, svc'.threads tid = some th → ¬ Opening th id := by
  rcases hcls : closes svc l with _ | ⟨n, sess⟩
  · cases move_of_step hstep hreg hcls hres with
    | idle _ hths => rwa [hths]
    | opened hnew _ _ hths hsts hopng =>
      refine forall_setThread_some h hths ?_
      rintro (hid | ⟨state, hmem⟩)
      · rw [hopng] at hid
        exact hnew (Option.some.inj hid ▸ hrow)
      · rw [hsts] at hmem
        cases hmem
    | @moved _ tid _ _ hths hsts hopng =>
      refine forall_setThread h hths fun th' hth' ↦ ?_
      rintro (hid | ⟨state, hmem⟩)
      · obtain ⟨th₀, hth₀, hid₀⟩ := hopng th' id hth' hid
        exact h tid th₀ hth₀ (.inl hid₀)
      · rw [hsts th' hth'] at hmem
        cases hmem
    | @replied _ _ sess _ hth =>
      refine forall_setThread_ofStmts h rfl ?_
      rintro (hid | ⟨state, hmem⟩)
      · cases hid
      · have hid : id = sess.id := setState_mem_replyStmts hmem
        exact h _ _ hth (.inl (hid ▸ rfl))
    | @ran tid out stmt _ _ _ hth hnext =>
      refine forall_setThread_rest h (stmt.attempt_threads svc out) hnext ?_
      rintro (hid | ⟨state, hmem⟩)
      · cases hid
      · exact h tid _ hth (.inr ⟨state, mem_cons_of_mem _ hmem⟩)
    | interrupted _ _ hu ht =>
      subst hu
      obtain rfl | rfl := ht
      · exact h
      · refine forall_setThread_ofStmts h rfl ?_
        rintro (hid | ⟨state, hmem⟩)
        · cases hid
        · cases writes_of_mem_disconnectStmts hmem
  · obtain ⟨_, rfl, hclos, -⟩ := closing_of_closes hstep hcls
    exact forall_setThread_some h rfl (not_opening_of_closing hclos id)

theorem active_of_step (hstep : RemoteSession.step svc l = some svc')
    (hres : ∀ out rows, l ≠ .restart out rows) (hr' : r' ∈ svc'.sessions) (hid : r'.id = id)
    (hact : r'.state = .active) : ∃ r ∈ svc.sessions, r.id = id ∧ r.state = .active := by
  rcases hcls : closes svc l with _ | ⟨n, _⟩
  · cases move_of_step hstep hreg hcls hres with
    | idle hsess => exact ⟨r', hsess ▸ hr', hid, hact⟩
    | opened _ hst hsess =>
      rw [State.setThread_sessions, hsess] at hr'
      obtain hr' | rfl := mem_snoc.1 hr'
      · exact ⟨r', hr', hid, hact⟩
      · rw [hst] at hact
        cases hact
    | moved hrows =>
      obtain ⟨f, hsess, hf⟩ := hrows
      rw [State.setThread_sessions, hsess] at hr'
      obtain ⟨r, hr, rfl⟩ := mem_map.1 hr'
      exact ⟨r, hr, (hf r).1.symm.trans hid, (hf r).2.symm.trans hact⟩
    | replied => exact ⟨r', hr', hid, hact⟩
    | ran _ hth => exact (active_of_attempt h hreg hth hr' hid hact).1
    | @interrupted u _ _ _ _ _ _ _ hu ht =>
      have hrow : r' ∈ u.sessions := by
        obtain rfl | rfl := ht <;> exact hr'
      subst hu
      obtain ⟨r, hr, rfl⟩ := mem_map.1 hrow
      split_ifs at hact
      next hmiss =>
        rw [if_neg hmiss] at hid
        exact ⟨r, hr, hid, hact⟩
  · obtain ⟨_, rfl, -⟩ := closing_of_closes hstep hcls
    exact ⟨r', hr', hid, hact⟩

/-- The handler closing the session executes a statement, and the database does not fail it. -/
theorem closer_of_exec (hcloser : Closer owes svc id tid)
    (hstep : svc.exec tid out = some svc') (hcl : out = .failed → ∀ reason rest,
      svc.threads tid ≠ some (.running (.close id .closed reason :: rest))) (hr' :
      r' ∈ svc'.sessions)
    (hid : r'.id = id) (hact : r'.state = .active) : Closer owes svc' id tid := by
  obtain ⟨sess, _, rfl, hth, hclos, hcanc⟩ := hcloser
  obtain ⟨stmt, rest, _, rfl, hnext, rfl⟩ := exec_of_running hstep hth
  -- the row is still active, so this was not the close
  have hnot : ∀ reason, stmt ≠ .close sess.id .closed reason := by
    rintro reason rfl
    exact hcl ((active_of_attempt h hreg hth hr' hid hact).2 _ reason rfl) reason rest hth
  have hrest := hclos.of_cons hnot
  obtain ⟨-, -, hreqd⟩ | rfl := hnext
  · rw [hclos.not_required stmt mem_cons_self] at hreqd
    cases hreqd
  · exact ⟨sess, rest, rfl, State.setThread_threads_self.trans hrest.ofStmts, hrest, hcanc⟩

end

/-- What is done stays done, as long as the close does not fail. -/
theorem Done.step (h : Done owes svc id) (hreg : RemoteSession.Regular svc)
    (hrow : id ∈ svc.sessions.map (·.id)) (hstep : RemoteSession.step svc l = some svc')
    (hres : ∀ out rows, l ≠ .restart out rows)
    (hcl : ∀ tid, l = .exec tid .failed → ∀ reason rest,
      svc.threads tid ≠ some (.running (.close id .closed reason :: rest))) :
    Done (owing owes svc l) svc' id where
  opening := not_opening_of_step h.opening hreg hrow hstep hres
  active r' hr' hid hact := by
    obtain ⟨r, hr, hrid, hractive⟩ := active_of_step h.opening hreg hstep hres hr' hid hact
    obtain ⟨tid, hcloser⟩ := h.active r hr hrid hractive
    refine ⟨tid, ?_⟩
    by_cases hexec : ∃ out, l = .exec tid out
    · obtain ⟨out, rfl⟩ := hexec
      refine closer_of_exec h.opening hreg hcloser hstep ?_ hr' hid hact
      rintro rfl
      exact hcl tid rfl
    · exact hcloser.step hstep (fun out heq ↦ hexec ⟨out, heq⟩) hres

theorem Done.setOwes (h : Done owes svc id) (tid : ThreadID) :
    Done (Function.update owes tid none) svc id where
  opening := h.opening
  active r hr hid hact := by
    obtain ⟨tid', sess, stmts, hsess, hth, hclos, hcanc⟩ := h.active r hr hid hact
    refine ⟨tid', sess, stmts, hsess, hth, hclos, fun notice howes ↦ ?_⟩
    by_cases htid : tid' = tid
    · rw [htid, update_self] at howes
      cases howes
    · rw [update_of_ne htid] at howes
      exact hcanc notice howes

end Service

/-! ### Runs -/

/-- A report is not handled while its session is being opened, and the database does not fail a
close. -/
def Attentive (s : State) : Label → Prop
  | .readLoop c _ => ∀ id rest, (s.link c).toServer = .sessionClose id :: rest →
      ∀ tid th, s.svc.threads tid = some th → ¬ Opening th id
  | .session (.exec tid .failed) => ∀ id reason rest,
      s.svc.threads tid ≠ some (.running (.close id .closed reason :: rest))
  | _ => True

/-- A session whose stream has ended on a connection is not active. -/
def EndedNotActive (s : State) : Prop :=
  ∀ c, (s.link c).cut = false → ∀ id ∈ (s.link c).finished, ∀ r ∈ s.svc.sessions, r.id = id →
    r.state ≠ .active

/-- The end of a stream will be reported, or has been taken care of. -/
structure Accounted (s : State) : Prop where
  consistent : Consistent s
  ended : ∀ c, (s.link c).cut = false → ∀ id ∈ (s.link c).finished, (s.link c).Reports id ∨
    Done s.owes s.svc id

section Runs

variable {cfg : ControlHub.Config} {s t : State} {l : Label} {c : ConnID} {k : Link} {id : UUID}

theorem accounted_init : Accounted .init where
  consistent := consistent_init
  ended := nofun

theorem Consistent.mem_ids (h : Consistent s) (hid : id ∈ (s.link c).finished) :
    id ∈ s.svc.sessions.map (·.id) := by
  obtain ⟨r, hr, hrid, -⟩ := h.home id c (h.finished c id hid)
  exact mem_map.2 ⟨r, hr, hrid⟩

variable {svc : RemoteSession.State} {notice : Notice} {tid : ThreadID}
  {conn : ControlHub.Connection} {n : ℕ}

theorem Done.cancel (h : Done s.owes s.svc id) (howes : s.owes tid = some notice)
    (hcanc : notice.cancellable = true) : Done s.owes (s.cancel tid).svc id := by
  unfold State.cancel
  split
  next stmts hth =>
    constructor
    · refine forall_setThread_ofStmts h.opening rfl ?_
      rintro (hid | ⟨state, hmem⟩)
      · cases hid
      · exact h.opening tid _ hth (.inr ⟨state, (mem_filter.1 hmem).1⟩)
    · intro r hr hid hact
      obtain ⟨tid', sess, stmts', hsess, hth', hclos, hcanc'⟩ := h.active r hr hid hact
      have htid : tid' ≠ tid := by
        rintro rfl
        rw [hcanc' notice howes] at hcanc
        cases hcanc
      exact ⟨tid', sess, stmts', hsess, (State.setThread_threads_of_ne _ _ htid).trans hth',
        hclos, hcanc'⟩
  · exact h

/-- **A report is taken care of**: the session close handler closes the session if it is active,
unless somebody is still opening it. -/
theorem done_of_reported (hs : Consistent s) (hph : s.hub.phase c = .serving conn)
    (hid : id ∈ (s.link c).finished) (hopng : ∀ tid th, s.svc.threads tid = some th →
      ¬ Opening th id)
    (hsvc : RemoteSession.step s.svc (.agentClose n conn.deviceID id "stream_ended") = some svc) :
    Done (owing s.owes s.svc (.agentClose n conn.deviceID id "stream_ended")) svc id where
  opening := not_opening_of_step hopng hs.regular (hs.mem_ids hid) hsvc (by simp)
  active r' hr' hid' hact' := by
    obtain ⟨r, hr, hrid, hact⟩ := active_of_step hopng hs.regular hsvc (by simp) hr' hid' hact'
    -- the report came on the connection of the session's device
    obtain ⟨r₀, hr₀, hrid₀, hjoin⟩ := hs.home id c (hs.finished c id hid)
    obtain rfl : r = r₀ := inj_on_of_nodup_map hs.ids_nodup hr hr₀ (hrid.trans hrid₀.symm)
    rw [hph] at hjoin
    have hdev : conn.deviceID = r.deviceID := hjoin
    have hget : s.svc.get id = some r := (get_eq_some_iff hs.ids_nodup).2 ⟨hr, hrid⟩
    have hcls : closes s.svc (.agentClose n conn.deviceID id "stream_ended") = some (n, r) := by
      simp [closes, hget, hdev, hact]
    obtain ⟨stmts, rfl, hclos, -⟩ := closing_of_closes hsvc hcls
    refine ⟨.request n, r, stmts, hrid, State.setThread_threads_self, hclos, ?_⟩
    simp only [owing, hcls, update_self]
    rintro notice ⟨⟩
    rfl

section

variable (h : Accounted s)
include h

theorem Accounted.withHub {hl : ControlHub.Label} {hub : ControlHub.State}
    (hhub : ControlHub.step cfg s.hub hl = some hub) : Accounted (s.withHub hub) where
  consistent := h.consistent.withHub hhub
  ended := h.ended

theorem Accounted.ended_setLink
    (hk : k.cut = false → (s.link c).cut = false ∧ ∀ id ∈ k.finished, k.Reports id ∨
      id ∈ (s.link c).finished ∧ ((s.link c).Reports id → k.Reports id ∨ Done s.owes s.svc id)) :
    ∀ c', ((s.setLink c k).link c').cut = false → ∀ id ∈ ((s.setLink c k).link c').finished,
      ((s.setLink c k).link c').Reports id ∨ Done s.owes s.svc id := by
  refine (forall_update_iff s.link fun _ k ↦ k.cut = false → ∀ id ∈ k.finished,
    k.Reports id ∨ Done s.owes s.svc id).2 ⟨fun hcut id hid ↦ ?_, fun c' _ ↦ h.ended c'⟩
  obtain ⟨hcut', hkept⟩ := hk hcut
  obtain hrep | ⟨hold, hrep⟩ := hkept id hid
  · exact .inl hrep
  · obtain hreported | hdone := h.ended c hcut' id hold
    · exact hrep hreported
    · exact .inr hdone

theorem Accounted.broken (c : ConnID) : Accounted (s.setLink c (s.link c).broken) :=
  ⟨h.consistent.broken c, h.ended_setLink nofun⟩

theorem Accounted.send {m : ToAgent} (hcons : Consistent (s.setLink c ((s.link c).send m))) :
    Accounted (s.setLink c ((s.link c).send m)) :=
  ⟨hcons, h.ended_setLink fun hcut ↦ ⟨hcut, fun _ hid ↦ .inr ⟨hid, .inl⟩⟩⟩

theorem Accounted.agent {a : Action} (hk : (s.link c).step a = some k)
    (hcons : Consistent (s.setLink c k)) : Accounted (s.setLink c k) := by
  refine ⟨hcons, h.ended_setLink fun hcut ↦ ⟨Link.cut_of_step hk ▸ hcut, fun id hid ↦ ?_⟩⟩
  obtain hold | ⟨-, hrep⟩ := Link.finished_of_step hk hid
  · exact .inr ⟨hold, fun hrep ↦ .inl (Link.reports_of_step hk hrep)⟩
  · exact .inl hrep

theorem Accounted.withSvc {sl : RemoteSession.Label}
    (hsvc : RemoteSession.step s.svc sl = some svc) (hres : ∀ out rows, sl ≠ .restart out rows)
    (hcl : ∀ tid, sl = .exec tid .failed → ∀ id reason rest,
      s.svc.threads tid ≠ some (.running (.close id .closed reason :: rest))) :
    Accounted { s.withSvc svc with owes := owing s.owes s.svc sl } where
  consistent := h.consistent.withSvc hsvc hres (h.consistent.owing sl)
  ended c hcut id hid := (h.ended c hcut id hid).imp_right fun hdone ↦
    hdone.step h.consistent.regular (h.consistent.mem_ids hid) hsvc hres fun tid hl ↦ hcl tid hl id

theorem Accounted.setOwes (tid : ThreadID) : Accounted (s.setOwes tid none) where
  consistent := h.consistent.setOwes tid
  ended c hcut id hid := (h.ended c hcut id hid).imp_right fun hdone ↦ hdone.setOwes tid

theorem Accounted.cancel (howes : s.owes tid = some notice)
    (hcanc : notice.cancellable = true) : Accounted ((s.cancel tid).setOwes tid none) := by
  have hsame : (s.cancel tid).link = s.link ∧ (s.cancel tid).owes = s.owes := by
    unfold State.cancel
    split <;> exact ⟨rfl, rfl⟩
  refine Accounted.setOwes ⟨h.consistent.cancel tid, ?_⟩ tid
  rw [hsame.1, hsame.2]
  exact fun c hcut id hid ↦ (h.ended c hcut id hid).imp_right fun hdone ↦ hdone.cancel howes hcanc

theorem Accounted.reported {rest : List ToServer}
    (hph : s.hub.phase c = .serving conn) (htoS : (s.link c).toServer = .sessionClose id :: rest)
    (hopng : ∀ tid th, s.svc.threads tid = some th → ¬ Opening th id)
    (hsvc : RemoteSession.step s.svc (.agentClose n conn.deviceID id "stream_ended") = some svc)
    (hcons : Consistent { (s.withSvc svc).setLink c { s.link c with toServer := rest } with
      owes := owing s.owes s.svc (.agentClose n conn.deviceID id "stream_ended") }) :
    Accounted { (s.withSvc svc).setLink c { s.link c with toServer := rest } with
      owes := owing s.owes s.svc (.agentClose n conn.deviceID id "stream_ended") } := by
  refine ⟨hcons, (h.withSvc hsvc (by simp) (by simp)).ended_setLink fun hcut ↦
    ⟨hcut, fun id' hid' ↦ .inr ⟨hid', ?_⟩⟩⟩
  rintro (hend | hmem)
  · exact .inl (.inl hend)
  · by_cases heq : id' = id
    · subst heq
      exact .inr (done_of_reported h.consistent hph hid' hopng hsvc)
    · have hmem' : .sessionClose id' ∈ (s.link c).toServer := hmem
      rw [htoS] at hmem'
      exact .inl (.inr ((mem_cons.1 hmem').resolve_left (by simp [heq])))

/-- **Every attentive step keeps each ended stream accounted for.** -/
theorem Accounted.step (hstep : Step cfg s l t) (hatt : Attentive s l) : Accounted t := by
  have hcons := h.consistent.step hstep
  cases hstep with
  | tick hhub hsvc => exact (h.withHub hhub).withSvc hsvc (by simp) (by simp)
  | hub hhub => exact h.withHub hhub
  | endRead hhub => exact (h.withHub hhub).broken _
  | session hsvc _ _ hshar =>
    refine h.withSvc hsvc ?_ ?_
    · rintro out rows rfl
      cases hshar
    · rintro tid rfl
      exact hatt
  | notify _ _ hsvc => exact ⟨hcons, (h.withSvc hsvc (by simp) (by simp)).ended⟩
  | sendOpen => exact ⟨hcons, h.ended_setLink fun hcut ↦ ⟨hcut, fun _ hid ↦ .inr ⟨hid, .inl⟩⟩⟩
  | wake _ _ hsvc | giveUp hsvc => exact h.withSvc hsvc (by simp) (by simp)
  | unsent => exact h.setOwes _
  | sent => exact (h.send (h.consistent.sendClose _ _)).setOwes _
  | broke => exact (h.broken _).setOwes _
  | cancelled howes hcanc => exact h.cancel howes hcanc
  | agent hk => exact h.agent hk hcons
  | answered htoS =>
    refine ⟨hcons, h.ended_setLink fun hcut ↦ ⟨hcut, fun id' hid' ↦ .inr ⟨hid', ?_⟩⟩⟩
    rintro (hend | hmem)
    · exact .inl (.inl hend)
    · rw [htoS] at hmem
      exact .inl (.inr ((mem_cons.1 hmem).resolve_left (by simp)))
  | reported hph htoS hsvc =>
    exact h.reported hph htoS (hatt _ _ htoS) hsvc hcons
  | cut => exact h.broken _

theorem endedNotActive_of_quiet (hqui : Quiet s) : EndedNotActive s := by
  intro c hcut id hid r hr hrid hact
  obtain ⟨-, htoS, -, hend⟩ := hqui.2 c hcut
  obtain (hmem | hmem) | hdone := h.ended c hcut id hid
  · rw [hend] at hmem
    cases hmem
  · rw [htoS] at hmem
    cases hmem
  · obtain ⟨tid, -, _, -, hth, -⟩ := hdone.active r hr hrid hact
    rw [hqui.1 tid] at hth
    cases hth

end

/-- **A stream that has ended does not leave its session active, as long as no report overtakes the
handler that opens it and the database does not fail the close.** -/
theorem endedNotActive_of_attentive (cfg : ControlHub.Config) {labels : List Label}
    (hrun : exec (step cfg) .init labels = some s)
    (hatt : Along (step cfg) (fun s l _ ↦ Attentive s l) .init labels) (hqui : Quiet s) :
    EndedNotActive s := by
  have hinv : Accounted s := invariant_of_along (I := Accounted)
    (fun _ _ _ hs h hatt ↦ hs.step (step_cases h) hatt) accounted_init hrun hatt
  exact endedNotActive_of_quiet hinv hqui

end Runs

namespace Sample

/-- The agent's stream ends, and its report is handled when the session is active. -/
def reported : List Label :=
  connected ++ asked 5 ++ agentOpens ++ [.readLoop 0 0] ++ activated ++
    [.agent 0 (.streamEnds 5), .agent 0 (.report 5), .readLoop 0 0,
      .session (.exec (.request 0) .ok), .sendClose (.request 0) .sent,
        .session (.exec (.request 0) .ok), .agent 0 .handleSessionClose]

/-- The stream ends at once; the read loop handles answer and report before the waiting handler
runs. -/
def overtaken : List Label :=
  connected ++ asked 5 ++ agentOpens ++
    [.agent 0 (.streamEnds 5), .agent 0 (.report 5), .readLoop 0 0, .readLoop 0 0] ++ activated

/-- Reports are handled when the only handler has finished, and the database does not fail. -/
def unhurried (s : State) : Label → Bool
  | .readLoop c _ =>
    match (s.link c).toServer with
    | .sessionClose _ :: _ => (s.svc.threads (.request 0)).isNone
    | _ => true
  | .session (.exec _ .failed) => false
  | _ => true

/-- A run with one handler that is unhurried is attentive. -/
theorem attentive_of_unhurried {cfg : ControlHub.Config} {labels : List Label}
    (h : Along (step cfg) (fun s l _ ↦ (l.handler? = none ∨ l.handler? = some (.request 0)) ∧
      unhurried s l = true) .init labels) : Along (step cfg) (fun s l _ ↦ Attentive s l) .init
        labels := by
  refine along_of_invariant (I := fun s ↦ ∀ tid, tid ≠ .request 0 → s.svc.threads tid = none) ?_ ?_
    (fun _ _ ↦ rfl) h
  · rintro s l t hs hstep ⟨hname, -⟩ tid htid
    rw [threads_of_step (step_cases hstep) (by rcases hname with h | h <;> simp [h, Ne.symm htid]),
      hs tid htid]
  · rintro s l t hs hstep ⟨-, hcalm⟩
    cases l with
    | readLoop =>
      intro id rest htoS tid th hth
      simp only [unhurried, htoS, Option.isNone_iff_eq_none] at hcalm
      by_cases htid : tid = .request 0
      · rw [htid, hcalm] at hth
        cases hth
      · rw [hs tid htid] at hth
        cases hth
    | session sl =>
      cases sl with
      | exec _ out =>
        cases out with
        | failed => cases hcalm
        | ok | failedLate => trivial
      | _ => trivial
    | _ => trivial

end Sample

theorem endedNotActive_of_attentive_reported : ∃ s,
    exec (step ControlHub.Sample.config) .init Sample.reported = some s ∧ Quiet s ∧
      (s.link 0).finished = [5] ∧ EndedNotActive s := by
  refine exists_of_exec (fun s ↦ s.svc.threads (.request 0) = none ∧ LinkQuiet (s.link 0) ∧
        (s.link 0).finished = [5]) (by decide +kernel)
    fun s hrun ⟨hth, hlink, hfin⟩ ↦ ?_
  have hqui : Quiet s := quiet_of_exec hrun (by decide +kernel) hth hlink
  have hatt : Along (step ControlHub.Sample.config) (fun s l _ ↦ Attentive s l) .init
      Sample.reported :=
    Sample.attentive_of_unhurried (by decide +kernel)
  exact ⟨hqui, hfin, endedNotActive_of_attentive _ hrun hatt hqui⟩

/-- The report is handled before `SetState`. It finds the session `requested` and is ignored; then
the session becomes active for good. -/
theorem not_endedNotActive_overtaken : ∃ s,
    exec (step ControlHub.Sample.config) .init Sample.overtaken = some s ∧ Quiet s ∧
      ¬ EndedNotActive s := by
  refine exists_of_exec (fun s ↦ s.svc.threads (.request 0) = none ∧ LinkQuiet (s.link 0) ∧
        (s.link 0).finished = [5] ∧ (s.link 0).cut = false ∧ ∃ r ∈ s.svc.sessions, r.id = 5 ∧
        r.state = .active) (by decide +kernel)
    fun s hrun ⟨hth, hlink, hfin, hcut, r, hr, hid, hact⟩ ↦ ?_
  refine ⟨quiet_of_exec hrun (by decide +kernel) hth hlink, fun hend ↦ ?_⟩
  exact hend 0 hcut 5 (hfin ▸ mem_cons_self) r hr hid hact

end WartungsRemote.Server.Channel
