import WartungsRemote.Server.Channel

/-!
# Sessions that outlive their row

A stream that the agent has open should belong to a session that the server takes for requested,
opening or active. Both sides hear of each other through messages only, so this can be asked when
nothing is on its way and no handler is running (`Quiet`). It fails when `OpenTerminal` or
`OpenTunnel` **gives up too early**: the agent opens the stream, and its answer finds nobody
waiting; the row is `failed` and nobody closes the stream.

A step is `Orderly` if it does not end a session behind the back of a connected agent: a handler
that gave up closes the row only if the agent was never asked or is gone, a disconnect interrupts
only such sessions, and no `session_close` is dropped; and if `session_open` is not sent for a row
that has ended in the meantime.

`ServiceFits` is about rows and handlers and takes from the agents two sets of sessions: those that
an agent has dealt with, and those that are settled. `Agrees` is about the connections, and provides
the two sets.
-/

namespace WartungsRemote.Server.Channel

open Function List Option Channel.State RemoteSession
open Agent (Action Link ToAgent ToServer)
open ControlHub (ConnID)
open Transition

/-! ### Rows and handlers -/

section Service

/-- An active session's row belongs to one that the agent has dealt with, and an ended one's to one
that is settled. -/
def RowFits (known settled : UUID → Prop) (r : Session) : Prop :=
  (r.state = .active → known r.id) ∧ (r.state.interruptible = false → settled r.id)

/-- A handler makes a session active that the agent has dealt with, and closes one that is settled,
perhaps with the agent still to be told, or given up on. -/
def StmtFits (known settled : UUID → Prop) (notice : Option Notice) : Stmt → Prop
  | .setState id state => state = .active ∧ known id
  | .close id state reason =>
    state = .failed ∧ reason = "agent_unreachable" ∨ known id ∧ (notice = none → settled id)
  | _ => True

/-- The rows and the handlers fit what the agents have dealt with and what is settled. -/
structure ServiceFits (known settled : UUID → Prop) (owes : ThreadID → Option Notice)
    (svc : RemoteSession.State) : Prop where
  rows : ∀ r ∈ svc.sessions, RowFits known settled r
  handlers : ∀ tid th, svc.threads tid = some th → ∀ stmt ∈ th.stmts, StmtFits known settled
    (owes tid) stmt
  owed : ∀ tid notice, owes tid = some notice →
    ∃ stmts, svc.threads tid = some (.running stmts) ∧ Closing notice.sess stmts

/-- What the rest of the system says about a step of the session service. -/
def Proper (known settled : UUID → Prop) (owes : ThreadID → Option Notice)
    (svc : RemoteSession.State) : RemoteSession.Label → Prop
  | .agentReply n reply => ∀ sess, svc.threads (.request n) = some (.awaiting sess) →
      reply = .unreachable ∨ known sess.id ∧ (reply = .rejected → settled sess.id)
  | .exec tid out => holdsBack owes svc tid = false ∧ (out ≠ .failed → ∀ id rest,
      svc.threads tid = some (.running (.close id .failed "agent_unreachable" :: rest)) →
        settled id)
  | .interruptDevice _ deviceID out _ => out ≠ .failed →
      ∀ r ∈ svc.sessions, r.deviceID = deviceID → r.state.interruptible → settled r.id
  | .restart _ _ => False
  | _ => True

variable {known settled : UUID → Prop} {owes : ThreadID → Option Notice}
  {svc svc' : RemoteSession.State} {l : RemoteSession.Label}

theorem Proper.ne_restart (h : Proper known settled owes svc l) (out : Outcome)
    (rows : List InterruptedSession) : l ≠ .restart out rows := by
  rintro rfl
  exact h

variable {stmt : Stmt} {sess : Session} {stmts : List Stmt}

theorem stmtFits_of_writes {notice : Option Notice} (h : stmt.writes = none) :
    StmtFits known settled notice stmt := by
  cases stmt with
  | setState | close => cases h
  | _ => trivial

theorem ServiceFits.mono (h : ServiceFits known settled owes svc) {known' settled' : UUID → Prop}
    (hknown : ∀ id, known id → known' id)
    (hsett : ∀ id, (known id ∨ ∃ r ∈ svc.sessions, r.id = id ∧ r.state.interruptible = false) →
      settled id → settled' id) : ServiceFits known' settled' owes svc where
  rows r hr := by
    obtain ⟨hact, hended⟩ := h.rows r hr
    exact ⟨fun hr' ↦ hknown _ (hact hr'), fun hr' ↦ hsett _ (.inr ⟨r, hr, rfl, hr'⟩) (hended hr')⟩
  handlers tid th hth stmt hstmt := by
    have hfits := h.handlers tid th hth stmt hstmt
    cases stmt with
    | setState id => exact ⟨hfits.1, hknown id hfits.2⟩
    | close id =>
      obtain hunr | ⟨hid, hend⟩ := hfits
      · exact .inl hunr
      · exact .inr ⟨hknown id hid, fun hnone ↦ hsett id (.inl hid) (hend hnone)⟩
    | _ => trivial
  owed := h.owed

theorem rows_attempt (hrows : ∀ r ∈ svc.sessions, RowFits known settled r) {out : Outcome}
    (hstmt : StmtFits known settled none stmt)
    (hunr : out ≠ .failed → ∀ id, stmt = .close id .failed "agent_unreachable" → settled id) :
    ∀ r ∈ (stmt.attempt svc out).sessions, RowFits known settled r := by
  intro r hr
  obtain ⟨hr, -⟩ | ⟨hok, r₀, hr₀, hid, ⟨_, rfl, -, hst⟩ | ⟨rfl | ⟨_, rfl⟩, -⟩⟩ := row_attempt hr
  · exact hrows r hr
  · have hfits := hrows r₀ hr₀
    unfold RowFits at hfits ⊢
    rwa [hst, ← hid]
  · obtain ⟨hst, hid⟩ := hstmt
    refine ⟨fun _ ↦ hid, fun hended ↦ ?_⟩
    rw [hst] at hended
    cases hended
  · obtain ⟨hst, rfl⟩ | ⟨hid, hend⟩ := hstmt
    · refine ⟨fun hact ↦ ?_, fun _ ↦ hunr hok _ (hst ▸ rfl)⟩
      cases hst.symm.trans hact
    · exact ⟨fun _ ↦ hid, fun _ ↦ hend rfl⟩

variable {notice : Notice} {tid : ThreadID}

/-- A handler that owes a message executes nothing but the call before it. -/
theorem unregister_of_holdsBack {rest : List Stmt} (h : holdsBack owes svc tid = false)
    (howes : owes tid = some notice) (hth : svc.threads tid = some (.running (stmt :: rest))) :
    ∃ id, stmt = .unregister id := by
  simp only [holdsBack, howes, isSome_some, Bool.true_and, hth] at h
  split at h
  next heq =>
    cases heq
    exact ⟨_, rfl⟩
  · cases h

/-- A handler that owes a message goes on closing the session. -/
theorem owed_of_step (h : ServiceFits known settled owes svc)
    (hstep : RemoteSession.step svc l = some svc') (hprop : Proper known settled owes svc l)
    (howes : owes tid = some notice) :
    ∃ stmts, svc'.threads tid = some (.running stmts) ∧ Closing notice.sess stmts := by
  obtain ⟨stmts, hth, hclos⟩ := h.owed tid notice howes
  by_cases hexec : ∃ out, l = .exec tid out
  · obtain ⟨out, rfl⟩ := hexec
    obtain ⟨stmt, rest, _, rfl, hnext, rfl⟩ := exec_of_running hstep hth
    obtain ⟨_, rfl⟩ := unregister_of_holdsBack hprop.1 howes hth
    obtain ⟨-, -, hreqd⟩ | rfl := hnext
    · cases hreqd
    · have hrest := hclos.of_cons (by simp)
      exact ⟨rest, State.setThread_threads_self.trans hrest.ofStmts, hrest⟩
  · have hne : ∀ out, l ≠ .exec tid out := fun out heq ↦ hexec ⟨out, heq⟩
    exact ⟨stmts, threads_of_running hstep hth hne hprop.ne_restart, hclos⟩

theorem stmtFits_replyStmts {reply : OpenReply}
    (h : reply = .unreachable ∨ known sess.id ∧ (reply = .rejected → settled sess.id))
    (notice : Option Notice) :
    ∀ stmt ∈ replyStmts sess reply, StmtFits known settled notice stmt := by
  intro stmt hstmt
  cases reply with
  | unreachable =>
    obtain rfl := mem_singleton.1 hstmt
    exact .inl ⟨rfl, rfl⟩
  | rejected =>
    obtain rfl := mem_singleton.1 hstmt
    obtain ⟨hid, hsett⟩ := h.resolve_left (by simp)
    exact .inr ⟨hid, fun _ ↦ hsett rfl⟩
  | success =>
    obtain ⟨hid, -⟩ := h.resolve_left (by simp)
    rcases mem_cons.1 hstmt with rfl | hstmt
    · exact ⟨rfl, hid⟩
    · refine stmtFits_of_writes ?_
      obtain hstmt | rfl := mem_snoc.1 hstmt
      · split at hstmt
        · cases hstmt
        · obtain rfl := mem_singleton.1 hstmt
          rfl
      · rfl

theorem stmtFits_closing (h : Closing sess stmts) (hid : known sess.id) (notice : Notice) :
    ∀ stmt ∈ stmts, StmtFits known settled (some notice) stmt := by
  intro stmt hstmt
  cases stmt with
  | setState => cases h.not_required _ hstmt
  | close id state reason =>
    obtain ⟨rfl, -⟩ := h.only id state reason hstmt
    exact .inr ⟨hid, fun hnone ↦ by cases hnone⟩
  | _ => trivial

section

variable (h : ServiceFits known settled owes svc)
include h

theorem ServiceFits.setThread {o : Option Notice} {th : Option Thread}
    (hth : ∀ th', th = some th' → ∀ stmt ∈ th'.stmts, StmtFits known settled o stmt)
    (howed : ∀ notice, o = some notice → ∃ stmts, th = some (.running stmts) ∧
      Closing notice.sess stmts) :
    ServiceFits known settled (Function.update owes tid o) (svc.setThread tid th) where
  rows := h.rows
  handlers tid' th' hth' := by
    obtain ⟨rfl, hnew⟩ | ⟨htid, hold⟩ := update_apply_eq_iff.1 hth'
    · rw [update_self]
      exact hth th' hnew
    · rw [update_of_ne htid]
      exact h.handlers tid' th' hold
  owed tid' notice howes := by
    obtain ⟨rfl, hnew⟩ | ⟨htid, hold⟩ := update_apply_eq_iff.1 howes
    · rw [State.setThread_threads_self]
      exact howed notice hnew
    · rw [svc.setThread_threads_of_ne _ htid]
      exact h.owed tid' notice hold

/-- A proper step of the session service keeps rows and handlers fitting. -/
theorem ServiceFits.step (hreg : RemoteSession.Regular svc)
    (hstep : RemoteSession.step svc l = some svc') (hprop : Proper known settled owes svc l) :
    ServiceFits known settled (owing owes svc l) svc' := by
  rcases hcls : closes svc l with _ | ⟨n, sess⟩
  · simp only [owing, hcls]
    suffices hrest : (∀ r ∈ svc'.sessions, RowFits known settled r) ∧ ∀ tid th,
        svc'.threads tid = some th → ∀ stmt ∈ th.stmts, StmtFits known settled (owes tid) stmt from
      ⟨hrest.1, hrest.2, fun tid notice ↦ owed_of_step h hstep hprop⟩
    cases move_of_step hstep hreg hcls hprop.ne_restart with
    | idle hsess hths =>
      rw [hsess, hths]
      exact ⟨h.rows, h.handlers⟩
    | opened _ hst hsess hths hsts =>
      constructor
      · intro r hr
        rw [State.setThread_sessions, hsess] at hr
        obtain hr | rfl := mem_snoc.1 hr
        · exact h.rows r hr
        · simp [RowFits, hst, SessionState.interruptible]
      · exact forall_setThread_some h.handlers hths (by simp [hsts])
    | moved hrows hths hsts =>
      constructor
      · obtain ⟨f, hsess, hf⟩ := hrows
        intro r hr
        rw [State.setThread_sessions, hsess] at hr
        obtain ⟨r', hr', rfl⟩ := mem_map.1 hr
        have hr'' := h.rows r' hr'
        unfold RowFits at hr'' ⊢
        rwa [(hf r').1, (hf r').2]
      · refine forall_setThread h.handlers hths fun th' hth' ↦ ?_
        simp [hsts th' hth']
    | @replied _ _ sess hl hth =>
      subst hl
      exact ⟨h.rows, forall_setThread_ofStmts h.handlers rfl
        (stmtFits_replyStmts (hprop sess hth) _)⟩
    | @ran tid out stmt rest _ hl hth hnext =>
      subst hl
      have hfits := h.handlers tid _ hth
      constructor
      · refine rows_attempt h.rows ?_ fun hout id heq ↦ hprop.2 hout id rest (heq ▸ hth)
        rcases howes : owes tid with _ | notice
        · exact howes ▸ hfits stmt mem_cons_self
        · obtain ⟨id, rfl⟩ := unregister_of_holdsBack hprop.1 howes hth
          trivial
      · exact forall_setThread_rest h.handlers (stmt.attempt_threads svc out) hnext
          fun stmt' hmem ↦ hfits stmt' (mem_cons_of_mem _ hmem)
    | @interrupted _ _ _ deviceID _ _ hl hout hu ht =>
      subst hl hu
      have hrows : ∀ r ∈ (svc.interrupt (fun r ↦ r.deviceID = deviceID)
          "agent_disconnected").sessions,
          RowFits known settled r := by
        intro r hr
        obtain ⟨r', hr', rfl⟩ := mem_map.1 hr
        split
        next hit =>
          simp only [Bool.and_eq_true, decide_eq_true_eq] at hit
          exact ⟨fun hact ↦ (by cases hact), fun _ ↦ hprop hout r' hr' hit.1 hit.2⟩
        · exact h.rows r' hr'
      obtain rfl | rfl := ht
      · exact ⟨hrows, h.handlers⟩
      · exact ⟨hrows, forall_setThread_ofStmts h.handlers rfl fun stmt hstmt ↦
          stmtFits_of_writes (writes_of_mem_disconnectStmts hstmt)⟩
  · obtain ⟨_, rfl, hclos, ⟨r, hr, hid, hact⟩, -⟩ := closing_of_closes hstep hcls
    simp only [owing, hcls]
    refine h.setThread ?_ ?_
    · rintro th' ⟨⟩
      exact stmtFits_closing hclos (hid ▸ (h.rows r hr).1 hact) _
    · rintro notice ⟨⟩
      exact ⟨_, rfl, hclos⟩

theorem stmtFits_discharged (howes : owes tid = some notice) (hsett : settled notice.sess.id)
    {th : Thread} (hth : svc.threads tid = some th) :
    ∀ stmt ∈ th.stmts, StmtFits known settled none stmt := by
  intro stmt hstmt
  have hfits := h.handlers tid th hth stmt hstmt
  obtain ⟨_, hrun, hclos⟩ := h.owed tid notice howes
  cases hrun.symm.trans hth
  cases stmt with
  | setState => exact hfits
  | close id state reason =>
    obtain ⟨rfl, -⟩ := hclos.only id state reason hstmt
    exact hfits.imp_right fun hid ↦ ⟨hid.1, fun _ ↦ hsett⟩
  | _ => trivial

/-- What is to be closed was active, so the agent has dealt with it. -/
theorem known_of_owes (howes : owes tid = some notice) : known notice.sess.id := by
  obtain ⟨_, hth, hclos⟩ := h.owed tid notice howes
  obtain ⟨_, hmem⟩ := hclos.mem
  obtain ⟨hst, -⟩ | ⟨hid, -⟩ := h.handlers tid _ hth _ hmem
  · cases hst
  · exact hid

end

theorem stmtFits_cancelled (notice : Option Notice) :
    ∀ stmt ∈ stmts.filter fun stmt ↦ !stmt.fallible, StmtFits known settled notice stmt := by
  intro stmt hstmt
  have hfallible := (mem_filter.1 hstmt).2
  cases stmt with
  | setState | close => cases hfallible
  | _ => trivial

end Service

/-! ### Connections -/

/-- `session_open` was sent on a connection that is still the one of its device. -/
def Connected (s : State) (id : UUID) : Prop :=
  ∃ c deviceID, s.home id = some c ∧ s.conn? deviceID = some c ∧ (s.link c).cut = false

/-- The session is settled on every connection in the hub's map. -/
def Settled (s : State) (id : UUID) : Prop :=
  ∀ deviceID c, s.conn? deviceID = some c → (s.link c).cut = false → (s.link c).Settled id

/-- `session_open` was sent and has arrived, or was lost with the connection. -/
def Opened (s : State) (id : UUID) : Prop :=
  s.home id ≠ none ∧ ∀ c, .sessionOpen id ∉ (s.link c).toAgent

/-- The agent has dealt with `session_open`; if it opened no session, that is settled. -/
def Answered (s : State) (id : UUID) (success : Bool) : Prop :=
  Opened s id ∧ (success = false → Settled s id)

/-- The two sides agree. -/
structure Agrees (s : State) : Prop where
  consistent : Consistent s
  service : ServiceFits (Opened s) (Settled s) s.owes s.svc
  replying : ∀ c id success, (s.link c).replying = some (id, success) → Answered s id success
  results : ∀ c id success, .sessionOpenResult id success ∈ (s.link c).toServer →
    Answered s id success
  answer : ∀ id success, s.answer id = some success → Answered s id success

section Connections

variable {cfg : ControlHub.Config} {s t : State} {id : UUID} {c : ConnID} {k : Link}

theorem agrees_init : Agrees .init where
  consistent := consistent_init
  service := ⟨fun _ hr ↦ (by cases hr), fun _ _ hth ↦ (by cases hth), fun _ _ howes ↦
    by cases howes⟩
  replying := nofun
  results := nofun
  answer := nofun

theorem settled_of_not_carried (h : ∀ c, id ∉ (s.link c).carried) : Settled s id :=
  fun _ c _ _ ↦ Link.settled_of_not_carried (h c)

theorem settled_of_not_connected (hs : Consistent s) (h : ¬ Connected s id) : Settled s id :=
  fun deviceID c hconn hcut ↦ Link.settled_of_not_carried fun hid ↦
    h ⟨c, deviceID, hs.carried c id hid, hconn, hcut⟩

variable {sess : Session} {hl : ControlHub.Label} {hub : ControlHub.State} {success : Bool}
  {notice : Notice} {tid : ThreadID}

/-- A session can only be carried by the connection of its device. -/
theorem settled_of_device (hs : Consistent s) (hstor : Stored s.svc.sessions sess)
    (h : ∀ c, s.conn? sess.deviceID = some c → (s.link c).cut = false →
      (s.link c).Settled sess.id) :
    Settled s sess.id := by
  intro deviceID c hconn hcut
  by_cases hid : sess.id ∈ (s.link c).carried
  · obtain ⟨r, hr, hrid, hdev⟩ := hstor
    obtain ⟨r', hr', hrid', hjoin⟩ := hs.home _ c (hs.carried c _ hid)
    obtain rfl : r = r' := inj_on_of_nodup_map hs.ids_nodup hr hr' (hrid.trans hrid'.symm)
    have heq : sess.deviceID = deviceID :=
      hdev.symm.trans (hjoin.eq_of_mapped (hs.mapped _ c hconn))
    exact h c (heq ▸ hconn) hcut
  · exact Link.settled_of_not_carried hid

theorem Opened.setLink (h : Opened s id)
    (hk : .sessionOpen id ∈ k.toAgent → .sessionOpen id ∈ (s.link c).toAgent) :
    Opened (s.setLink c k) id :=
  ⟨h.1, (forall_update_iff s.link fun _ k ↦ .sessionOpen id ∉ k.toAgent).2
    ⟨fun hmem ↦ h.2 c (hk hmem), fun c' _ ↦ h.2 c'⟩⟩

theorem Settled.setLink (h : Settled s id)
    (hk : k.cut = false → (s.link c).cut = false ∧ ((s.link c).Settled id → k.Settled id)) :
    Settled (s.setLink c k) id := by
  intro deviceID
  refine (forall_update_iff s.link fun c k ↦
    s.conn? deviceID = some c → k.cut = false → k.Settled id).2 ⟨fun hconn hcut ↦ ?_, fun c' _ ↦
      h deviceID c'⟩
  obtain ⟨hcut', hkept⟩ := hk hcut
  exact hkept (h deviceID c hconn hcut')

theorem Settled.withHub (h : Settled s id) (hs : Consistent s)
    (hhub : ControlHub.step cfg s.hub hl = some hub) : Settled (s.withHub hub) id := by
  intro deviceID c hconn hcut
  obtain hold | ⟨-, _, hph, -⟩ := ControlHub.lookup_of_step hhub hconn
  · exact h deviceID c hold hcut
  · refine Link.settled_of_not_carried fun hid ↦ ?_
    obtain ⟨r, -, -, hjoin⟩ := hs.home id c (hs.carried c id hid)
    rw [hph] at hjoin
    exact hjoin.elim

theorem answered_of_taken (hs : Consistent s) (hid : id ∈ (s.link c).carried)
    (htaken : .sessionOpen id ∉ k.toAgent) (href : success = false → id ∉ k.carried) :
    Answered (s.setLink c k) id success := by
  have hhome := hs.carried c id hid
  -- no other connection carries the session
  have hoth : ∀ c', c' ≠ c → id ∉ (s.link c').carried := by
    intro c' hne hmem
    exact hne (some.inj ((hs.carried c' id hmem).symm.trans hhome))
  refine ⟨⟨by simp [setLink, hhome], ?_⟩, fun hfalse ↦ settled_of_not_carried ?_⟩
  · exact (forall_update_iff s.link fun _ k ↦ .sessionOpen id ∉ k.toAgent).2
      ⟨htaken, fun c' hne hmem ↦ hoth c' hne (Link.mem_carried.2 (.inl hmem))⟩
  · exact (forall_update_iff s.link fun _ k ↦ id ∉ k.carried).2 ⟨href hfalse, hoth⟩

section

variable (h : Agrees s)
include h

theorem Agrees.links (hcons : Consistent t) (hsvc : t.svc = s.svc) (howes : t.owes = s.owes)
    (hanswer : t.answer = s.answer) (hopn : ∀ id, Opened s id → Opened t id) (hsett : ∀ id,
      (Opened s id ∨ ∃ r ∈ s.svc.sessions, r.id = id ∧ r.state.interruptible = false) →
        Settled s id → Settled t id) (hreplies : ∀ c id success, (t.link c).Replies id success →
      (s.link c).Replies id success ∨ Answered t id success) : Agrees t := by
  have hkept : ∀ {id success}, Answered s id success → Answered t id success := fun hid ↦
    ⟨hopn _ hid.1, fun hfalse ↦ hsett _ (.inl hid.1) (hid.2 hfalse)⟩
  have hans : ∀ c id success, (t.link c).Replies id success → Answered t id success := by
    intro c id success hid
    obtain (hold | hold) | hnew := hreplies c id success hid
    · exact hkept (h.replying c id success hold)
    · exact hkept (h.results c id success hold)
    · exact hnew
  refine ⟨hcons, ?_, fun c id success hid ↦ hans c id success (.inl hid),
    fun c id success hid ↦ hans c id success (.inr hid), fun id success hid ↦ ?_⟩
  · rw [hsvc, howes]
    exact h.service.mono hopn hsett
  · exact hkept (h.answer id success (hanswer ▸ hid))

theorem Agrees.setLink (hcons : Consistent (s.setLink c k))
    (hopn : ∀ id, .sessionOpen id ∈ k.toAgent → .sessionOpen id ∈ (s.link c).toAgent)
    (hsett : ∀ id, k.cut = false → (s.link c).cut = false ∧ ((s.link c).Settled id → k.Settled id))
    (hreplies : ∀ id success, k.Replies id success →
      (s.link c).Replies id success ∨ Answered (s.setLink c k) id success) :
      Agrees (s.setLink c k) := by
  refine h.links hcons rfl rfl rfl (fun id hid ↦ hid.setLink (hopn id))
    (fun id _ hid ↦ hid.setLink (hsett id)) ?_
  exact (forall_update_iff s.link fun c' k' ↦ ∀ id success, k'.Replies id success →
    (s.link c').Replies id success ∨ Answered (s.setLink c k) id success).2 ⟨hreplies, fun _ _ _ _ ↦
      .inl⟩

theorem Agrees.broken (c : ConnID) : Agrees (s.setLink c (s.link c).broken) :=
  h.setLink (h.consistent.broken c) nofun nofun nofun

theorem Agrees.withHub (hhub : ControlHub.step cfg s.hub hl = some hub) : Agrees (s.withHub hub) :=
  h.links (h.consistent.withHub hhub) rfl rfl rfl (fun _ hid ↦ hid)
    (fun _ _ hid ↦ hid.withHub h.consistent hhub) fun _ _ _ ↦ .inl

theorem Agrees.agent {a : Action} (hk : (s.link c).step a = some k)
    (hcons : Consistent (s.setLink c k)) : Agrees (s.setLink c k) := by
  have hnd := h.consistent.carried_nodup c
  have hopn : ∀ id, .sessionOpen id ∈ k.toAgent → .sessionOpen id ∈ (s.link c).toAgent :=
    fun _ hid ↦ Link.toAgent_of_step hk hid
  have hsett : ∀ id, k.cut = false → (s.link c).cut = false ∧ ((s.link c).Settled id →
      k.Settled id) :=
    fun _ hcut ↦ ⟨Link.cut_of_step hk ▸ hcut, Link.settled_of_step hk hnd⟩
  refine h.setLink hcons hopn hsett fun id success hid ↦ ?_
  obtain hold | ⟨hcarr, htaken, href⟩ := Link.replies_of_step hk hnd hid
  · exact .inl hold
  · exact .inr (answered_of_taken h.consistent hcarr htaken href)

theorem Agrees.sendOpen (hhome : s.home sess.id = none)
    (hrow : ∀ r ∈ s.svc.sessions, r.id = sess.id → r.state.interruptible)
    (hcons : Consistent ((s.setLink c ((s.link c).send (.sessionOpen sess.id))).setHome sess.id
      c)) :
    Agrees ((s.setLink c ((s.link c).send (.sessionOpen sess.id))).setHome sess.id c) := by
  refine h.links hcons rfl rfl rfl (fun id hid ↦ ?_) (fun id hmatters hid ↦ ?_) ?_
  · have hne : id ≠ sess.id := fun heq ↦ hid.1 (heq ▸ hhome)
    have hlink : Opened (s.setLink c ((s.link c).send (.sessionOpen sess.id))) id := by
      refine hid.setLink fun hmem ↦ ?_
      obtain hmem | ⟨⟨⟩⟩ := mem_snoc.1 hmem
      · exact hmem
      · exact absurd rfl hne
    refine ⟨fun hnone ↦ hid.1 ?_, hlink.2⟩
    exact (update_of_ne hne _ _).symm.trans hnone
  · have hne : id ≠ sess.id := by
      rintro rfl
      obtain hopn | ⟨r, hr, hrid, hend⟩ := hmatters
      · exact hopn.1 hhome
      · simp [hrow r hr hrid] at hend
    refine hid.setLink fun hcut ↦ ⟨hcut, fun hlink ↦ hlink.send ?_⟩
    rintro ⟨⟩
    exact hne rfl
  · -- nothing is on its way to the server that was not before
    exact (forall_update_iff s.link fun c' k ↦ ∀ id success, k.Replies id success →
      (s.link c').Replies id success ∨ Answered _ id success).2 ⟨fun _ _ ↦ .inl, fun _ _ _ _ ↦ .inl⟩

theorem Agrees.withSvc {sl : RemoteSession.Label} {svc : RemoteSession.State}
    (hsvc : RemoteSession.step s.svc sl = some svc)
    (hprop : Proper (Opened s) (Settled s) s.owes s.svc sl) :
    Agrees { s.withSvc svc with owes := owing s.owes s.svc sl } :=
  { h with
    consistent := h.consistent.withSvc hsvc hprop.ne_restart (h.consistent.owing sl)
    service := h.service.step h.consistent.regular hsvc hprop }

/-- The server sends `session_close` for a session that the agent has dealt with. -/
theorem Agrees.sendClose (c : ConnID) (id : UUID) :
    Agrees (s.setLink c ((s.link c).send (.sessionClose id))) := by
  refine h.setLink (h.consistent.sendClose c id) (fun id' hmem ↦ ?_)
    (fun id' hcut ↦ ⟨hcut, fun hid ↦ hid.send (by simp)⟩) fun _ _ ↦ .inl
  obtain hmem | ⟨⟨⟩⟩ := mem_snoc.1 hmem
  exact hmem

theorem Agrees.setOwes (howes : s.owes tid = some notice) (hsett : Settled s notice.sess.id) :
    Agrees (s.setOwes tid none) := by
  have hsame : s.svc.setThread tid (s.svc.threads tid) = s.svc := by
    simp [State.setThread]
  refine { h with consistent := h.consistent.setOwes tid, service := ?_ }
  show ServiceFits (Opened s) (Settled s) (update s.owes tid none) s.svc
  rw [← hsame]
  exact h.service.setThread (fun th hth ↦ stmtFits_discharged h.service howes hsett hth) (by simp)

theorem Agrees.cancel (howes : s.owes tid = some notice) :
    Agrees ((s.cancel tid).setOwes tid none) := by
  have hcons := (h.consistent.cancel tid).setOwes tid
  obtain ⟨_, hth, -⟩ := h.service.owed tid notice howes
  simp only [State.cancel, hth] at hcons ⊢
  refine { h with consistent := hcons, service := h.service.setThread (fun th hth' ↦ ?_) nofun }
  rw [stmts_ofStmts hth']
  exact stmtFits_cancelled none

theorem Agrees.setAnswer (hid : Answered s id success) : Agrees (s.setAnswer id success) :=
  { h with
    consistent := { h.consistent with }
    answer := (forall_update_iff s.answer fun id o ↦ ∀ success, o = some success →
      Answered s id success).2 ⟨fun _ heq ↦ some.inj heq ▸ hid, fun id' _ ↦ h.answer id'⟩ }

theorem Agrees.take {m : ToServer} {rest : List ToServer} (htoS : (s.link c).toServer = m :: rest) :
    Agrees (s.setLink c { s.link c with toServer := rest }) := by
  refine h.setLink ?_ (fun _ hid ↦ hid) (fun _ hcut ↦ ⟨hcut, fun hid ↦ { hid with }⟩)
    fun _ _ hid ↦ .inl (hid.imp_right fun hid ↦ htoS ▸ mem_cons_of_mem _ hid)
  exact h.consistent.setLink (h.consistent.carried_nodup c) (h.consistent.carried c)
    (h.consistent.finished c)

end

end Connections

/-! ### Runs -/

/-- The session whose row a handler is about to close because the agent has not answered. -/
def State.givenUp (s : State) (tid : ThreadID) : Option UUID :=
  match s.svc.threads tid with
  | some (.running (.close id .failed reason :: _)) =>
    if reason = "agent_unreachable" then some id else none
  | _ => none

/-- The sessions that a step ends without a word to the agent. -/
def State.forsakes (s : State) : Label → List UUID
  | .session (.exec tid out) => if out = .failed then [] else (s.givenUp tid).toList
  | .notify c out _ =>
    match s.hub.phase c with
    | .lost conn =>
      if out = .failed then []
      else (s.svc.sessions.filter fun r ↦ r.deviceID = conn.deviceID ∧ r.state.interruptible).map
        (·.id)
    | _ => []
  | .sendClose tid .dropped => ((s.owes tid).map (·.sess.id)).toList
  | _ => []

/-- The rows that have ended before a step sends `session_open` for them. -/
def State.stale (s : State) : Label → List Session
  | .sendOpen n =>
    match s.svc.threads (.request n) with
    | some (.awaiting sess) =>
      s.svc.sessions.filter fun r ↦ r.id = sess.id ∧ ¬ r.state.interruptible
    | _ => []
  | _ => []

/-- No session ends behind the back of a connected agent, and none is opened that has ended. -/
def Orderly (s : State) (l : Label) : Prop :=
  (∀ id ∈ s.forsakes l, ¬ Connected s id) ∧ s.stale l = []

/-- Every stream of a connected agent belongs to a session requested, opening or active. -/
def NoOrphans (s : State) : Prop :=
  ∀ deviceID c, s.conn? deviceID = some c → (s.link c).cut = false →
    ∀ id ∈ (s.link c).streams, ∃ r ∈ s.svc.sessions, r.id = id ∧ r.state.interruptible

instance (s : State) : DecidablePred (Connected s) := fun id ↦
  decidable_of_iff (∃ c ∈ s.home id, (s.link c).cut = false ∧ ∃ e ∈ s.hub.conns.entries,
      e.2 = c) <| by
    constructor
    · rintro ⟨c, hc, hcut, ⟨deviceID, _⟩, he, rfl⟩
      exact ⟨_, deviceID, hc, AList.mem_lookup_iff.2 he, hcut⟩
    · rintro ⟨c, deviceID, hc, hconn, hcut⟩
      exact ⟨c, hc, hcut, ⟨deviceID, c⟩, AList.mem_lookup_iff.1 hconn, rfl⟩

instance (s : State) : DecidablePred (Orderly s) := fun l ↦
  -- the ids of a list, not the finite type of all ids
  have : Decidable (∀ id ∈ s.forsakes l, ¬ Connected s id) := decidableBAll _ _
  inferInstanceAs (Decidable ((∀ id ∈ s.forsakes l, ¬ Connected s id) ∧ s.stale l = []))

section Runs

variable {cfg : ControlHub.Config} {s t : State} {l : Label}

theorem proper_session (h : Agrees s) {sl : RemoteSession.Label} (hord : Orderly s (.session sl))
    (hback : ∀ tid out, sl = .exec tid out → holdsBack s.owes s.svc tid = false)
    (hagent : ∀ n reply, sl ≠ .agentReply n reply) (hshar : sharedBySessions sl = false) :
    Proper (Opened s) (Settled s) s.owes s.svc sl := by
  cases sl with
  | agentReply n reply => exact absurd rfl (hagent n reply)
  | exec tid out =>
    refine ⟨hback tid out rfl, fun hout id rest hth ↦ ?_⟩
    refine settled_of_not_connected h.consistent (hord.1 id ?_)
    simp [forsakes, givenUp, hout, hth]
  | interruptDevice | restart => cases hshar
  | _ => trivial

theorem proper_notify (h : Agrees s) {c : ConnID} {out : Outcome} {rows : List InterruptedSession}
    {conn : ControlHub.Connection} (hord : Orderly s (.notify c out rows))
    (hph : s.hub.phase c = .lost conn) :
    Proper (Opened s) (Settled s) s.owes s.svc (.interruptDevice c conn.deviceID out rows) := by
  intro hout r hr hdev hst
  refine settled_of_not_connected h.consistent (hord.1 r.id ?_)
  simp only [forsakes, hph, if_neg hout]
  exact mem_map_of_mem (mem_filter.2 ⟨hr, by simp [hdev, hst]⟩)

/-- **Every orderly step keeps the server and the agents in agreement.** -/
theorem Agrees.step (h : Agrees s) (hstep : Step cfg s l t) (hord : Orderly s l) : Agrees t := by
  have hcons := h.consistent.step hstep
  cases hstep with
  | tick hhub hsvc => exact (h.withHub hhub).withSvc hsvc trivial
  | hub hhub => exact h.withHub hhub
  | endRead hhub => exact (h.withHub hhub).broken _
  | session hsvc hback hagent hshar =>
    exact h.withSvc hsvc (proper_session h hord hback hagent hshar)
  | notify hph hhub hsvc =>
    exact { (h.withSvc hsvc (proper_notify h hord hph)).withHub hhub with consistent := hcons }
  | sendOpen hth _ hhome =>
    refine h.sendOpen hhome (fun r hr hid ↦ ?_) hcons
    have hstal := hord.2
    simp only [stale, hth, filter_eq_nil_iff] at hstal
    simpa [hid] using hstal r hr
  | @wake _ _ success _ hth hans hsvc =>
    refine h.withSvc hsvc fun sess' hth' ↦ .inr ?_
    cases hth.symm.trans hth'
    obtain ⟨hid, href⟩ := h.answer _ success hans
    refine ⟨hid, fun hreply ↦ href ?_⟩
    cases success with
    | true => cases hreply
    | false => rfl
  | giveUp hsvc => exact h.withSvc hsvc fun _ _ ↦ .inl rfl
  | unsent howes ho =>
    refine h.setOwes howes ?_
    obtain rfl | hgone := ho
    · exact settled_of_not_connected h.consistent (hord.1 _ (by simp [forsakes, howes]))
    · refine settled_of_device h.consistent (h.consistent.owed _ _ howes) fun c hconn hcut ↦ ?_
      rw [hgone c hconn] at hcut
      cases hcut
  | @sent _ notice c howes hconn =>
    have hsent := h.sendClose c notice.sess.id
    refine hsent.setOwes howes (settled_of_device hsent.consistent (h.consistent.owed _ _ howes) ?_)
    intro c' hconn' _
    cases hconn.symm.trans hconn'
    simp only [State.setLink, update_self]
    exact Link.settled_send_close ((known_of_owes h.service howes).2 c)
  | @broke _ _ c howes hconn =>
    have hbroken := h.broken c
    refine hbroken.setOwes howes (settled_of_device hbroken.consistent
      (h.consistent.owed _ _ howes) ?_)
    intro c' hconn' hcut
    cases hconn.symm.trans hconn'
    simp only [State.setLink, update_self] at hcut
    cases hcut
  | cancelled howes => exact h.cancel howes
  | agent hk => exact h.agent hk hcons
  | answered htoS =>
    obtain ⟨hid, href⟩ := h.results _ _ _ (htoS ▸ mem_cons_self)
    refine (h.take htoS).setAnswer ⟨hid.setLink fun hmem ↦ hmem, fun hfalse ↦ ?_⟩
    exact (href hfalse).setLink fun hcut ↦ ⟨hcut, fun hk ↦ { hk with }⟩
  | reported _ htoS hsvc => exact (h.withSvc hsvc trivial).take htoS
  | cut => exact h.broken _

/-- Where the two sides agree and nothing happens any more, no stream outlives its row. -/
theorem noOrphans_of_quiet (h : Agrees s) (hqui : Quiet s) : NoOrphans s := by
  intro deviceID c hconn hcut id hid
  obtain ⟨r, hr, hrid, -⟩ :=
    h.consistent.home id c (h.consistent.carried c id (Link.mem_carried.2 (.inr hid)))
  refine ⟨r, hr, hrid, ?_⟩
  by_contra hend
  have hsett : Settled s id := hrid ▸ (h.service.rows r hr).2 (by simpa using hend)
  have hcl := (hsett deviceID c hconn hcut).closing hid
  rw [(hqui.2 c hcut).1] at hcl
  cases hcl

/-- **Agent sessions do not outlive the server's** if none ends behind the back of a connected
agent. -/
theorem noOrphans_of_orderly (cfg : ControlHub.Config) {labels : List Label}
    (hrun : exec (step cfg) .init labels = some s)
    (hord : Along (step cfg) (fun s l _ ↦ Orderly s l) .init labels) (hqui : Quiet s) :
    NoOrphans s := by
  have hinv : Agrees s := invariant_of_along (I := Agrees)
    (fun _ _ _ hs h hord ↦ hs.step (step_cases h) hord) agrees_init hrun hord
  exact noOrphans_of_quiet hinv hqui

end Runs

namespace Sample

/-- The administrator closes the tunnel. -/
def closed (id : UUID) : List Label :=
  [.session (.closeSession 0 id), .sendClose (.request 0) .sent, .session (.exec (.request 0) .ok),
    .session (.exec (.request 0) .ok), .agent 0 .handleSessionClose, .agent 0 (.report id),
      .readLoop 0 0]

/-- Two tunnels are opened, and one of them is closed. -/
def two : List Label :=
  connected ++ asked 5 ++ agentOpens ++ [.readLoop 0 0] ++ activated ++ asked 6 ++ agentOpens ++
    [.readLoop 0 0] ++ activated ++ closed 5

/-- The handler gives up, and then the agent opens the stream. -/
def late : List Label :=
  connected ++ asked 5 ++ [.giveUp 0, .session (.exec (.request 0) .ok)] ++ agentOpens ++
    [.readLoop 0 0]

end Sample

theorem noOrphans_of_orderly_two : ∃ s, exec (step ControlHub.Sample.config) .init Sample.two =
    some s ∧ Quiet s ∧ (s.link 0).streams = [6] ∧ NoOrphans s := by
  refine exists_of_exec (fun s ↦ s.svc.threads (.request 0) = none ∧ LinkQuiet (s.link 0) ∧
        (s.link 0).streams = [6]) (by decide +kernel)
    fun s hrun ⟨hth, hlink, hstrs⟩ ↦ ?_
  have hqui : Quiet s := quiet_of_exec hrun (by decide +kernel) hth hlink
  exact ⟨hqui, hstrs, noOrphans_of_orderly _ hrun (by decide +kernel) hqui⟩

/-- The handler gives up after fifteen seconds and its row is `failed`. Then the agent opens the
stream; nobody waits for its answer, and the stream stays. -/
theorem not_noOrphans_late : ∃ s, exec (step ControlHub.Sample.config) .init Sample.late = some s ∧
    Quiet s ∧ ¬ NoOrphans s := by
  refine exists_of_exec (fun s ↦ s.svc.threads (.request 0) = none ∧ LinkQuiet (s.link 0) ∧
        (s.link 0).streams = [5] ∧ s.conn? ControlHub.Sample.device = some 0 ∧
          (s.link 0).cut = false ∧
        ∀ r ∈ s.svc.sessions, r.state.interruptible = false) (by decide +kernel)
    fun s hrun ⟨hth, hlink, hstrs, hconn, hcut, hrows⟩ ↦ ?_
  refine ⟨quiet_of_exec hrun (by decide +kernel) hth hlink, fun horphans ↦ ?_⟩
  obtain ⟨r, hr, -, hst⟩ := horphans _ 0 hconn hcut 5 (hstrs ▸ mem_cons_self)
  rw [hrows r hr] at hst
  cases hst

end WartungsRemote.Server.Channel
