import WartungsRemote.Auth.Steps

/-!
# No session without a second factor

With `require_mfa` every session goes back to a password and a code, in every interleaving
(`session_secondFactor`). A session that completes a challenge had its code validated in the request
that created it, and the password in the login that issued the challenge; one that confirms the
setup of the second factor had both checked in the same request.

The invariant (`Traced`) says the same with the **history** in place of the run, for the sessions,
for the requests that are on the way to one, and for the challenges. What stands in the history has
happened in the run (`passwordVerified_of_mem_history`, `codeValidated_of_mem_history`).
-/

namespace WartungsRemote.Auth

open List State Transition

variable {cfg : Config} {s t : State} {l : Label} {req : ReqID} {e : Effect} {userID cid : UUID}

/-! ### What has happened in a run -/

/-- In the run, the request has executed a statement in a state and with a thread satisfying `P`. -/
def Happened (cfg : Config) (ls : List Label) (req : ReqID) (P : State → Thread → Prop) : Prop :=
  ∃ before out choice after s th, ls = before ++ .exec req out choice :: after ∧
    exec (step cfg) .init before = some s ∧ s.threads req = some th ∧ P s th

/-- The handler has read the user, and the password that it was given is the right one. -/
def Thread.VerifiesPassword (cfg : Config) (handler : Handler) (userID : UUID) (s : State) :
    Thread → Prop
  | login username password _ =>
    handler = .login ∧ ∃ user, s.getByUsername cfg username = some user ∧
      user.id = userID ∧ cfg.verifyPassword password user.passwordHash = some true
  | setupConfirm username password _ _ => handler = .setupConfirm ∧
      ∃ user, s.getByUsername cfg username = some user ∧
        user.id = userID ∧ cfg.verifyPassword password user.passwordHash = some true
  | _ => False

/-- The code is valid for the stored secret of the user: for the confirmed one if a challenge is
completed, and for an unconfirmed one in the setup. -/
def Thread.ValidatesCode (cfg : Config) (userID : UUID) (cid : Option UUID) (s : State) :
    Thread → Prop
  | validateCode id uid code _ => cid = some id ∧ uid = userID ∧ ∃ m, s.db.mfa userID = some m ∧
      m.confirmedAt ≠ none ∧ cfg.validate code m.secret s.now = true
  | confirmLoad uid code _ => cid = none ∧ uid = userID ∧ ∃ m, s.db.mfa userID = some m ∧
      m.confirmedAt = none ∧ cfg.validate code m.secret s.now = true
  | _ => False

/-- A statement adds an event to the history only if it is true. -/
def Event.Holds (cfg : Config) (s : State) (q : ReqID) (th : Thread) : Event → Prop
  | .password req handler userID _ => q = req ∧ th.VerifiesPassword cfg handler userID s
  | .evaluated req userID cid _ _ valid =>
    q = req ∧ (valid = true → th.ValidatesCode cfg userID cid s)
  | .confirmed _ _ _ _ => True
  | .recovered _ | .accepted _ _ _ => True

variable {th : Thread} {ls : List Label}

theorem Move.holds (h : Move cfg s req th e) : ∀ ev ∈ e.events, ev.Holds cfg s req th := by
  intro ev hev
  cases h with
  | rightLogin huser _ _ hver | rightSetup huser hver =>
    obtain rfl := mem_singleton.1 hev
    exact ⟨rfl, rfl, _, huser, rfl, hver⟩
  | wrongCode | wrongSetupCode =>
    obtain rfl := mem_singleton.1 hev
    exact ⟨rfl, nofun⟩
  | rightCode hmfa hconf hval | rightSetupCode hmfa hconf hval =>
    obtain rfl := mem_singleton.1 hev
    exact ⟨rfl, fun _ ↦ ⟨rfl, rfl, _, hmfa, hconf, hval⟩⟩
  | confirm | recoverUpdate =>
    obtain rfl := mem_singleton.1 hev
    trivial
  | _ => exact absurd hev not_mem_nil

theorem Write.holds_of_mem_events {w : Write} {ev : Event} (h : ev ∈ w.events) :
    ev.Holds cfg s req th := by
  cases w with
  | setRecoveryCodeHashes =>
    obtain rfl := mem_singleton.1 h
    trivial
  | _ => exact absurd h not_mem_nil

/-- Every event of the history was added by a step in which it was true. -/
theorem happened_of_mem_history {ev : Event} (h : exec (step cfg) .init ls = some t)
    (hev : ev ∈ t.history) : ∃ q, Happened cfg ls q fun s th ↦ ev.Holds cfg s q th := by
  obtain ⟨before, l, after, s, u, rfl, hs, hstep, hnew, hu⟩ :=
    exists_step_of_exec (I := fun s ↦ ev ∈ s.history) h (by simp [init]) hev
  cases step_cases hstep with
  | tick | admin => exact absurd hu hnew
  | start hopn | recover hopn => exact absurd (hopn.history ▸ hu) hnew
  | @exec q out choice th hth =>
    refine ⟨q, before, out, choice, after, s, th, rfl, hs, hth, ?_⟩
    rcases mem_history_commit.1 hu with h | h | h
    · exact absurd h hnew
    · exact Write.holds_of_mem_events h
    · exact (move_effect out choice th).holds ev h

theorem Happened.mono {P Q : State → Thread → Prop} (h : Happened cfg ls req P)
    (hPQ : ∀ s th, P s th → Q s th) :
    Happened cfg ls req Q := by
  obtain ⟨before, out, choice, after, s, th, hls, hs, hth, hP⟩ := h
  exact ⟨before, out, choice, after, s, th, hls, hs, hth, hPQ s th hP⟩

theorem passwordVerified_of_mem_history {handler : Handler} {password : Text}
    (h : exec (step cfg) .init ls = some t)
    (hev : .password req handler userID password ∈ t.history) :
    Happened cfg ls req fun s th ↦ th.VerifiesPassword cfg handler userID s := by
  obtain ⟨q, hq⟩ := happened_of_mem_history h hev
  obtain rfl : q = req := by
    obtain ⟨-, -, -, -, -, -, -, -, -, hreq, -⟩ := hq
    exact hreq
  exact hq.mono fun s th hP ↦ hP.2

theorem codeValidated_of_mem_history {cid : Option UUID} {code secret : Text}
    (h : exec (step cfg) .init ls = some t)
    (hev : .evaluated req userID cid code secret true ∈ t.history) :
    Happened cfg ls req fun s th ↦ th.ValidatesCode cfg userID cid s := by
  obtain ⟨q, hq⟩ := happened_of_mem_history h hev
  obtain rfl : q = req := by
    obtain ⟨-, -, -, -, -, -, -, -, -, hreq, -⟩ := hq
    exact hreq
  exact hq.mono fun s th hP ↦ hP.2 rfl

/-! ### The invariant -/

/-- A session of the user that `req` so creates goes back to a password and a code. -/
def State.Traced (s : State) (req : ReqID) (userID : UUID) : Via → Prop
  | .login => False
  | .challenge cid =>
    (∃ code secret, .evaluated req userID (some cid) code secret true ∈ s.history) ∧
      ∃ c, s.db.challenges cid = some c ∧ c.userID = userID
  | .setup => (∃ code secret, .evaluated req userID none code secret true ∈ s.history) ∧
      ∃ password, .password req .setupConfirm userID password ∈ s.history

/-- What is known of a request from the statements that it has executed. -/
def Thread.Traced (s : State) (req : ReqID) : Thread → Prop
  | checkMFA userID _ _ => ∃ password, .password req .login userID password ∈ s.history
  | createChallenge userID _ => ∃ password, .password req .login userID password ∈ s.history
  | validateCode cid userID _ _ => ∃ c, s.db.challenges cid = some c ∧ c.userID = userID
  | consume cid userID _ => s.Traced req userID (.challenge cid)
  | confirmLoad userID _ _ => ∃ password, .password req .setupConfirm userID password ∈ s.history
  | confirmUpdate userID _ _ _ => s.Traced req userID .setup
  | resetFailed userID via _ => s.Traced req userID via
  | createSession userID via _ => s.Traced req userID via
  | _ => True

/-- Every request, challenge and session can be traced back. -/
structure TraceInv (s : State) : Prop where
  threads : ∀ q th, s.threads q = some th → th.Traced s q
  challenges : ∀ cid c, s.db.challenges cid = some c →
    ∃ password, .password c.issuedBy .login c.userID password ∈ s.history
  sessions : ∀ sess ∈ s.db.sessions, s.Traced sess.createdBy sess.userID sess.via

/-- History and challenges only grow. -/
structure Grows (s t : State) : Prop where
  history : ∀ ev ∈ s.history, ev ∈ t.history
  challenges : ∀ cid c, s.db.challenges cid = some c →
    ∃ c', t.db.challenges cid = some c' ∧ c'.userID = c.userID

theorem State.Traced.mono {via : Via} (hg : Grows s t) (h : s.Traced req userID via) :
    t.Traced req userID via := by
  cases via with
  | login => exact h
  | challenge cid =>
    obtain ⟨⟨code, secret, hev⟩, c, hc, rfl⟩ := h
    exact ⟨⟨code, secret, hg.history _ hev⟩, hg.challenges cid c hc⟩
  | setup =>
    obtain ⟨⟨code, secret, hev⟩, password, hpw⟩ := h
    exact ⟨⟨code, secret, hg.history _ hev⟩, password, hg.history _ hpw⟩

theorem Thread.Traced.mono (hg : Grows s t) (h : th.Traced s req) : th.Traced t req := by
  cases th with
  | checkMFA | createChallenge | confirmLoad => exact h.imp fun _ hev ↦ hg.history _ hev
  | validateCode cid =>
    obtain ⟨c, hc, rfl⟩ := h
    exact hg.challenges cid c hc
  | consume cid userID =>
    have htr : s.Traced req userID (.challenge cid) := h
    exact htr.mono hg
  | confirmUpdate userID =>
    have htr : s.Traced req userID .setup := h
    exact htr.mono hg
  | resetFailed | createSession => exact Traced.mono hg h
  | _ => trivial

theorem grows_commit (hfits : e.write.Fits cfg.sameName s.db) : Grows s (s.commit req e) where
  history ev hev := mem_history_commit.2 (.inl hev)
  challenges cid c hc := by
    obtain ⟨c', hc', hext⟩ := challenges_apply hfits hc
    exact ⟨c', hc', hext.userID⟩

theorem Move.traced (hmfa : cfg.requireMFA = true) (h : Move cfg s req th e)
    (hg : Grows s (s.commit req e)) (hth : th.Traced s req) :
    ∀ x ∈ e.next, x.Traced (s.commit req e) req := by
  have hnew : ∀ ev ∈ e.events, ev ∈ (s.commit req e).history := fun ev hev ↦
    mem_history_commit.2 (.inr (.inr hev))
  rintro x hx
  cases h with
  | rightLogin | rightSetup =>
    cases hx
    exact ⟨_, hnew _ (mem_singleton_self _)⟩
  | challenged =>
    cases hx
    exact hth.imp fun _ hev ↦ hg.history _ hev
  | exempt hreq => exact absurd (hmfa.symm.trans hreq) nofun
  | openChallenge hchal =>
    cases hx
    exact hg.challenges _ _ hchal
  | rightCode =>
    cases hx
    obtain ⟨c, hc, rfl⟩ := hth
    exact ⟨⟨_, _, hnew _ (mem_singleton_self _)⟩, hg.challenges _ c hc⟩
  | @consume cid userID =>
    cases hx
    have htr : s.Traced req userID (.challenge cid) := hth
    exact htr.mono hg
  | rightSetupCode =>
    cases hx
    exact ⟨⟨_, _, hnew _ (mem_singleton_self _)⟩, hth.imp fun _ hev ↦ hg.history _ hev⟩
  | @confirm userID =>
    cases hx
    have htr : s.Traced req userID .setup := hth
    exact htr.mono hg
  | resetFailed | resetIgnored =>
    cases hx
    exact Traced.mono hg hth
  | wrongLogin | unconfirmed | notConfigured | wrongCode | wrongSetup | recover =>
    cases hx
    trivial
  | _ => exact absurd hx nofun

/-- A statement leaves behind what the next one goes back to. -/
theorem TraceInv.commit (hmfa : cfg.requireMFA = true) (hs : TraceInv s)
    (hth : s.threads req = some th) (hmove : Move cfg s req th e)
    (hfits : e.write.Fits cfg.sameName s.db) : TraceInv (s.commit req e) := by
  have hg : Grows s (s.commit req e) := grows_commit hfits
  refine ⟨?_, fun cid c' hc' ↦ ?_, fun sess hsess ↦ ?_⟩
  · exact forall_thread_commit (fun q x _ hx ↦ (hs.threads q x hx).mono hg)
      (hmove.traced hmfa hg (hs.threads req th hth))
  · rcases of_challenges_apply hc' with ⟨c, hc, hext⟩ | hw
    · rw [hext.issuedBy, hext.userID]
      exact (hs.challenges cid c hc).imp fun _ hev ↦ hg.history _ hev
    · obtain ⟨hreq, -, client, rfl⟩ := hmove.of_insertChallenge hw
      rw [hreq]
      exact (hs.threads req _ hth).imp fun _ hev ↦ hg.history _ hev
  · rcases mem_sessions_apply hsess with hold | hw
    · exact (hs.sessions sess hold).mono hg
    · obtain ⟨hreq, client, rfl⟩ := hmove.of_insertSession hw
      rw [hreq]
      exact Traced.mono hg (hs.threads req _ hth)

theorem TraceInv.calm (hs : TraceInv s) (hcalm : Calm s t) : TraceInv t := by
  have hg : Grows s t := by
    refine ⟨fun ev hev ↦ hcalm.history ▸ hev, fun cid c hc ↦ ⟨c, ?_, rfl⟩⟩
    rw [hcalm.challenges]
    exact hc
  refine ⟨fun q x hx ↦ ?_, ?_, ?_⟩
  · rcases hcalm.threads q x hx with hx | hentry
    · exact (hs.threads q x hx).mono hg
    · cases x <;> trivial
  · rw [hcalm.challenges, hcalm.history]
    exact hs.challenges
  · rw [hcalm.sessions]
    exact fun sess hsess ↦ (hs.sessions sess hsess).mono hg

theorem traceInv_of_exec (hmfa : cfg.requireMFA = true) (h : exec (step cfg) .init ls = some t) :
    TraceInv t := by
  refine (invariant_of_exec (I := fun s ↦ TraceInv s ∧ ∀ q x, s.threads q = some x →
    q ∈ s.begun) ?_ ?_ h).1
  · rintro s l t ⟨hs, hbeg⟩ hstep
    refine ⟨?_, begun_of_step hbeg hstep⟩
    obtain hcalm | ⟨_, out, choice, th, rfl, hth, hfits, rfl⟩ := calm_or_exec hbeg hstep
    · exact hs.calm hcalm
    · exact hs.commit hmfa hth (move_effect out choice th) hfits
  · exact ⟨⟨nofun, nofun, nofun⟩, nofun⟩

/-! ### Rows and the requests that inserted them -/

theorem session_createdBy {sess : UserSession} (h : exec (step cfg) .init ls = some t)
    (hsess : sess ∈ t.db.sessions) :
    Happened cfg ls sess.createdBy fun _ th ↦ ∃ client, th = .createSession sess.userID sess.via
      client := by
  obtain ⟨before, l, after, s, u, rfl, hs, hstep, hnew, hu⟩ :=
    exists_step_of_exec (I := fun s ↦ sess ∈ s.db.sessions) h not_mem_nil hsess
  obtain hcalm | ⟨_, out, choice, th, rfl, hth, -, rfl⟩ := calm_or_exec (begun_of_exec hs) hstep
  · exact absurd (hcalm.sessions ▸ hu) hnew
  · rcases mem_sessions_apply hu with hold | hw
    · exact absurd hold hnew
    · obtain ⟨hreq, hclient⟩ := (move_effect out choice th).of_insertSession hw
      rw [hreq]
      exact ⟨before, out, choice, after, s, th, rfl, hs, hth, hclient⟩

theorem challenge_issuedBy {c : Challenge} (h : exec (step cfg) .init ls = some t)
    (hc : t.db.challenges cid = some c) :
    Happened cfg ls c.issuedBy fun _ th ↦ ∃ client, th = .createChallenge c.userID client := by
  obtain ⟨before, l, after, s, u, rfl, hs, hstep, hnew, c', hu, huser, hiss⟩ :=
    exists_step_of_exec (I := fun s ↦ ∃ c', s.db.challenges cid = some c' ∧
      c'.userID = c.userID ∧ c'.issuedBy = c.issuedBy) h nofun ⟨c, hc, rfl, rfl⟩
  obtain hcalm | ⟨_, out, choice, th, rfl, hth, -, rfl⟩ := calm_or_exec (begun_of_exec hs) hstep
  · exact absurd ⟨c', hcalm.challenges ▸ hu, huser, hiss⟩ hnew
  · rcases of_challenges_apply hu with ⟨c₀, hc₀, hext⟩ | hw
    · exact absurd ⟨c₀, hc₀, hext.userID.symm.trans huser, hext.issuedBy.symm.trans hiss⟩ hnew
    · obtain ⟨hreq, -, hclient⟩ := (move_effect out choice th).of_insertChallenge hw
      rw [← hiss, hreq, ← huser]
      exact ⟨before, out, choice, after, s, th, rfl, hs, hth, hclient⟩

/-! ### The theorem -/

/-- The session was created by confirming the setup, in a request that has verified the user's
password and validated a code against the secret stored for them. -/
def CreatedBySetup (cfg : Config) (ls : List Label) (sess : UserSession) : Prop :=
  (Happened cfg ls sess.createdBy fun s th ↦ th.ValidatesCode cfg sess.userID none s) ∧
    Happened cfg ls sess.createdBy fun s th ↦ th.VerifiesPassword cfg .setupConfirm sess.userID s

/-- The session was created by completing the challenge, in a request that has validated a code
against the secret stored for the user; the login that issued the challenge has verified their
password. -/
def CreatedByChallenge (cfg : Config) (ls : List Label) (sess : UserSession) (cid : UUID)
    (issuedBy : ReqID) : Prop :=
  (Happened cfg ls sess.createdBy fun s th ↦ th.ValidatesCode cfg sess.userID (some cid) s) ∧
    (Happened cfg ls issuedBy fun _ th ↦ ∃ client, th = .createChallenge sess.userID client) ∧
    Happened cfg ls issuedBy fun s th ↦ th.VerifiesPassword cfg .login sess.userID s

/-- **No session without a second factor.** -/
theorem session_secondFactor {ls : List Label} (hmfa : cfg.requireMFA = true)
    (h : exec (step cfg) .init ls = some t) {sess : UserSession} (hsess : sess ∈ t.db.sessions) :
    (Happened cfg ls sess.createdBy fun _ th ↦
        ∃ client, th = .createSession sess.userID sess.via client) ∧
      (CreatedBySetup cfg ls sess ∨ ∃ cid c, sess.via = .challenge cid ∧
        t.db.challenges cid = some c ∧ CreatedByChallenge cfg ls sess cid c.issuedBy) := by
  refine ⟨session_createdBy h hsess, ?_⟩
  have hinv : TraceInv t := traceInv_of_exec hmfa h
  have htr : t.Traced sess.createdBy sess.userID sess.via := hinv.sessions sess hsess
  rcases hvia : sess.via with _ | cid | _
  · rw [hvia] at htr
    exact htr.elim
  · rw [hvia] at htr
    obtain ⟨⟨code, secret, hcode⟩, c, hc, huser⟩ := htr
    obtain ⟨password, hpw⟩ := hinv.challenges cid c hc
    have hiss := challenge_issuedBy h hc
    rw [huser] at hpw hiss
    exact .inr ⟨cid, c, rfl, hc, codeValidated_of_mem_history h hcode, hiss,
      passwordVerified_of_mem_history h hpw⟩
  · rw [hvia] at htr
    obtain ⟨⟨code, secret, hcode⟩, password, hpw⟩ := htr
    exact .inl ⟨codeValidated_of_mem_history h hcode, passwordVerified_of_mem_history h hpw⟩

/-- Someone sets up the second factor and then logs in with it. -/
theorem session_secondFactor_sample :
    ∃ t, exec (step Sample.cfg) .init (Sample.setup ++ Sample.login 2 ++ Sample.complete 3) =
      some t ∧ ∃ sess ∈ t.db.sessions, sess.via = .challenge 7 ∧
        (CreatedBySetup Sample.cfg (Sample.setup ++ Sample.login 2 ++ Sample.complete 3) sess ∨
          ∃ cid c, sess.via = .challenge cid ∧ t.db.challenges cid = some c ∧
            CreatedByChallenge Sample.cfg (Sample.setup ++ Sample.login 2 ++ Sample.complete 3)
              sess cid c.issuedBy) := by
  refine exists_of_exec (fun t ↦ t.db.sessions.map UserSession.via = [.setup, .challenge 7])
    (by decide +kernel) fun t ht hsessions ↦ ?_
  obtain ⟨sess, hsess, hvia⟩ := mem_map.1
    (show Via.challenge 7 ∈ t.db.sessions.map UserSession.via by rw [hsessions]; decide)
  exact ⟨sess, hsess, hvia, (session_secondFactor rfl ht hsess).2⟩

end WartungsRemote.Auth
