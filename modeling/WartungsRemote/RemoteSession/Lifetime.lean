import WartungsRemote.RemoteSession.Privilege
import WartungsRemote.RemoteSession.Steps

/-!
# Privileges and the sessions they belong to

Whenever a row of `privilege_sessions` is active, its session should be `active` and not past its
`expires_at` (`PrivilegesLive`). The two tables are kept by different parts of the server, and
**neither looks at the other**. Closing or interrupting a session leaves its privileges as they are;
`handleGrantPrivilege` reads the session and grants later, whatever has become of the session in
between; and the privilege lasts as long as was asked for, up to the server's maximum, whenever the
session expires (`not_privilegesLive_closed`).

What is missing is named by `Guarded`, a condition on the state before each step: a grant is for a
session that is active at that moment, and ends before the session does; and a handler that is about
to end a session, or the server that is about to restart, goes on only when the session has no
active privilege left.
-/

namespace WartungsRemote.RemoteSession.Lifetime

open List Option Privilege
open Transition

/-- The session service, the privileges, and the `handleGrantPrivilege` requests with what they have
read. -/
structure State where
  svc : RemoteSession.State
  priv : Privilege.State
  granting : ℕ → Option Session

/-- An empty installation before its first request. -/
def State.init : State where
  svc := .init
  priv := .init
  granting _ := none

inductive Label
  | tick (d : ℕ)
  /-- A step of the session service: opening, closing, an agent that disconnects. -/
  | session (l : RemoteSession.Label)
  /-- `handleGrantPrivilege` reads the session. -/
  | load (n : ℕ) (id : UUID)
  /-- `GrantPrivilege`, with the clock that it has read and the id of the new row. -/
  | grant (n : ℕ) (clock : ℕ) (durationSeconds : ℤ) (id : UUID)
  /-- `handleGrantPrivilege` returns without a grant. -/
  | deny (n : ℕ)
  /-- A step of `handleRevokePrivilege` or of the sweeper. -/
  | privilege (l : Privilege.Label)
  | restart (out : Outcome) (rows : List InterruptedSession)

/-- The steps of the session service that are steps of the whole server. -/
def sharedBySessions : RemoteSession.Label → Bool
  | .tick _ | .restart _ _ => true
  | _ => false

/-- The steps on `privilege_sessions` that other labels stand for. -/
def sharedByPrivileges : Privilege.Label → Bool
  | .tick _ | .grant _ _ _ _ _ => true
  | _ => false

/-- One step of the server. -/
def step (maxDuration : ℕ) (s : State) : Label → Option State
  | .tick d =>
    (RemoteSession.step s.svc (.tick d)).bind fun svc ↦
      (Privilege.step maxDuration s.priv (.tick (s.priv.now + d))).map fun priv ↦
        { s with svc, priv }
  | .session l =>
    if sharedBySessions l then none
    else (RemoteSession.step s.svc l).map fun svc ↦ { s with svc }
  | .load n id =>
    match s.granting n, s.svc.get id with
    | none, some sess => some { s with granting := Function.update s.granting n (some sess) }
    | _, _ => none
  | .grant n clock durationSeconds id =>
    match s.granting n with
    | some sess =>
      (Privilege.step maxDuration s.priv (.grant sess clock durationSeconds "admin_requested"
        id)).map fun priv ↦ { s with priv, granting := Function.update s.granting n none }
    | none => none
  | .deny n => some { s with granting := Function.update s.granting n none }
  | .privilege l =>
    if sharedByPrivileges l then none
    else (Privilege.step maxDuration s.priv l).map fun priv ↦ { s with priv }
  | .restart out rows =>
    (RemoteSession.step s.svc (.restart out rows)).map fun svc ↦
      { svc
        priv := { s.priv with revoking := fun _ ↦ none, sweeping := [] }
        granting := fun _ ↦ none }

/-! ### The property -/

/-- The session is active and has not expired. -/
def Session.Alive (r : Session) (now : ℕ) : Prop :=
  r.state = .active ∧ now ≤ r.expiresAt
  deriving Decidable

/-- **Every active privilege belongs to a session that is active and has not expired.** -/
def PrivilegesLive (s : State) : Prop :=
  ∀ p ∈ s.priv.rows, p.Active s.priv.now →
    ∃ r ∈ s.svc.sessions, r.id = p.remoteSessionID ∧ Session.Alive r s.svc.now
  deriving Decidable

/-- A grant is for a session that is active now, and ends before the session does. -/
def GrantFits (maxDuration : ℕ) (s : State) : Label → Prop
  | .grant n clock durationSeconds _ => ∀ sess, s.granting n = some sess →
      ∃ r ∈ s.svc.sessions, r.id = sess.id ∧ r.state = .active ∧
        clock + grantedDuration (seconds durationSeconds) maxDuration ≤ r.expiresAt
  | _ => True

instance (maxDuration : ℕ) (s : State) : DecidablePred (GrantFits maxDuration s) := by
  rintro (_ | _) <;> unfold GrantFits <;> first | exact Option.decidableForallMem _ | infer_instance

/-- The statement puts the session into another state than `active`. -/
def Stmt.ends (id : UUID) : Stmt → Bool
  | .setState id' state | .close id' state _ => id' = id ∧ state ≠ .active
  | _ => false

/-- The step is about to run a statement that ends the active session `r`: `SetState` or `Close` of
a handler, `InterruptAllForDevice` or `InterruptAllActive`. -/
def ends (s : RemoteSession.State) (r : Session) : RemoteSession.Label → Bool
  | .exec tid _ =>
    match s.threads tid with
    | some (.preparing _ (stmt :: _)) | some (.running (stmt :: _)) => Stmt.ends r.id stmt
    | _ => false
  | .interruptDevice _ deviceID _ _ => r.deviceID = deviceID
  | .restart _ _ => true
  | _ => false

/-- A session that the step is about to end has no active privilege. -/
def Spares (s : State) : Label → Prop
  | .session l => ∀ r ∈ s.svc.sessions, r.state = .active → ends s.svc r l → s.priv.NoneActive r.id
  | .restart _ _ => ∀ r ∈ s.svc.sessions, r.state = .active → s.priv.NoneActive r.id
  | _ => True

instance (s : State) : DecidablePred (Spares s) := by
  rintro (_ | _) <;> unfold Spares <;> infer_instance

/-- The condition on a step, in the state before it. -/
def Guarded (maxDuration : ℕ) (s : State) (l : Label) (_ : State) : Prop :=
  GrantFits maxDuration s l ∧ Spares s l
  deriving Decidable

variable {maxDuration : ℕ} {s t : State} {l : Label}

/-! ### What a step does to the two tables -/

/-- The session is still there, as active as it was, and expires when it did. -/
def Continues (sessions : List Session) (r : Session) : Prop :=
  ∃ r' ∈ sessions, r'.id = r.id ∧ r'.state = r.state ∧ r'.expiresAt = r.expiresAt

section Continues

variable {svc svc' : RemoteSession.State} {r : Session} (hr : r ∈ svc.sessions)
include hr

theorem continues_attempt {stmt : Stmt} (out : Outcome) (hact : r.state = .active)
    (hends : Stmt.ends r.id stmt = false) : Continues (stmt.attempt svc out).sessions r := by
  have hsame : Continues svc.sessions r := ⟨r, hr, rfl, rfl, rfl⟩
  unfold Stmt.attempt
  split
  · exact hsame
  cases stmt with
  | setMaintenanceSession | setState | close =>
    refine ⟨_, mem_map_of_mem hr, ?_⟩
    split <;> simp_all [Stmt.ends]
  | _ => exact hsame

theorem continues_interrupt {p : Session → Bool} (reason : String) (hp : p r = false) :
    Continues (svc.interrupt p reason).sessions r := by
  refine ⟨_, mem_map_of_mem hr, ?_⟩
  simp [hp]

/-- **Only a statement that ends it takes a session out of `active`.** -/
theorem continues_of_step {l : RemoteSession.Label} (h : RemoteSession.step svc l = some svc')
    (hact : r.state = .active) (hends : ends svc r l = false) : Continues svc'.sessions r := by
  cases step_cases h with
  | openTerminal | openTunnel => exact ⟨r, mem_append_left _ hr, rfl, rfl, rfl⟩
  | prepare hth | exec hth =>
    simp only [ends, hth] at hends
    exact continues_attempt hr _ hact hends
  | interruptDevice | interruptLate => exact continues_interrupt hr _ hends
  | restart | restartFailed => cases hends
  | _ => exact ⟨r, hr, rfl, rfl, rfl⟩

end Continues

/-- The clocks agree, and an active privilege ends before its session. -/
structure LifetimeInv (s : State) : Prop where
  clocks : s.svc.now = s.priv.now
  within : ∀ p ∈ s.priv.rows, p.Active s.priv.now →
    ∃ r ∈ s.svc.sessions, r.id = p.remoteSessionID ∧ r.state = .active ∧ p.validUntil ≤ r.expiresAt

theorem lifetimeInv_init : LifetimeInv State.init where
  clocks := rfl
  within := by simp [State.init, Privilege.State.init]

theorem LifetimeInv.privilegesLive (h : LifetimeInv s) : PrivilegesLive s := by
  intro p hp hact
  obtain ⟨r, hr, hid, hst, hle⟩ := h.within p hp hact
  refine ⟨r, hr, hid, hst, ?_⟩
  rw [h.clocks]
  exact Nat.le_trans (Nat.le_of_lt hact.2) hle

theorem LifetimeInv.svc {svc : RemoteSession.State} {l : RemoteSession.Label} (h : LifetimeInv s)
    (hstep : RemoteSession.step s.svc l = some svc) (hnow : svc.now = s.svc.now)
    (hrows : t.priv.rows = s.priv.rows) (hclock : t.priv.now = s.priv.now) (hsvc : t.svc = svc)
    (hspar : ∀ r ∈ s.svc.sessions, r.state = .active → ends s.svc r l → s.priv.NoneActive r.id) :
    LifetimeInv t := by
  subst hsvc
  refine ⟨by rw [hnow, hclock, h.clocks], fun p hp hact ↦ ?_⟩
  rw [hrows] at hp
  rw [hclock] at hact
  obtain ⟨r, hr, hid, hst, hle⟩ := h.within p hp hact
  -- the session has an active privilege, so the step is not about to end it
  have hends : ends s.svc r l = false := by
    by_contra hends
    exact hspar r hr hst (eq_true_of_ne_false hends) p hp hid.symm hact
  obtain ⟨r', hr', hid', hst', hexp⟩ := continues_of_step hr hstep hst hends
  exact ⟨r', hr', hid'.trans hid, hst'.trans hst, hexp ▸ hle⟩

theorem LifetimeInv.tick (h : LifetimeInv s) {d : ℕ}
    (hsvc : t.svc = { s.svc with now := s.svc.now + d })
    (hpriv : t.priv = { s.priv with now := s.priv.now + d }) : LifetimeInv t := by
  refine ⟨by rw [hsvc, hpriv, h.clocks], fun p hp hact ↦ ?_⟩
  rw [hpriv] at hp hact
  rw [hsvc]
  exact h.within p hp ⟨hact.1, Nat.lt_of_le_of_lt (Nat.le_add_right _ _) hact.2⟩

theorem LifetimeInv.priv (h : LifetimeInv s) (hsvc : t.svc = s.svc)
    (hclock : t.priv.now = s.priv.now) (hrows : ∀ p ∈ t.priv.rows, p.Active s.priv.now →
      (∃ p₀ ∈ s.priv.rows, p₀.Active s.priv.now ∧ p₀.remoteSessionID = p.remoteSessionID ∧
        p₀.validUntil = p.validUntil) ∨
      ∃ r ∈ s.svc.sessions, r.id = p.remoteSessionID ∧ r.state = .active ∧
        p.validUntil ≤ r.expiresAt) :
    LifetimeInv t := by
  refine ⟨by rw [hsvc, hclock, h.clocks], fun p hp hact ↦ ?_⟩
  rw [hclock] at hact
  rw [hsvc]
  obtain ⟨p₀, hp₀, hactive₀, hid, huntil⟩ | hfits := hrows p hp hact
  · obtain ⟨r, hr, hid', hst, hle⟩ := h.within p₀ hp₀ hactive₀
    exact ⟨r, hr, hid'.trans hid, hst, huntil ▸ hle⟩
  · exact hfits

variable {priv : Privilege.State} {clock : ℕ} {durationSeconds : ℤ}

theorem exists_of_mem_revoke {id : UUID} {p : PrivilegeSession} (hp : p ∈ (priv.revoke id).rows)
    (hact : p.Active priv.now) :
    ∃ p₀ ∈ priv.rows, p₀.Active priv.now ∧ p₀.remoteSessionID = p.remoteSessionID ∧
      p₀.validUntil = p.validUntil := by
  obtain ⟨p₀, hp₀, rfl⟩ := mem_map.1 hp
  refine ⟨p₀, hp₀, (Privilege.active_revoke.1 hact).1, ?_, ?_⟩
  · rw [Privilege.remoteSessionID_revoke]
  · unfold PrivilegeSession.revoke
    split <;> rfl

/-- A step of `handleRevokePrivilege` or of the sweeper revokes a row, or leaves all alone. -/
theorem rows_of_privilege {l : Privilege.Label}
    (h : Privilege.step maxDuration s.priv l = some priv) (hl : sharedByPrivileges l = false) :
    priv.now = s.priv.now ∧ (priv.rows = s.priv.rows ∨
      ∃ id, priv.rows = (s.priv.revoke id).rows) := by
  cases l with
  | tick | grant => cases hl
  | select =>
    simp only [Privilege.step] at h
    split_ifs at h
    cases h
    exact ⟨rfl, .inl rfl⟩
  | revoke | sweepRevoke =>
    simp only [Privilege.step] at h
    split at h <;> cases h
    exact ⟨rfl, .inr ⟨_, rfl⟩⟩
  | revokeFailed | sweep | sweepFailed =>
    simp only [Privilege.step] at h
    split at h <;> cases h
    exact ⟨rfl, .inl rfl⟩

theorem rows_of_grant {sess : Session} {reason : String} {id : UUID}
    (h : Privilege.step maxDuration s.priv (.grant sess clock durationSeconds reason id) =
      some priv) :
    priv.now = s.priv.now ∧ ∃ p : PrivilegeSession, priv.rows = s.priv.rows ++ [p] ∧
      p.remoteSessionID = sess.id ∧
      p.validUntil = clock + grantedDuration (seconds durationSeconds) maxDuration := by
  simp only [Privilege.step] at h
  split_ifs at h
  cases h
  exact ⟨rfl, _, rfl, rfl, rfl⟩

/-- A grant for an active session that outlives it. -/
theorem LifetimeInv.grant (h : LifetimeInv s) {n : ℕ} {id : UUID}
    (hstep : step maxDuration s (.grant n clock durationSeconds id) = some t)
    (hfits : GrantFits maxDuration s (.grant n clock durationSeconds id)) : LifetimeInv t := by
  simp only [step] at hstep
  split at hstep
  next sess hsess =>
    obtain ⟨_, hpriv, rfl⟩ := map_eq_some_iff.1 hstep
    obtain ⟨hnow, _, hrows, hid', huntil'⟩ := rows_of_grant hpriv
    refine h.priv rfl hnow fun p hp hact ↦ ?_
    obtain hold | rfl := mem_snoc.1 (hrows ▸ hp)
    · exact .inl ⟨p, hold, hact, rfl, rfl⟩
    · obtain ⟨r, hr, hid, hst, hle⟩ := hfits sess hsess
      exact .inr ⟨r, hr, hid.trans hid'.symm, hst, huntil' ▸ hle⟩
  · cases hstep

/-- **A guarded step keeps the privileges within their sessions.** -/
theorem LifetimeInv.step (h : LifetimeInv s) (hstep : step maxDuration s l = some t)
    (hgrd : Guarded maxDuration s l t) : LifetimeInv t := by
  obtain ⟨hfits, hspar⟩ := hgrd
  cases l with
  | tick d =>
    simp only [Lifetime.step, RemoteSession.step, Privilege.step, bind_some,
      if_pos (Nat.le_add_right s.priv.now d), map_some, some.injEq] at hstep
    exact h.tick (by rw [← hstep]) (by rw [← hstep])
  | session =>
    simp only [Lifetime.step] at hstep
    split_ifs at hstep with hl
    obtain ⟨svc, hsvc, rfl⟩ := map_eq_some_iff.1 hstep
    have hnow : svc.now = s.svc.now := (frame_of_step hsvc).now (by rintro d rfl; exact hl rfl)
    exact h.svc hsvc hnow rfl rfl rfl hspar
  | load =>
    simp only [Lifetime.step] at hstep
    split at hstep <;> cases hstep
    exact { h with }
  | grant => exact h.grant hstep hfits
  | deny =>
    cases hstep
    exact { h with }
  | privilege =>
    simp only [Lifetime.step] at hstep
    split_ifs at hstep with hl
    obtain ⟨_, hpriv, rfl⟩ := map_eq_some_iff.1 hstep
    obtain ⟨hnow, hrows⟩ := rows_of_privilege hpriv (by simpa using hl)
    refine h.priv rfl hnow fun p hp hact ↦ .inl ?_
    obtain hsame | ⟨_, hrev⟩ := hrows
    · exact ⟨p, hsame ▸ hp, hact, rfl, rfl⟩
    · exact exists_of_mem_revoke (hrev ▸ hp) hact
  | restart =>
    obtain ⟨svc, hsvc, rfl⟩ := map_eq_some_iff.1 hstep
    exact h.svc hsvc ((frame_of_step hsvc).now (by rintro d ⟨⟩)) rfl rfl rfl fun r hr hact _ ↦
      hspar r hr hact

/-- **Privileges live inside sessions in guarded runs**: if every grant is for a session active at
that moment that outlives it, and no step is about to end a session with an active privilege, then
in the state reached every active privilege belongs to an active session that has not expired. -/
theorem privilegesLive_of_guarded (maxDuration : ℕ) (ls : List Label) {s : State}
    (hrun : exec (step maxDuration) .init ls = some s)
    (hgrd : Along (step maxDuration) (Guarded maxDuration) .init ls) : PrivilegesLive s := by
  have hstep : ∀ s l t, LifetimeInv s → step maxDuration s l = some t → Guarded maxDuration s l t →
      LifetimeInv t := fun _ _ _ hinv hstep hgrd ↦ hinv.step hstep hgrd
  exact (invariant_of_along hstep lifetimeInv_init hrun hgrd).privilegesLive

namespace Sample

/-- An administrator opens a terminal, for 1800 units of time, and reads it to be granted a
privilege. -/
def opened : List Label :=
  [.session (.openTerminal 0 1 2 3 none 1800), .session (.openMaintenance 0 none),
    .session (.agentReply 0 .success), .session (.exec (.request 0) .ok),
    .session (.exec (.request 0) .ok), .load 1 1]

/-- The privilege is over before the session is closed. -/
def orderly : List Label :=
  opened ++ [.grant 1 0 0 10, .tick 900, .session (.closeSession 2 1),
    .session (.exec (.request 2) .ok), .session (.exec (.request 2) .ok)]

/-- The administrator closes the session while the privilege is active. -/
def closed : List Label :=
  opened ++ [.grant 1 0 0 10, .session (.closeSession 2 1), .session (.exec (.request 2) .ok),
    .session (.exec (.request 2) .ok)]

end Sample

/-- The theorem applies to a session closed once its privilege is over. -/
theorem privilegesLive_of_guarded_orderly : ∃ s, exec (step 900) .init Sample.orderly = some s ∧
      Along (step 900) (Guarded 900) .init Sample.orderly ∧ PrivilegesLive s := by
  have hgrd : Along (step 900) (Guarded 900) .init Sample.orderly := by decide +kernel
  exact ⟨_, rfl, hgrd, privilegesLive_of_guarded 900 Sample.orderly rfl hgrd⟩

/-- **A closed session with an active privilege**: nothing revokes it when the session is closed. -/
theorem not_privilegesLive_closed : ∃ s, exec (step 900) .init Sample.closed = some s ∧
    ¬ PrivilegesLive s :=
  ⟨_, rfl, by decide⟩

end WartungsRemote.RemoteSession.Lifetime
