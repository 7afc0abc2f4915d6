import WartungsRemote.RemoteSession.Service

/-!
# Privileges of a remote session

`privilege_sessions` and what works on it: `GrantPrivilege`, the handler of `DELETE
/sessions/:id/privilege`, and the sweeper that revokes what has expired. A grant is one statement.
The handler and the sweeper first read which rows to revoke and then revoke them one by one.

`handleRevokePrivilege` revokes **one row**: the one that was granted last, among those that are
active when it looks. Nothing keeps a session from having several active rows, so a revocation
reported as a success can leave the session privileged (`not_revocationComplete_overlapping`).

Who may grant or revoke is decided before, and the agent is only notified; both are left out.
-/

namespace WartungsRemote.RemoteSession.Privilege

open List Transition

/-- A row of `privilege_sessions`. -/
structure PrivilegeSession where
  id : UUID
  remoteSessionID : UUID
  userID : UUID
  deviceID : UUID
  createdAt : ℕ
  validUntil : ℕ
  revokedAt : Option ℕ
  reason : String
  deriving DecidableEq

/-- Unrevoked, and valid until later. -/
def PrivilegeSession.Active (p : PrivilegeSession) (now : ℕ) : Prop :=
  p.revokedAt = none ∧ now < p.validUntil
  deriving Decidable

abbrev RequestID : Type := ℕ

/-- The clock, the table, the `handleRevokePrivilege` requests with the row they are about to
revoke, and the rows the sweeper is about to revoke. -/
structure State where
  now : ℕ
  rows : List PrivilegeSession
  revoking : RequestID → Option PrivilegeSession
  sweeping : List PrivilegeSession

/-- Nothing was granted yet. -/
def State.init : State where
  now := 0
  rows := []
  revoking := fun _ ↦ none
  sweeping := []

/-! ### The queries -/

/-- `ActiveForSession` returns the row: active, and no active one of the session is younger. -/
def State.ActiveForSession (s : State) (sessionID : UUID) (p : PrivilegeSession) : Prop :=
  p ∈ s.rows ∧ p.remoteSessionID = sessionID ∧ p.Active s.now ∧
    ∀ r ∈ s.rows, r.remoteSessionID = sessionID → r.Active s.now → r.createdAt ≤ p.createdAt
  deriving Decidable

/-- `UPDATE privilege_sessions SET revoked_at = now() WHERE id = $1 AND revoked_at IS NULL`, on one
row. -/
def PrivilegeSession.revoke (now : ℕ) (id : UUID) (r : PrivilegeSession) : PrivilegeSession :=
  if r.id = id ∧ r.revokedAt = none then { r with revokedAt := some now } else r

def State.revoke (s : State) (id : UUID) : State :=
  { s with rows := s.rows.map (PrivilegeSession.revoke s.now id) }

def State.expiredButNotRevoked (s : State) : List PrivilegeSession :=
  s.rows.filter fun r ↦ r.revokedAt = none ∧ r.validUntil ≤ s.now

/-! ### The calls -/

/-- `time.Duration(req.DurationSeconds) * time.Second`, in 64 bits. -/
def seconds (n : ℤ) : ℤ :=
  (n * 1000000000).bmod 18446744073709551616

/-- The duration that `GrantPrivilege` uses. -/
def grantedDuration (duration : ℤ) (maxDuration : ℕ) : ℕ :=
  if duration ≤ 0 ∨ duration > maxDuration then maxDuration else duration.toNat

inductive Label
  | tick (now : ℕ)
  /-- `GrantPrivilege` of a session as it was read before, with the clock that it has read, and the
  id of the new row. -/
  | grant (sess : Session) (clock : ℕ) (durationSeconds : ℤ) (reason : String) (id : UUID)
  /-- `handleRevokePrivilege` has called `ActiveForSession`. -/
  | select (req : RequestID) (sessionID : UUID) (p : PrivilegeSession)
  /-- `RevokePrivilege` in `handleRevokePrivilege`, which then reports success. -/
  | revoke (req : RequestID)
  | revokeFailed (req : RequestID)
  /-- The sweeper has called `expiredButNotRevoked`. -/
  | sweep
  | sweepRevoke
  | sweepFailed

def step (maxDuration : ℕ) (s : State) : Label → Option State
  | .tick now => if s.now ≤ now then some { s with now := now } else none
  | .grant sess clock durationSeconds reason id =>
    if sess.state = .active ∧ clock ≤ s.now ∧ ∀ r ∈ s.rows, r.id ≠ id then
      let row : PrivilegeSession :=
        { id := id, remoteSessionID := sess.id, userID := sess.userID, deviceID := sess.deviceID,
          createdAt := s.now,
          validUntil := clock + grantedDuration (seconds durationSeconds) maxDuration,
          revokedAt := none, reason := reason }
      some { s with rows := s.rows ++ [row] }
    else none
  | .select req sessionID p =>
    if s.revoking req = none ∧ s.ActiveForSession sessionID p then
      some { s with revoking := Function.update s.revoking req (some p) }
    else none
  | .revoke req =>
    match s.revoking req with
    | some p => some { s.revoke p.id with revoking := Function.update s.revoking req none }
    | none => none
  | .revokeFailed req =>
    match s.revoking req with
    | some _ => some { s with revoking := Function.update s.revoking req none }
    | none => none
  | .sweep =>
    match s.sweeping with
    | [] => some { s with sweeping := s.expiredButNotRevoked }
    | _ :: _ => none
  | .sweepRevoke =>
    match s.sweeping with
    | [] => none
    | p :: rest => some { s.revoke p.id with sweeping := rest }
  | .sweepFailed =>
    match s.sweeping with
    | [] => none
    | _ :: rest => some { s with sweeping := rest }

/-! ### Rows over time -/

/-- No row of the session is active. -/
def State.NoneActive (s : State) (sessionID : UUID) : Prop :=
  ∀ r ∈ s.rows, r.remoteSessionID = sessionID → ¬ r.Active s.now
  deriving Decidable

/-- The label grants a privilege to the session. -/
def Label.Grants (sessionID : UUID) : Label → Prop
  | .grant sess _ _ _ _ => sess.id = sessionID
  | _ => False

section Rows

variable {maxDuration : ℕ} {s t u : State} {sessionID : UUID}

@[simp]
theorem remoteSessionID_revoke (now : ℕ) (id : UUID) (r : PrivilegeSession) :
    (r.revoke now id).remoteSessionID = r.remoteSessionID := by
  unfold PrivilegeSession.revoke
  split <;> rfl

theorem active_revoke {now : ℕ} {id : UUID} {r : PrivilegeSession} :
    (r.revoke now id).Active now ↔ r.Active now ∧ r.id ≠ id := by
  unfold PrivilegeSession.revoke PrivilegeSession.Active
  split_ifs with h
  · simp [h.1]
  · constructor
    · exact fun hact ↦ ⟨hact, fun hid ↦ h ⟨hid, hact.1⟩⟩
    · exact And.left

theorem noneActive_revoke (h : s.NoneActive sessionID) (id : UUID) :
    (s.revoke id).NoneActive sessionID := by
  intro r' hr' hses hact
  obtain ⟨r, hr, rfl⟩ := mem_map.1 hr'
  exact h r hr (by simpa using hses) (active_revoke.1 hact).1

/-- What a step does to the rows and the clock: time passes, a row is granted, or one that was not
revoked is. Requests and sweeper come after that. -/
theorem rows_of_step {l : Label} (hstep : step maxDuration s l = some t) :
    (t.rows = s.rows ∧ s.now ≤ t.now) ∨
    (∃ row, l.Grants row.remoteSessionID ∧ t.rows = s.rows ++ [row] ∧ t.now = s.now) ∨
      ∃ id, t.rows = (s.revoke id).rows ∧ t.now = s.now := by
  cases l with
  | tick =>
    simp only [step] at hstep
    split_ifs at hstep with hnow
    cases hstep
    exact .inl ⟨rfl, hnow⟩
  | grant =>
    simp only [step] at hstep
    split_ifs at hstep
    cases hstep
    refine .inr (.inl ⟨_, ?_, rfl, rfl⟩)
    exact rfl
  | select =>
    simp only [step] at hstep
    split_ifs at hstep
    cases hstep
    exact .inl ⟨rfl, le_rfl⟩
  | revoke | sweepRevoke =>
    simp only [step] at hstep
    split at hstep <;> cases hstep
    exact .inr (.inr ⟨_, rfl, rfl⟩)
  | revokeFailed | sweep | sweepFailed =>
    simp only [step] at hstep
    split at hstep <;> cases hstep
    exact .inl ⟨rfl, le_rfl⟩

/-- Without a grant no row becomes active. -/
theorem noneActive_step {l : Label} (h : s.NoneActive sessionID) (hl : ¬ l.Grants sessionID)
    (hstep : step maxDuration s l = some t) : t.NoneActive sessionID := by
  intro r hr hses hact
  obtain ⟨hrows, hnow⟩ | ⟨_, hgrants, hrows, hnow⟩ | ⟨id, hrows, hnow⟩ := rows_of_step hstep
  · -- what is valid later was valid before
    exact h r (hrows ▸ hr) hses ⟨hact.1, Nat.lt_of_le_of_lt hnow hact.2⟩
  · rw [hnow] at hact
    obtain hold | rfl := mem_snoc.1 (hrows ▸ hr)
    · exact h r hold hses hact
    · exact hl (hses ▸ hgrants)
  · rw [hnow] at hact
    exact noneActive_revoke h id r (hrows ▸ hr) hses hact

theorem noneActive_exec {ls : List Label} (h : s.NoneActive sessionID)
    (hls : ∀ l ∈ ls, ¬ l.Grants sessionID) (hrun : exec (step maxDuration) s ls = some t) :
    t.NoneActive sessionID := by
  have hgrd : Along (step maxDuration) (fun _ l _ ↦ ¬ l.Grants sessionID) s ls :=
    along_of_forall_mem fun l hl _ _ ↦ hls l hl
  have hstep : ∀ s l t, s.NoneActive sessionID → step maxDuration s l = some t →
      ¬ l.Grants sessionID → t.NoneActive sessionID := fun _ _ _ h hstep hl ↦
        noneActive_step h hl hstep
  exact invariant_of_along (I := fun s ↦ s.NoneActive sessionID) hstep h hrun hgrd

end Rows

/-! ### Revocation -/

/-- After the state, and as long as the session is granted nothing, it has no active row. -/
def State.StaysRevoked (maxDuration : ℕ) (s : State) (sessionID : UUID) : Prop :=
  ∀ ls u, (∀ l ∈ ls, ¬ l.Grants sessionID) → exec (step maxDuration) s ls = some u →
    u.NoneActive sessionID

/-- When `handleRevokePrivilege` reports success, the session has no active row until the next
grant. -/
def RevocationComplete (maxDuration : ℕ) : Prop :=
  ∀ ls s req p t, exec (step maxDuration) .init ls = some s → s.revoking req = some p →
    step maxDuration s (.revoke req) = some t → t.StaysRevoked maxDuration p.remoteSessionID

/-- **A revocation is complete exactly if no other row is active when its update runs.** -/
theorem staysRevoked_iff_of_revoke {maxDuration : ℕ} {s t : State} {req : RequestID}
    {p : PrivilegeSession} (hreq : s.revoking req = some p)
    (hstep : step maxDuration s (.revoke req) = some t) :
    t.StaysRevoked maxDuration p.remoteSessionID ↔
      ∀ r ∈ s.rows, r.remoteSessionID = p.remoteSessionID → r.Active s.now → r.id = p.id := by
  simp only [step, hreq] at hstep
  cases hstep
  constructor
  · intro h r hr hses hact
    by_contra hne
    refine h [] _ (by simp) rfl (r.revoke s.now p.id) (mem_map_of_mem hr) ?_ ?_
    · rw [remoteSessionID_revoke, hses]
    · exact active_revoke.2 ⟨hact, hne⟩
  · intro h ls u hls hrun
    refine noneActive_exec (fun r' hr' hses hact ↦ ?_) hls hrun
    obtain ⟨r, hr, rfl⟩ := mem_map.1 hr'
    obtain ⟨hact, hne⟩ := active_revoke.1 hact
    exact hne (h r hr (by simpa using hses) hact)

namespace Sample

/-- An active session. -/
def session : Session where
  id := 1
  deviceID := 2
  userID := 3
  kind := .terminal
  state := .active
  openedAt := 0
  closedAt := none
  expiresAt := 1000
  closeReason := none
  maintenanceSessionID := none

/-- The row of a grant for one second. -/
def row (id : UUID) (createdAt : ℕ) : PrivilegeSession where
  id := id
  remoteSessionID := 1
  userID := 3
  deviceID := 2
  createdAt
  validUntil := createdAt + 1000000000
  revokedAt := none
  reason := "admin_requested"

def grant (id : UUID) (clock : ℕ) : Label :=
  .grant session clock 1 "admin_requested" id

/-- The first grant has expired, and a request has selected the row of another one. -/
def selected : State where
  now := 1000000000
  rows := [row 10 0, row 11 1000000000]
  revoking := Function.update (fun _ ↦ none) 0 (some (row 11 1000000000))
  sweeping := []

end Sample

open Sample

/-- With two grants, the older one expired, the revocation is complete. -/
theorem staysRevoked_iff_of_revoke_expired :
    exec (step 1000000000) .init [grant 10 0, .tick 1000000000, grant 11 1000000000,
      .select 0 1 (row 11 1000000000)] = some selected ∧
      ∃ t, step 1000000000 selected (.revoke 0) = some t ∧ t.StaysRevoked 1000000000 1 := by
  have hreq : selected.revoking 0 = some (row 11 1000000000) := rfl
  exact ⟨rfl, _, rfl, (staysRevoked_iff_of_revoke hreq rfl).2 (by decide)⟩

/-- With two grants at once, the first one stays active. -/
theorem not_revocationComplete_overlapping : ¬ RevocationComplete 1000000000 := by
  intro h
  have hrev := h [grant 10 0, grant 11 0, .select 0 1 (row 11 0)] _ 0 (row 11 0) _ rfl rfl rfl [] _
    (by simp) rfl
  revert hrev
  decide

end WartungsRemote.RemoteSession.Privilege
