import WartungsRemote.Auth.RateLimiter
import WartungsRemote.Device.Registry

/-!
# The tables behind the login

`users`, `user_mfa`, `mfa_challenges` and `user_sessions`, and the statements of `internal/auth`
that write them. A request makes one of these writes at a time (`Write`), and what it does to each
table is said once (`Tables.apply`).

The secret of a user is stored encrypted under a key that does not change, so the column is modelled
as the secret itself. Ids are generated by the database; an `INSERT` with an id that exists does not
happen. The last column of a challenge and the last two of a session are not in the database: they
remember the request that created the row, and by which way the session was come by.
-/

namespace WartungsRemote.Auth

open Function

/-- A request of a handler. -/
abbrev ReqID : Type := ℕ

inductive UserStatus
  | active
  | disabled
  | locked
  deriving DecidableEq

/-- A row of `users`. -/
structure User where
  id : UUID
  username : Text
  passwordHash : Text
  status : UserStatus
  mfaRequired : Bool
  failedLoginCount : ℕ
  lockedUntil : Option ℕ
  lastLoginAt : Option ℕ
  deriving DecidableEq

/-- `user.LockedUntil != nil && time.Now().UTC().Before(*user.LockedUntil)`. -/
def User.Locked (u : User) (now : ℕ) : Prop :=
  ∃ t ∈ u.lockedUntil, now < t

instance (u : User) (now : ℕ) : Decidable (u.Locked now) :=
  decidable_of_iff (u.lockedUntil.any fun t ↦ decide (now < t)) (by
    cases h : u.lockedUntil <;> simp [User.Locked, h])

/-- A row of `user_mfa`. -/
structure UserMFA where
  secret : Text
  confirmedAt : Option ℕ
  recoveryCodeHashes : List Text
  deriving DecidableEq

/-- A row of `mfa_challenges`. -/
structure Challenge where
  userID : UUID
  createdAt : ℕ
  expiresAt : ℕ
  attempts : ℕ
  consumedAt : Option ℕ
  ip : Text
  issuedBy : ReqID
  deriving DecidableEq

/-- The check of `CompleteMFA` on a challenge. -/
def Challenge.Open (c : Challenge) (now : ℕ) : Prop :=
  c.consumedAt = none ∧ ¬ now > c.expiresAt ∧ c.attempts < 5
  deriving Decidable

/-- How a session came about: by the password alone, by completing a challenge, or by confirming the
setup of the second factor. -/
inductive Via
  | login
  | challenge (cid : UUID)
  | setup
  deriving DecidableEq

/-- A row of `user_sessions`. -/
structure UserSession where
  id : UUID
  userID : UUID
  tokenHash : List UInt8
  createdAt : ℕ
  lastSeenAt : ℕ
  expiresAt : ℕ
  idleExpiresAt : ℕ
  ip : Text
  userAgent : Text
  createdBy : ReqID
  via : Via
  deriving DecidableEq

/-- `user_mfa` and `mfa_challenges` are only accessed by their primary keys. -/
structure Tables where
  users : List User
  mfa : UUID → Option UserMFA
  challenges : UUID → Option Challenge
  sessions : List UserSession

def Tables.empty : Tables where
  users := []
  mfa _ := none
  challenges _ := none
  sessions := []

/-! ### Writes -/

/-- A minute, in nanoseconds. -/
def minute : ℕ := 60000000000

/-- `UPDATE users SET ... WHERE id = $1`. -/
def updateUser (users : List User) (id : UUID) (f : User → User) : List User :=
  users.map fun u ↦ if u.id = id then f u else u

/-- The `UPDATE` of `RegisterFailedLogin`: the tenth failure in a row locks the account for fifteen
minutes. -/
def User.registerFailedLogin (now : ℕ) (u : User) : User :=
  { u with
    failedLoginCount := u.failedLoginCount + 1
    lockedUntil := if u.failedLoginCount + 1 ≥ 10 then some (now + 15 * minute) else u.lockedUntil }

/-- The `UPDATE` of `ResetFailedLogins`. -/
def User.resetFailedLogins (now : ℕ) (u : User) : User :=
  { u with failedLoginCount := 0, lockedUntil := none, lastLoginAt := some now }

/-- One statement that writes. -/
inductive Write
  | none
  | createUser (id : UUID) (username passwordHash : Text)
  | setStatus (id : UUID) (status : UserStatus)
  | setMFARequired (id : UUID) (required : Bool)
  | updatePasswordHash (id : UUID) (passwordHash : Text)
  | registerFailedLogin (id : UUID)
  | resetFailedLogins (id : UUID)
  /-- `BeginSetup` stores a secret, unless the stored one is confirmed. -/
  | storeSecret (userID : UUID) (secret : Text)
  /-- `ConfirmSetup` marks the stored secret as confirmed. -/
  | confirmMFA (userID : UUID) (recoveryCodeHashes : List Text)
  /-- `ConsumeRecoveryCode` stores the hashes that are left. -/
  | setRecoveryCodeHashes (userID : UUID) (recoveryCodeHashes : List Text)
  | insertChallenge (id : UUID) (c : Challenge)
  /-- `CompleteMFA` counts a wrong code. -/
  | countAttempt (cid : UUID)
  /-- `CompleteMFA` consumes the challenge. -/
  | consumeChallenge (cid : UUID)
  | insertSession (sess : UserSession)

/-- The row that `BeginSetup` leaves. -/
def storeSecret (row : Option UserMFA) (secret : Text) : UserMFA :=
  match row with
  | some m =>
    if m.confirmedAt = none then { secret, confirmedAt := none, recoveryCodeHashes := [] } else m
  | none => { secret, confirmedAt := none, recoveryCodeHashes := [] }

/-- The constraints of the tables: ids are new, and so are user names and tokens. -/
def Write.Fits (sameName : Text → Text → Bool) (db : Tables) : Write → Prop
  | .createUser id username _ => ∀ u ∈ db.users, u.id ≠ id ∧ sameName u.username username = false
  | .insertChallenge id _ => db.challenges id = Option.none
  | .insertSession sess => ∀ x ∈ db.sessions, x.id ≠ sess.id ∧ x.tokenHash ≠ sess.tokenHash
  | _ => True

instance (sameName : Text → Text → Bool) (db : Tables) :
    DecidablePred (Write.Fits sameName db) := by
  rintro (_ | _) <;> unfold Write.Fits <;> infer_instance

namespace Tables

variable (db : Tables) (now : ℕ)

/-- What a write does to `users`. -/
def applyUsers : Write → List User
  | .createUser id username passwordHash =>
    db.users ++ [{ id, username, passwordHash, status := .active, mfaRequired := true,
                   failedLoginCount := 0, lockedUntil := none, lastLoginAt := none }]
  | .setStatus id status =>
    updateUser db.users id fun u ↦ { u with status := status, lockedUntil := none }
  | .setMFARequired id required => updateUser db.users id fun u ↦ { u with mfaRequired := required }
  | .updatePasswordHash id passwordHash =>
    updateUser db.users id fun u ↦ { u with passwordHash := passwordHash }
  | .registerFailedLogin id => updateUser db.users id (User.registerFailedLogin now)
  | .resetFailedLogins id => updateUser db.users id (User.resetFailedLogins now)
  | _ => db.users

/-- What a write does to `user_mfa`. -/
def applyMFA : Write → UUID → Option UserMFA
  | .storeSecret userID secret =>
    update db.mfa userID (some (storeSecret (db.mfa userID) secret))
  | .confirmMFA userID recoveryCodeHashes =>
    update db.mfa userID ((db.mfa userID).map fun m ↦
      { m with confirmedAt := some now, recoveryCodeHashes })
  | .setRecoveryCodeHashes userID recoveryCodeHashes =>
    update db.mfa userID ((db.mfa userID).map fun m ↦ { m with recoveryCodeHashes })
  | _ => db.mfa

/-- What a write does to `mfa_challenges`. -/
def applyChallenges : Write → UUID → Option Challenge
  | .insertChallenge id c => update db.challenges id (some c)
  | .countAttempt cid =>
    update db.challenges cid ((db.challenges cid).map fun c ↦ { c with attempts := c.attempts + 1 })
  | .consumeChallenge cid =>
    update db.challenges cid ((db.challenges cid).map fun c ↦ { c with consumedAt := some now })
  | _ => db.challenges

/-- What a write does to `user_sessions`. -/
def applySessions : Write → List UserSession
  | .insertSession sess => db.sessions ++ [sess]
  | _ => db.sessions

/-- The tables after a write. -/
def apply (w : Write) : Tables where
  users := db.applyUsers now w
  mfa := db.applyMFA now w
  challenges := db.applyChallenges now w
  sessions := db.applySessions w

/-! ### The row that is written -/

theorem challenges_insertChallenge (cid : UUID) (c : Challenge) :
    (db.apply now (.insertChallenge cid c)).challenges cid = some c :=
  update_self ..

theorem challenges_countAttempt (cid : UUID) : (db.apply now (.countAttempt cid)).challenges cid =
      (db.challenges cid).map fun c ↦ { c with attempts := c.attempts + 1 } :=
  update_self ..

theorem challenges_consumeChallenge (cid : UUID) :
    (db.apply now (.consumeChallenge cid)).challenges cid =
      (db.challenges cid).map fun c ↦ { c with consumedAt := some now } :=
  update_self ..

theorem mfa_storeSecret (userID : UUID) (secret : Text) :
    (db.apply now (.storeSecret userID secret)).mfa userID = some
    (storeSecret (db.mfa userID) secret) :=
  update_self ..

theorem mfa_confirmMFA (userID : UUID) (recoveryCodeHashes : List Text) :
    (db.apply now (.confirmMFA userID recoveryCodeHashes)).mfa userID =
      (db.mfa userID).map fun m ↦ { m with confirmedAt := some now, recoveryCodeHashes } :=
  update_self ..

theorem mfa_setRecoveryCodeHashes (userID : UUID) (recoveryCodeHashes : List Text) :
    (db.apply now (.setRecoveryCodeHashes userID recoveryCodeHashes)).mfa userID =
      (db.mfa userID).map fun m ↦ { m with recoveryCodeHashes } :=
  update_self ..

end Tables

end WartungsRemote.Auth
