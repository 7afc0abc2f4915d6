import WartungsRemote.Codec.Base64
import WartungsRemote.Device.Registry

/-!
# Enrollment tokens

The rows that `internal/enrollment` works on, and its decisions on single rows: how long a token
lives, how its text is hashed, when it can be consumed or revoked, and what a consumption writes.
`Tables.repo` is how the rest of the server sees the devices.

The text of a token is not stored. It is `wr_enroll_` and 32 random bytes in base64, and the row has
the hash of the bytes.
-/

namespace WartungsRemote.Enrollment

open List

/-- A row of `enrollment_tokens`. The tags are `none` for the JSON `null`, which is what a nil slice
is marshalled to. -/
structure Token where
  id : UUID
  tokenHash : List UInt8
  customerID : Option UUID
  groupID : Option UUID
  displayName : Option String
  tags : Option (List String)
  createdBy : UUID
  createdAt : ℕ
  expiresAt : ℕ
  consumedAt : Option ℕ
  consumedDeviceID : Option UUID
  revokedAt : Option ℕ
  isReusable : Bool
  useCount : ℕ
  lastUsedAt : Option ℕ
  deriving DecidableEq

/-- What the agent submits. -/
structure AgentEnrollRequest where
  token : Text
  installID : UUID
  publicKey : List UInt8
  agentVersion : String
  os : String
  arch : String
  hostname : String
  deriving DecidableEq

/-- A row of `devices`, as `Consume` inserts it. The last two columns are not in the database: they
remember the request that created the device, and its token. -/
structure Device where
  id : UUID
  installID : UUID
  customerID : Option UUID
  groupID : Option UUID
  displayName : String
  hostname : String
  agentVersion : String
  tags : Option (List String)
  request : AgentEnrollRequest
  enrolledWith : UUID
  deriving DecidableEq

/-- A row of `device_credentials`. -/
structure Credential where
  deviceID : UUID
  publicKey : List UInt8
  keyVersion : ℕ
  deriving DecidableEq

/-! ### The text of a token -/

def tokenPrefix : Text :=
  ['w', 'r', '_', 'e', 'n', 'r', 'o', 'l', 'l', '_']

/-- The text that `generateToken` makes of random bytes. -/
def plaintext (raw : List UInt8) : Text :=
  tokenPrefix ++ Base64.encodeToString Base64.urlAlphabet raw

def hashToken (sha256 : List UInt8 → List UInt8) (token : Text) : Option (List UInt8) :=
  if token.length ≤ tokenPrefix.length ∨ token.take tokenPrefix.length ≠ tokenPrefix then none
  else (Base64.decodeString Base64.urlAlphabet (token.drop tokenPrefix.length)).map sha256

theorem hashToken_plaintext (sha256 : List UInt8 → List UInt8) {raw : List UInt8}
    (hraw : raw ≠ []) : hashToken sha256 (plaintext raw) = some (sha256 raw) := by
  have hlen : ¬ (plaintext raw).length ≤ tokenPrefix.length := by
    rw [plaintext, length_append, Nat.not_le]
    refine Nat.lt_add_of_pos_right (length_pos_iff.2 fun hnil ↦ hraw ?_)
    have hdec := Base64.decodeString_encodeToString Base64.urlAlphabet raw
    rw [hnil] at hdec
    exact (Option.some.inj hdec).symm
  rw [hashToken, if_neg, plaintext, drop_left, Base64.decodeString_encodeToString, Option.map_some]
  rintro (h | h)
  · exact hlen h
  · exact h (by rw [plaintext, take_left])

/-- As many bytes as `generateToken` draws. -/
theorem hashToken_plaintext_bytes :
    hashToken id (plaintext ((range 32).map .ofNat)) = some ((range 32).map .ofNat) :=
  hashToken_plaintext id (by simp)

/-! ### Create -/

structure CreateParams where
  customerID : Option UUID
  groupID : Option UUID
  displayName : String
  expiresIn : ℤ
  tags : Option (List String)
  createdBy : UUID
  reusable : Bool
  deriving DecidableEq

/-- An hour, in nanoseconds. -/
def hour : ℕ := 3600000000000

def maxExpiry : ℕ := 24 * hour

def maxReusableExpiry : ℕ := 90 * 24 * hour

def defaultExpiry : ℕ := hour / 2

/-- The lifetime of a token: what was asked for, if that is positive and below the ceiling. -/
def CreateParams.lifetime (p : CreateParams) : ℕ :=
  let ceiling := if p.reusable then maxReusableExpiry else maxExpiry
  if p.expiresIn ≤ 0 ∨ p.expiresIn > ceiling then defaultExpiry else p.expiresIn.toNat

/-- The row that `Create` inserts, with the clock that it has read. -/
def CreateParams.row (p : CreateParams) (id : UUID) (tokenHash : List UInt8) (clock now : ℕ) :
    Token where
  id := id
  tokenHash := tokenHash
  customerID := p.customerID
  groupID := p.groupID
  displayName := some p.displayName
  tags := p.tags
  createdBy := p.createdBy
  createdAt := now
  expiresAt := clock + p.lifetime
  consumedAt := none
  consumedDeviceID := none
  revokedAt := none
  isReusable := p.reusable
  useCount := 0
  lastUsedAt := none

/-! ### Consume and Revoke on a row -/

/-- `consumed_at IS NULL AND revoked_at IS NULL`. -/
def Token.Outstanding (tok : Token) : Prop :=
  tok.consumedAt = none ∧ tok.revokedAt = none
  deriving Decidable

/-- The check of `Consume` on the row that it has locked. -/
def Token.Usable (tok : Token) (clock : ℕ) : Prop :=
  tok.Outstanding ∧ ¬ clock > tok.expiresAt
  deriving Decidable

/-- The name of the device: the one chosen with the token, the host name, or the install id. -/
def deviceName (uuidString : UUID → String) (tok : Token) (req : AgentEnrollRequest) : String :=
  let name :=
    match tok.displayName with
    | some displayName => if displayName ≠ "" then displayName else req.hostname
    | none => req.hostname
  if name = "" then uuidString req.installID else name

/-- The row of `devices` that `Consume` inserts. -/
def newDevice (uuidString : UUID → String) (tok : Token) (req : AgentEnrollRequest) (id : UUID) :
    Device where
  id := id
  installID := req.installID
  customerID := tok.customerID
  groupID := tok.groupID
  displayName := deviceName uuidString tok req
  hostname := req.hostname
  agentVersion := req.agentVersion
  tags := tok.tags
  request := req
  enrolledWith := tok.id

/-- The row of `device_credentials` that `Consume` inserts. -/
def newCredential (req : AgentEnrollRequest) (deviceID : UUID) : Credential where
  deviceID := deviceID
  publicKey := req.publicKey
  keyVersion := 1

/-- The `UPDATE` of `Consume`. -/
def Token.consume (now : ℕ) (deviceID : UUID) (tok : Token) : Token :=
  if tok.isReusable then { tok with useCount := tok.useCount + 1, lastUsedAt := some now }
  else
    { tok with
      consumedAt := some now
      consumedDeviceID := some deviceID
      useCount := 1
      lastUsedAt := some now }

/-- The `UPDATE` of `Revoke` and `RevokeAllOutstanding`. -/
def Token.revoke (now : ℕ) (tok : Token) : Token :=
  { tok with revokedAt := some now }

/-! ### The tables -/

/-- What is committed. -/
structure Tables where
  tokens : List Token
  devices : List Device
  credentials : List Credential

def Tables.empty : Tables where
  tokens := []
  devices := []
  credentials := []

/-- `UPDATE enrollment_tokens ... WHERE id = $1`. -/
def updateToken (tokens : List Token) (id : UUID) (f : Token → Token) : List Token :=
  tokens.map fun tok ↦ if tok.id = id then f tok else tok

/-- A new device, with the columns set later. -/
def Device.row (d : Device) : Device.Row where
  installID := d.installID
  hostname := d.hostname
  osFamily := ""
  osName := ""
  osVersion := ""
  architecture := ""
  agentVersion := d.agentVersion
  status := .unknown
  credentialStatus := .active
  lastSeenAt := none
  lastPublicIP := none
  transportSecure := none
  revokedAt := none

/-- A new credential, which does not expire. -/
def Credential.row (c : Credential) : Device.Credential where
  publicKey := c.publicKey
  keyVersion := c.keyVersion
  expiresAt := none
  revokedAt := none

/-- The tables, as the rest of the server sees them. -/
def Tables.repo (db : Tables) : Device.Repo where
  devices id := (db.devices.find? fun d ↦ d.id = id).map Device.row
  credentials id := (db.credentials.filter fun c ↦ c.deviceID = id).map Credential.row

theorem repo_insert (uuidString : UUID → String) (tok : Token) {db : Tables}
    {req : AgentEnrollRequest} {id : UUID} (tokens : List Token)
    (hdevices : ∀ d ∈ db.devices, d.id ≠ id) (hcred : ∀ c ∈ db.credentials, c.deviceID ≠ id) :
    Tables.repo { tokens, devices := db.devices ++ [newDevice uuidString tok req id],
                  credentials := db.credentials ++ [newCredential req id] } =
      db.repo.insert id req.installID req.hostname req.agentVersion req.publicKey := by
  have hnone : db.devices.find? (fun d ↦ d.id = id) = none := by simpa using hdevices
  have hnil : db.credentials.filter (fun c ↦ c.deviceID = id) = [] := by simpa using hcred
  unfold Tables.repo Device.Repo.insert
  congr 1
  · funext id'
    rcases eq_or_ne id' id with rfl | hne
    · simp [find?_append, hnone, newDevice, Device.row]
    · simp [find?_append, newDevice, hne, hne.symm]
  · funext id'
    rcases eq_or_ne id' id with rfl | hne
    · simp [filter_append, hnil, newCredential, Credential.row]
    · simp [filter_append, newCredential, hne, hne.symm]

end WartungsRemote.Enrollment
