import Mathlib.Data.List.AList

/-!
# The device registry

The `devices` and `device_credentials` tables and the queries of `internal/device` and
`internal/enrollment` that the control hub and the revocation path run against them. Every query is
one SQL statement (`Revoke`: one transaction), so each is one atomic step of whoever calls it; the
database clock `now()` is an argument. Columns that no modelled query reads or writes (display name,
customer, group, tags, policy, health) are left out, and `updated_at` with them.

Three conventions hold throughout the development. Instants and durations are numbers of
nanoseconds. A Go map is a `GoMap`, Mathlib's association list with distinct keys, because the code
also iterates over its maps. A table that is only ever accessed by primary key is a function into
`Option`.
-/

namespace WartungsRemote

open Function Option

/-- A UUID: 16 bytes, compared as a whole. -/
abbrev UUID : Type := BitVec 128

instance : LawfulBEq UUID := inferInstance

/-- A Go map. -/
abbrev GoMap (κ ν : Type) : Type := AList fun _ : κ ↦ ν

section GoMap

variable {κ ν : Type} [DecidableEq κ] {m : GoMap κ ν} {k k' : κ} {v v' : ν}

theorem GoMap.lookup_of_insert (h : (m.insert k' v').lookup k = some v) :
    k = k' ∧ v = v' ∨ k ≠ k' ∧ m.lookup k = some v := by
  by_cases hk : k = k'
  · rw [hk, AList.lookup_insert] at h
    exact .inl ⟨hk, (some.inj h).symm⟩
  · rw [AList.lookup_insert_ne hk] at h
    exact .inr ⟨hk, h⟩

theorem GoMap.lookup_of_erase (h : (m.erase k').lookup k = some v) :
    k ≠ k' ∧ m.lookup k = some v := by
  by_cases hk : k = k'
  · rw [hk, AList.lookup_erase] at h
    cases h
  · rw [AList.lookup_erase_ne hk] at h
    exact ⟨hk, h⟩

end GoMap

namespace Device

inductive Status
  | unknown
  | online
  | connectionLost
  | offline
  | revoked
  deriving DecidableEq

/-- `devices.credential_status`. -/
inductive CredentialStatus
  | none
  | active
  | revoked
  deriving DecidableEq

/-- A row of `devices`. -/
structure Row where
  installID : UUID
  hostname : String
  osFamily : String
  osName : String
  osVersion : String
  architecture : String
  agentVersion : String
  status : Status
  credentialStatus : CredentialStatus
  lastSeenAt : Option ℕ
  lastPublicIP : Option String
  transportSecure : Option Bool
  revokedAt : Option ℕ
  deriving DecidableEq

/-- A row of `device_credentials`. -/
structure Credential where
  publicKey : List UInt8
  keyVersion : ℕ
  expiresAt : Option ℕ
  revokedAt : Option ℕ
  deriving DecidableEq

/-- The two tables, keyed by device. -/
structure Repo where
  devices : UUID → Option Row
  credentials : UUID → List Credential

namespace Repo

/-- Two empty tables. -/
def empty : Repo where
  devices _ := none
  credentials _ := []

/-- `UPDATE devices SET ... WHERE id = $1`: nothing happens when the row does not exist. -/
def updateRow (r : Repo) (id : UUID) (f : Row → Row) : Repo :=
  { r with devices := update r.devices id ((r.devices id).map f) }

/-- The `INSERT`s of `enrollment.Service.Consume`: a new device with one active credential. -/
def insert (r : Repo) (id installID : UUID) (hostname agentVersion : String)
    (publicKey : List UInt8) : Repo where
  devices := update r.devices id (some
    { installID, hostname, osFamily := "", osName := "", osVersion := "", architecture := "",
      agentVersion, status := .unknown, credentialStatus := .active, lastSeenAt := none,
      lastPublicIP := none, transportSecure := none, revokedAt := none })
  credentials := update r.credentials id
    [{ publicKey, keyVersion := 1, expiresAt := none, revokedAt := none }]

/-- `Repo.Delete`: only a row that never connected; its credentials go with it (`ON DELETE
CASCADE`). -/
def delete (r : Repo) (id : UUID) : Repo :=
  match r.devices id with
  | some d =>
    if d.lastSeenAt.isNone then
      { devices := update r.devices id none
        credentials := update r.credentials id [] }
    else r
  | none => r

/-- `Repo.UpdateConnectivity`: status, `last_seen_at = now()`, and the address if there is one. A
statement that does not land changes nothing. -/
def updateConnectivity (r : Repo) (now : ℕ) (id : UUID) (status : Status) (publicIP : String)
    (lands : Bool) : Repo :=
  r.updateRow id fun d ↦
    if lands then
      { d with
        status
        lastSeenAt := some now
        lastPublicIP := if publicIP = "" then d.lastPublicIP else some publicIP }
    else d

def updateStatusOnly (r : Repo) (id : UUID) (status : Status) : Repo :=
  r.updateRow id fun d ↦ { d with status }

def applyInventory (r : Repo) (id : UUID)
    (hostname osFamily osName osVersion architecture agentVersion : String) (lands : Bool) : Repo :=
  r.updateRow id fun d ↦
    if lands then { d with hostname, osFamily, osName, osVersion, architecture, agentVersion }
    else d

def updateTransportSecurity (r : Repo) (id : UUID) (secure : Bool) : Repo :=
  r.updateRow id fun d ↦ { d with transportSecure := some secure }

/-- `Repo.Revoke`: the device and all its credentials, in one transaction. -/
def revoke (r : Repo) (now : ℕ) (id : UUID) : Repo :=
  { r.updateRow id (fun d ↦
      { d with status := .revoked, credentialStatus := .revoked, revokedAt := some now }) with
    credentials := update r.credentials id ((r.credentials id).map fun k ↦
      if k.revokedAt.isNone then { k with revokedAt := some now } else k) }

/-- `Repo.ActiveCredentialPublicKey`: the usable credential of highest version. -/
def activeCredentialPublicKey (r : Repo) (now : ℕ) (id : UUID) : Option (List UInt8) :=
  let usable := (r.credentials id).filter fun k ↦
    k.revokedAt.isNone && (k.expiresAt.all fun e ↦ decide (now < e))
  (usable.maxOn? (·.keyVersion)).map (·.publicKey)

/-! ### What the queries do to a row -/

variable (r : Repo) (now : ℕ) (id : UUID)

theorem updateRow_devices (f : Row → Row) (id' : UUID) : (r.updateRow id f).devices id' =
      if id' = id then (r.devices id).map f else r.devices id' :=
  update_apply _ _ _ _

variable {f : Row → Row} {id' : UUID} {d : Row}

theorem updateRow_eq_some_iff {d' : Row} : (r.updateRow id f).devices id' = some d' ↔
      ∃ d, r.devices id' = some d ∧ d' = if id' = id then f d else d := by
  rw [updateRow_devices]
  by_cases h : id' = id
  · subst h
    simp only [if_true, map_eq_some_iff]
    exact exists_congr fun d ↦ and_congr_right fun _ ↦ eq_comm
  · simp [h]

theorem delete_devices_eq_some (h : (r.delete id).devices id' = some d) :
    r.devices id' = some d := by
  unfold delete at h
  split at h
  · split at h
    · simp only [update_apply] at h
      split_ifs at h
      · exact h
    · exact h
  · exact h

variable {r id} in
theorem delete_devices_self (hd : r.devices id = some d) :
    (r.delete id).devices id = if d.lastSeenAt.isNone then none else some d := by
  simp only [delete, hd]
  split <;> simp [hd]

theorem delete_devices_of_ne (hne : id' ≠ id) : (r.delete id).devices id' = r.devices id' := by
  unfold delete
  split
  · split
    · exact update_of_ne hne _ _
    · rfl
  · rfl

variable {r} in
theorem isSome_updateRow (h : (r.devices id').isSome) :
    ((r.updateRow id f).devices id').isSome := by
  rw [updateRow_devices]
  split
  next heq =>
    subst heq
    simpa using h
  · exact h

/-- Every credential of the device is revoked. -/
def Unusable : Prop :=
  ∀ k ∈ r.credentials id, k.revokedAt.isSome

variable {r id} in
/-- Without an unrevoked credential there is no key to verify against. -/
theorem Unusable.activeCredentialPublicKey_eq_none (h : r.Unusable id) :
    r.activeCredentialPublicKey now id = none := by
  have hnone : (r.credentials id).filter (fun k ↦
      k.revokedAt.isNone && (k.expiresAt.all fun e ↦ decide (now < e))) = [] := by
    rw [List.filter_eq_nil_iff]
    intro k hk
    obtain ⟨_, hat⟩ := isSome_iff_exists.1 (h k hk)
    simp [hat]
  rw [activeCredentialPublicKey, hnone]
  rfl

/-- **Revocation leaves no usable credential.** -/
theorem unusable_revoke : (r.revoke now id).Unusable id := by
  intro k hk
  simp only [revoke, update_self, List.mem_map] at hk
  obtain ⟨_, -, rfl⟩ := hk
  split
  · rfl
  next hset => simpa [isSome_iff_ne_none] using hset

variable {r id} in
theorem Unusable.revoke (h : r.Unusable id) (id' : UUID) : (r.revoke now id').Unusable id := by
  by_cases hid : id = id'
  · subst hid
    exact r.unusable_revoke now id
  · intro k hk
    simp only [Repo.revoke, update_of_ne hid] at hk
    exact h k hk

variable {r id} in
theorem Unusable.delete (h : r.Unusable id) (id' : UUID) : (r.delete id').Unusable id := by
  unfold Repo.delete
  split
  · split
    · intro k hk
      simp only [update_apply] at hk
      split at hk
      · cases hk
      · exact h k hk
    · exact h
  · exact h

end Repo

end Device

end WartungsRemote
