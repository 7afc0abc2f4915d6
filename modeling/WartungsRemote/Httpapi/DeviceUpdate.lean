import WartungsRemote.AgentRelease.Repo
import WartungsRemote.Httpapi.Handlers
import WartungsRemote.Monitoring.Version

/-!
# Offering an update to a device

`handleTriggerDeviceUpdate` sends a device the release that `Latest` finds for its operating system,
its architecture and the channel of the request, unless the device reports just that version
(`offers_latest`). The version may be **older** than the one that the device runs: `Latest` goes by
the time at which a release was entered. And it may be **blocked in another channel**: the device is
told to install it, and the handshake then refuses the device.
-/

namespace WartungsRemote.Httpapi

open List AgentRelease
open AgentUpdate (AgentUpdateParams)
open Auth (PermissionGrant Permission HasPermission)
open Monitoring (isOlderVersion)

def loadDeviceWithAccess (grants : List PermissionGrant) (db : Database) (permission : Permission)
    (id : Text) : Except Failure Device.Listed :=
  match Uuid.parse id with
  | none => .error ⟨400, "invalid_request", "invalid device id"⟩
  | some id =>
    match db.devices.find? (·.id = id) with
    | none => .error ⟨404, "resource_not_found", "Device not found"⟩
    | some d =>
      if HasPermission grants permission (deviceResource d) then .ok d else .error permissionDenied

def updateParams (rl : Release) : AgentUpdateParams where
  version := rl.version
  artifactURL := rl.artifactURL
  artifactSHA256Hex := rl.artifactSHA256Hex
  signatureBase64 := rl.signatureBase64

/-- The channel of the request. -/
def updateChannel (channel : Text) : Text :=
  if channel = [] then ['s', 't', 'a', 'b', 'l', 'e'] else channel

section Handler

variable (grants : List PermissionGrant) (db : Database) (releases : Table) (online : UUID → Bool)
  (sent : Bool)

/-- `handleTriggerDeviceUpdate`: the response, and the command passed to `SendMessage` for a device.
The arguments at the end are the id in the path and the channel in the body, empty if missing.
`sent` is whether `SendMessage` succeeds. -/
def handleTriggerDeviceUpdate (id channel : Text) :
    Except Failure Text × Option (UUID × AgentUpdateParams) :=
  match loadDeviceWithAccess grants db .agentUpdate id with
  | .error err => (.error err, none)
  | .ok d =>
    if online d.id = false then (.error ⟨409, "device_offline", "Device is not connected"⟩, none)
    else
      match releases.latest (d.osFamily.getD []) (d.architecture.getD []) (updateChannel channel)
          with
      | .error .notFound => (.error ⟨404, "not_found",
          "No matching release found for this device's OS/architecture/channel"⟩, none)
      | .error .scan => (.error ⟨500, "internal_error", "Failed to look up releases"⟩, none)
      | .ok rl =>
        if rl.version = d.agentVersion.getD [] then
          (.error ⟨409, "already_current", "Device already runs this version"⟩, none)
        else
          (if sent then .ok rl.version
            else .error ⟨409, "device_busy", "Failed to send update command to device"⟩,
            some (d.id, updateParams rl))

end Handler

variable {grants : List PermissionGrant} {db : Database} {releases : Table} {online : UUID → Bool}
  {sent : Bool} {id channel : Text} {d : Device.Listed} {params : AgentUpdateParams}

theorem mem_of_loadDeviceWithAccess {permission : Permission}
    (h : loadDeviceWithAccess grants db permission id = .ok d) :
    d ∈ db.devices ∧ HasPermission grants permission (deviceResource d) = true := by
  unfold loadDeviceWithAccess at h
  split at h
  · cases h
  split at h
  · cases h
  next hfind =>
    split_ifs at h with hpermission
    obtain rfl := Except.ok.inj h
    exact ⟨mem_of_find?_eq_some hfind, hpermission⟩

theorem row_of_handleTriggerDeviceUpdate (hd : d ∈ db.devices)
    (h : (handleTriggerDeviceUpdate grants db releases online sent id channel).2 =
      some (d.id, params)) :
    ∃ r, releases.latestRow (d.osFamily.getD []) (d.architecture.getD []) (updateChannel channel) =
      some r ∧ params = updateParams (scanRelease r) ∧ r.version ≠ d.agentVersion.getD [] := by
  unfold handleTriggerDeviceUpdate at h
  split at h
  · cases h
  next d' hload =>
    split at h
    · cases h
    split at h
    · cases h
    · cases h
    next rl hlat =>
      split at h
      · cases h
      next hvers =>
      obtain ⟨hid, rfl⟩ := Prod.mk.inj (Option.some.inj h)
      -- the device of the command is the one that was loaded
      obtain rfl : d' = d :=
        inj_on_of_nodup_map db.devices_nodup (mem_of_loadDeviceWithAccess hload).1 hd hid
      obtain ⟨r, hrow, rfl⟩ := latestRow_of_latest hlat
      exact ⟨r, hrow, rfl, hvers⟩

/-! ### Sane offers -/

/-- The version is blocked in no channel, and not older than the one the device reports. -/
def SaneOffer (releases : Table) (d : Device.Listed) (version : Text) : Prop :=
  releases.isVersionBlocked (d.osFamily.getD []) (d.architecture.getD []) version = false ∧
    isOlderVersion version (d.agentVersion.getD []) = false
  deriving Decidable

/-- The version is not blocked in another channel. -/
def UnblockedElsewhere (releases : Table) (d : Device.Listed) (channel version : Text) : Prop :=
  ∀ r ∈ releases.rows, r.osFamily = d.osFamily.getD [] → r.architecture = d.architecture.getD [] →
    r.version = version → r.channel ≠ channel → r.blocked = false
  deriving Decidable

/-- The release sent is blocked in some channel exactly if it is in one other than the requested. -/
theorem isVersionBlocked_eq_false_iff {r : Row} (hr : r ∈ releases.rows)
    (hoff : r.offered (d.osFamily.getD []) (d.architecture.getD []) channel = true) :
    releases.isVersionBlocked (d.osFamily.getD []) (d.architecture.getD []) r.version = false ↔
      UnblockedElsewhere releases d channel r.version := by
  obtain ⟨hos, harch, hchan, hunblocked⟩ := offered_iff.1 hoff
  rw [← Bool.not_eq_true, isVersionBlocked_iff]
  constructor
  · intro hnone r' hr' hos' harch' hvers' _
    by_contra hblk
    exact hnone ⟨r', hr', hos', harch', hvers', by simpa using hblk⟩
  · rintro helsewhere ⟨r', hr', hos', harch', hvers', hblk⟩
    by_cases hsame : r'.channel = channel
    · -- in the channel of the request there is one row of the version, the one sent
      have hkey : r'.key = r.key := by
        simp only [Row.key, hos', hos, harch', harch, hvers', hsame, hchan]
      rw [releases.eq_of_key_eq hr' hr hkey, hunblocked] at hblk
      cases hblk
    · rw [helsewhere r' hr' hos' harch' hvers' hsame] at hblk
      cases hblk

/-- **What is offered**: the release published last, of those of the channel that are for the device
and not blocked there, unless the device reports its version. It is blocked in no channel exactly if
it is in no other. -/
theorem offers_latest (hd : d ∈ db.devices)
    (h : (handleTriggerDeviceUpdate grants db releases online sent id channel).2 =
      some (d.id, params)) :
    ∃ r ∈ releases.rows, params = updateParams (scanRelease r) ∧
      r.version ≠ d.agentVersion.getD [] ∧ r.offered (d.osFamily.getD []) (d.architecture.getD [])
      (updateChannel channel) = true ∧ (∀ r' ∈ releases.rows,
        r'.offered (d.osFamily.getD []) (d.architecture.getD []) (updateChannel channel) = true →
          r'.publishedAt ≤ r.publishedAt) ∧
      (releases.isVersionBlocked (d.osFamily.getD []) (d.architecture.getD []) r.version = false ↔
        UnblockedElsewhere releases d (updateChannel channel) r.version) := by
  obtain ⟨r, hlat, rfl, hvers⟩ := row_of_handleTriggerDeviceUpdate hd h
  obtain ⟨hr, hoff⟩ := mem_of_latestRow hlat
  exact ⟨r, hr, rfl, hvers, hoff, fun _ hr' ↦ publishedAt_le_of_latestRow hlat hr',
    isVersionBlocked_eq_false_iff hr hoff⟩

namespace Sample

/-- The caller may update every device. -/
def updater : List PermissionGrant :=
  [⟨.agentUpdate, .global, none⟩]

def releaseRow (id : UUID) (version channel : Text) : Row where
  id
  version
  osFamily := ['l', 'i', 'n', 'u', 'x']
  architecture := ['a', 'm', 'd', '6', '4']
  channel
  artifactURL := ['u']
  artifactSHA256 := replicate 32 0
  signature := replicate 64 0
  publishedAt := id.toNat
  minimumSupported := false
  blocked := false

/-- Version 2.0 is released in both channels. -/
def manifest : Table where
  rows :=
    [releaseRow 1 ['2', '.', '0'] ['b', 'e', 't', 'a'],
      releaseRow 2 ['2', '.', '0'] ['s', 't', 'a', 'b', 'l', 'e']]
  ids_nodup := by decide
  keys_nodup := by decide

def updatable (agentVersion : Text) : Device.Listed where
  id := 1
  installID := 2
  customerID := none
  groupID := none
  displayName := []
  hostname := none
  osFamily := some ['l', 'i', 'n', 'u', 'x']
  osName := none
  osVersion := none
  architecture := some ['a', 'm', 'd', '6', '4']
  agentVersion := some agentVersion
  status := .online
  health := .healthy
  healthReasons := none
  tags := none
  lastSeenAt := none
  lastPublicIP := none
  transportSecure := none

theorem sorted_nil : (([] : List Audit.Row).map Audit.Row.id).Pairwise (· < ·) :=
  .nil

theorem fresh_nil : ∀ r ∈ ([] : List Audit.Row), r.id < 1 := by
  simp

def updatableOnly (agentVersion : Text) : Database where
  devices := [updatable agentVersion]
  samples := []
  alerts := []
  log := { rows := [], nextID := 1, sorted := sorted_nil, fresh := fresh_nil }
  username _ := none
  devices_nodup := by simp
  samples_device := by simp
  alerts_device := by simp

/-- What is sent to the only device, which runs the given version. -/
def command (releases : Table) (agentVersion : Text) : Option (UUID × AgentUpdateParams) :=
  (handleTriggerDeviceUpdate updater (updatableOnly agentVersion) releases (fun _ ↦ true) true
    (replicate 31 '0' ++ ['1']) []).2

end Sample

open Sample

/-- A device with version 1.0 is offered version 2.0, which is blocked nowhere. -/
theorem offers_latest_upgrade : ∃ params, command manifest ['1', '.', '0'] = some (1, params) ∧
    ∃ r ∈ manifest.rows, params = updateParams (scanRelease r) ∧
      (manifest.isVersionBlocked ['l', 'i', 'n', 'u', 'x'] ['a', 'm', 'd', '6', '4'] r.version =
        false ↔ UnblockedElsewhere manifest (updatable ['1', '.', '0']) ['s', 't', 'a', 'b', 'l',
          'e'] r.version) := by
  have h : command manifest ['1', '.', '0'] = some (1, _) := rfl
  obtain ⟨r, hr, hpar, -, -, -, hblk⟩ :=
    offers_latest (d := updatable ['1', '.', '0']) mem_cons_self h
  exact ⟨_, h, r, hr, hpar, hblk⟩

/-- **Offers that are not sane**: a version blocked among the previews, and one older than the
device's. -/
theorem not_saneOffer_blocked : (∃ releases params, manifest.setBlocked 1 true = some releases ∧
      command releases ['1', '.', '0'] = some (1, params) ∧
      ¬ SaneOffer releases (updatable ['1', '.', '0']) params.version) ∧
    ∃ params, command manifest ['3', '.', '0'] = some (1, params) ∧
      ¬ SaneOffer manifest (updatable ['3', '.', '0']) params.version :=
  ⟨⟨_, _, rfl, rfl, by decide +kernel⟩, _, rfl, by decide +kernel⟩

end WartungsRemote.Httpapi
