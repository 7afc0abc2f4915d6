import WartungsRemote.Codec.Uuid
import WartungsRemote.Httpapi.Queries

/-!
# The handlers of the lists

`handleListDevices`, `handleNetworkUsageSummary`, `handleListAlerts` and `handleAuditLog`: each asks
whether the caller holds a permission **anywhere** (`HasAnyGrant`), reads the query parameters, and
answers with the result of one query. Only `handleListDevices` looks at scopes again, after the
database has counted the devices and cut out a page: it drops the devices of the page that the
caller may not read (`visible`), and passes the count on.

Query parameters are bytes, as a URL can have any. A parameter that is missing is empty. The
caller's grants come from its session, and the time is an argument.
-/

namespace WartungsRemote.Httpapi

open Auth
open Sql (Collation)

/-! ### Tables -/

/-- The tables that the lists are read from. -/
structure Database where
  devices : List Device.Listed
  samples : List Device.NetworkRow
  alerts : List Alerting.Row
  log : Audit.Log
  username : UUID → Option Text
  devices_nodup : (devices.map (·.id)).Nodup
  samples_device : ∀ m ∈ samples, m.deviceID ∈ devices.map (·.id)
  alerts_device : ∀ a ∈ alerts, a.deviceID ∈ devices.map (·.id)

def deviceResource (d : Device.Listed) : Resource where
  customerID := d.customerID
  groupID := d.groupID

/-! ### Responses -/

/-- What `writeErr` writes. -/
structure Failure where
  status : ℕ
  code : String
  message : String
  deriving DecidableEq

def permissionDenied : Failure := ⟨403, "permission_denied", "Not permitted"⟩

structure DeviceSummary where
  id : UUID
  installID : UUID
  customerID : Option UUID
  groupID : Option UUID
  displayName : Text
  hostname : Text
  osFamily : Text
  osName : Text
  osVersion : Text
  architecture : Text
  agentVersion : Text
  status : Device.Status
  health : Device.Health
  healthReasons : Option (List Text)
  tags : Option (List Text)
  lastSeenAt : Option ℕ
  lastPublicIP : Text
  transportSecure : Option Bool
  deriving DecidableEq

/-- A null is listed as the empty text. -/
def deviceSummary (d : Device.Listed) : DeviceSummary where
  id := d.id
  installID := d.installID
  customerID := d.customerID
  groupID := d.groupID
  displayName := d.displayName
  hostname := d.hostname.getD []
  osFamily := d.osFamily.getD []
  osName := d.osName.getD []
  osVersion := d.osVersion.getD []
  architecture := d.architecture.getD []
  agentVersion := d.agentVersion.getD []
  status := d.status
  health := d.health
  healthReasons := d.healthReasons
  tags := d.tags
  lastSeenAt := d.lastSeenAt
  lastPublicIP := (d.lastPublicIP.map Audit.Inet.host).getD []
  transportSecure := d.transportSecure

/-- The data of a response, with its `meta` part. -/
inductive Body
  | devices (items : List DeviceSummary) (total : ℕ) (page pageSize : ℤ)
  | usage (totals : List Device.DeviceNetworkTotal) (since hours : ℤ)
  | alerts (alerts : List Alerting.Alert)
  | entries (entries : List Audit.Entry) (count : ℕ)

abbrev Response : Type := Except Failure Body

/-! ### Query parameters -/

/-- The first value of each parameter. -/
abbrev Values : Type := String → List UInt8

/-- An id that may be missing, read by `uuid.Parse`. -/
def optionalID (v : List UInt8) : Option (Option UUID) :=
  if v = [] then some none else (Uuid.parseBytes v).map some

/-- An id, ignored if malformed. -/
def lenientID (v : List UInt8) : Option UUID :=
  if v = [] then none else Uuid.parseBytes v

/-- A time, ignored if malformed. -/
def lenientTime (v : List UInt8) : ℤ :=
  if v = [] then Reading.zeroTime else (Reading.parseRFC3339 v).getD Reading.zeroTime

/-- The filter of `handleListDevices`, with its ids read. A missing or malformed page is page 0. -/
def listFilter (q : Values) (customerID groupID : Option UUID) : Device.ListFilter where
  status := q "status"
  health := q "health"
  customerID := customerID
  groupID := groupID
  tag := q "tag"
  query := q "q"
  page := Reading.atoi (q "page")
  pageSize := Reading.atoi (q "page_size")

/-- The start of `handleListDevices`, before the query. -/
def parseListFilter (q : Values) : Except Failure Device.ListFilter :=
  match optionalID (q "customer_id"), optionalID (q "group_id") with
  | none, _ => .error ⟨400, "invalid_request", "invalid customer_id"⟩
  | some _, none => .error ⟨400, "invalid_request", "invalid group_id"⟩
  | some customerID, some groupID => .ok (listFilter q customerID groupID)

/-- The `hours` of `handleNetworkUsageSummary`. -/
def usageHours (q : Values) : ℤ :=
  if q "hours" = [] then 24
  else
    -- `v + "h"`
    match Reading.parseDuration (q "hours" ++ [104]) with
    | none => 24
    | some n => if 0 < n then Reading.hours n.toNat else 24

def parseAuditFilter (q : Values) : Except Failure Audit.Filter :=
  match optionalID (q "device_id") with
  | none => .error ⟨400, "invalid_request", "invalid device_id"⟩
  | some deviceID => .ok
    { actorID := lenientID (q "actor_id")
      deviceID
      eventType := q "event_type"
      fromTime := lenientTime (q "from")
      toTime := lenientTime (q "to")
      limit := 0 }

/-! ### Handlers -/

section Handlers

variable (grants : List PermissionGrant) (q : Values) (db : Database)

/-- The devices of a page that the caller gets to see. -/
def visible (devices : List Device.Listed) : List Device.Listed :=
  if HasPermission grants .deviceRead ⟨none, none⟩ then devices
  else devices.filter fun d ↦ HasPermission grants .deviceRead (deviceResource d)

/-- The end of `handleListDevices`, after the query. -/
def devicesResponse (f : Device.ListFilter) : Option (List Device.Listed × ℕ) → Response
  | none => .error ⟨500, "internal_error", "Failed to list devices"⟩
  | some (devices, total) =>
    .ok (.devices ((visible grants devices).map deviceSummary) total f.page f.pageSize)

def handleListDevices (loc : Collation) : Response :=
  if HasAnyGrant grants .deviceRead then
    match parseListFilter q with
    | .error e => .error e
    | .ok f => devicesResponse grants f (Device.list loc db.devices f)
  else .error permissionDenied

def handleNetworkUsageSummary (now : ℤ) : Response :=
  if HasAnyGrant grants .monitoringRead then
    let since := now - Reading.wrap (usageHours q * 3600000000000)
    match Device.networkUsageSummary db.devices db.samples (since / 1000) with
    | none => .error ⟨500, "internal_error", "Failed to load network usage summary"⟩
    | some totals => .ok (.usage totals since (usageHours q))
  else .error permissionDenied

def handleListAlerts : Response :=
  if HasAnyGrant grants .monitoringRead then
    match Alerting.listAlerts db.alerts ⟨lenientID (q "device_id"), q "state"⟩ with
    | none => .error ⟨500, "internal_error", "Failed to load alerts"⟩
    | some alerts => .ok (.alerts alerts)
  else .error permissionDenied

def handleAuditLog (now : ℤ) : Response :=
  if HasAnyGrant grants .auditRead then
    match parseAuditFilter q with
    | .error e => .error e
    | .ok f =>
      match db.log.list db.username now f with
      | none => .error ⟨500, "internal_error", "Failed to load audit log"⟩
      | some entries => .ok (.entries entries entries.length)
  else .error permissionDenied

end Handlers

/-- The four lists. -/
inductive Endpoint
  | listDevices | networkUsageSummary | listAlerts | auditLog
  deriving DecidableEq

/-- The response to a request. -/
def respond (loc : Collation) (grants : List PermissionGrant) (now : ℤ) (q : Values)
    (db : Database) : Endpoint → Response
  | .listDevices => handleListDevices grants q db loc
  | .networkUsageSummary => handleNetworkUsageSummary grants q db now
  | .listAlerts => handleListAlerts grants q db
  | .auditLog => handleAuditLog grants q db now

end WartungsRemote.Httpapi
