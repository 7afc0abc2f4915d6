import WartungsRemote.Httpapi.Handlers

/-!
# What a caller learns about devices outside its scopes

A caller whose grants are all for customers or device groups should learn nothing about other
devices: if two databases differ only in devices outside its scopes and in the rows of those devices
(`Agree`), every response should be the same for both (`Isolated`).

It is not. **A list gives nothing away exactly if the request is turned down, or its filter by
itself excludes all devices outside the scopes** (`Confined`). The list of devices is filtered by
scope after it has been counted; the other three are not filtered by scope at all. A filter excludes
foreign devices if it names a customer or a group of the caller's scopes, or asks for what no row
can have.
-/

namespace WartungsRemote.Httpapi

open Option Auth
open Sql (Collation param)

/-! ### Isolation -/

section Isolation

variable (grants : List PermissionGrant)

/-- The device is in one of the caller's scopes. -/
def DeviceInScope (d : Device.Listed) : Bool :=
  InScope grants (deviceResource d)

/-- The id is that of a device outside the caller's scopes, in one of two databases. -/
def Outside (db db' : Database) (id : UUID) : Bool :=
  (db.devices ++ db'.devices).any fun d ↦ d.id == id && !DeviceInScope grants d

/-- The databases differ only in devices outside the caller's scopes and in rows of those. -/
structure Agree (db db' : Database) : Prop where
  devices : Sql.Agree (DeviceInScope grants) db.devices db'.devices
  samples : Sql.Agree (fun m ↦ !Outside grants db db' m.deviceID) db.samples db'.samples
  alerts : Sql.Agree (fun a ↦ !Outside grants db db' a.deviceID) db.alerts db'.alerts
  log : Sql.Agree (fun r ↦ !r.deviceID.any (Outside grants db db')) db.log.rows db'.log.rows
  username : db.username = db'.username

/-- The response does not depend on anything outside the caller's scopes. -/
def Isolated (loc : Collation) (now : ℤ) (q : Values) (endpoint : Endpoint) : Prop :=
  ∀ db db' : Database, Agree grants db db' →
    respond loc grants now q db endpoint = respond loc grants now q db' endpoint

end Isolation

/-! ### Requests that give nothing away -/

section Confined

variable (grants : List PermissionGrant)

/-- The parameter is one that the database refuses, or none of the texts that a column can have. -/
def Unmatched {α : Type} (string : α → Text) (v : List UInt8) : Prop :=
  ∀ t ∈ param v, t ≠ [] ∧ ∀ a, string a ≠ t

/-- The filter of a list of devices lets no device outside the caller's scopes pass. -/
def ListConfined (f : Device.ListFilter) : Prop :=
  (∃ id ∈ customerScopes grants, f.customerID = some id) ∨
  (∃ id ∈ groupScopes grants, f.groupID = some id) ∨
  Unmatched Device.Status.string f.status ∨
  Unmatched Device.Health.string f.health ∨
  param f.tag = none ∨ param f.query = none ∨ f.offset < 0

/-- The request is turned down, or its filter excludes what is outside the caller's scopes. -/
def Confined (now : ℤ) (q : Values) : Endpoint → Prop
  | .listDevices =>
    HasAnyGrant grants .deviceRead = true → ∀ f, parseListFilter q = .ok f → ListConfined grants f
  | .networkUsageSummary => HasAnyGrant grants .monitoringRead = false
  | .listAlerts =>
    HasAnyGrant grants .monitoringRead = true → Unmatched Alerting.State.string (q "state")
  | .auditLog =>
    HasAnyGrant grants .auditRead = true → ∀ f, parseAuditFilter q = .ok f →
      param f.eventType = none ∨ f.last now / 1000 < f.first now / 1000

end Confined

/-! ### Databases with one device -/

theorem sorted_nil : (([] : List Audit.Row).map Audit.Row.id).Pairwise (· < ·) := by
  simp

theorem fresh_nil : ∀ r ∈ ([] : List Audit.Row), r.id < 1 := by
  simp

/-- The audit log without entries. -/
def noEntries : Audit.Log where
  rows := []
  nextID := 1
  sorted := sorted_nil
  fresh := fresh_nil

namespace Database

def empty : Database where
  devices := []
  samples := []
  alerts := []
  log := noEntries
  username := fun _ ↦ none
  devices_nodup := .nil
  samples_device := by simp
  alerts_device := by simp

/-- A device with some rows of its own. -/
def single (d : Device.Listed) (samples : List Device.NetworkRow) (alerts : List Alerting.Row)
    (log : Audit.Log) (hsmp : ∀ m ∈ samples, m.deviceID = d.id)
    (hals : ∀ a ∈ alerts, a.deviceID = d.id) : Database where
  devices := [d]
  samples := samples
  alerts := alerts
  log := log
  username := fun _ ↦ none
  devices_nodup := List.nodup_singleton _
  samples_device := by simpa using hsmp
  alerts_device := by simpa using hals

end Database

section Single

variable {grants : List PermissionGrant} {d : Device.Listed} {samples : List Device.NetworkRow}
  {alerts : List Alerting.Row} {log : Audit.Log} {hsmp : ∀ m ∈ samples, m.deviceID = d.id}
  {hals : ∀ a ∈ alerts, a.deviceID = d.id}

/-- A device outside the scopes may be there with its rows or not. -/
theorem agree_empty_single (hd : DeviceInScope grants d = false)
    (hlog : ∀ r ∈ log.rows, r.deviceID = some d.id) :
    Agree grants .empty (.single d samples alerts log hsmp hals) := by
  have houtside : Outside grants .empty (.single d samples alerts log hsmp hals) d.id = true := by
    simp [Outside, Database.empty, Database.single, hd]
  refine ⟨Sql.agree_nil_of_hidden ?_, Sql.agree_nil_of_hidden ?_, Sql.agree_nil_of_hidden ?_,
    Sql.agree_nil_of_hidden ?_, rfl⟩
  · intro e he
    obtain rfl := List.mem_singleton.1 he
    exact hd
  · intro m hm
    rw [hsmp m hm, houtside]
    rfl
  · intro a ha
    rw [hals a ha, houtside]
    rfl
  · intro r hr
    simp [hlog r hr, houtside]

end Single

/-! ### Devices -/

section Devices

variable {loc : Collation} {grants : List PermissionGrant} {f : Device.ListFilter}

theorem exists_of_not_unmatched {α : Type} [Inhabited α] {string : α → Text} {v : List UInt8}
    (h : ¬ Unmatched string v) : ∃ t ∈ param v, ∃ a, (t.isEmpty || string a == t) = true := by
  simp only [Unmatched, not_forall] at h
  obtain ⟨t, ht, hnot⟩ := h
  rcases eq_or_ne t [] with rfl | hne
  · exact ⟨[], ht, default, rfl⟩
  · simp only [hne, ne_eq, not_false_eq_true, true_and, not_forall, not_not] at hnot
    obtain ⟨a, ha⟩ := hnot
    exact ⟨t, ht, a, by simp [ha]⟩

/-- Under a confined filter no device outside the scopes meets the condition. -/
theorem deviceInScope_of_where (hscp : Scoped grants) (h : ListConfined grants f)
    {status health tag query : Text} (hstat : status ∈ param f.status)
    (hhealth : health ∈ param f.health) (htag : tag ∈ param f.tag) (hquery : query ∈ param f.query)
    (hoffset : 0 ≤ f.offset) {d : Device.Listed}
    (hd : f.where loc status health tag query d = true) : DeviceInScope grants d = true := by
  simp only [Device.ListFilter.where, Bool.and_eq_true, Bool.or_eq_true, List.isEmpty_iff,
    beq_iff_eq, isNone_iff_eq_none] at hd
  obtain ⟨⟨⟨⟨⟨hs, hh⟩, hcustomer⟩, hgroup⟩, -⟩, -⟩ := hd
  rcases h with ⟨id, hid, heq⟩ | ⟨id, hid, heq⟩ | hnone | hnone | hnone | hnone | hneg
  · refine (inScope_iff hscp).2 (.inl ⟨id, hid, ?_⟩)
    show d.customerID = some id
    simpa [heq] using hcustomer
  · refine (inScope_iff hscp).2 (.inr ⟨id, hid, ?_⟩)
    show d.groupID = some id
    simpa [heq] using hgroup
  · obtain ⟨hne, hall⟩ := hnone status hstat
    exact absurd (hs.resolve_left hne) (hall _)
  · obtain ⟨hne, hall⟩ := hnone health hhealth
    exact absurd (hh.resolve_left hne) (hall _)
  · simp [hnone] at htag
  · simp [hnone] at hquery
  · omega

theorem list_eq_of_listConfined (hscp : Scoped grants) (h : ListConfined grants f)
    {devices devices' : List Device.Listed}
    (hagr : Sql.Agree (DeviceInScope grants) devices devices') :
    Device.list loc devices f = Device.list loc devices' f := by
  refine ext fun r ↦ ?_
  rw [Device.list_eq_some_iff, Device.list_eq_some_iff]
  refine exists_congr fun status ↦ and_congr_right fun hstat ↦ exists_congr fun health ↦
    and_congr_right fun hhealth ↦ exists_congr fun tag ↦ and_congr_right fun htag ↦
    exists_congr fun query ↦ and_congr_right fun hquery ↦ and_congr_right fun hoffset ↦ ?_
  have hwhere : ∀ d, f.where loc status health tag query d = true → DeviceInScope grants d = true :=
    fun d ↦ deviceInScope_of_where hscp h hstat hhealth htag hquery hoffset
  rw [hagr.select_eq hwhere, hagr.count_eq hwhere]

/-- A device that nobody but a global caller can see, made to meet a filter. -/
def foreignDevice (f : Device.ListFilter) (status : Device.Status) (health : Device.Health)
    (tag query : Text) : Device.Listed where
  id := 0
  installID := 0
  customerID := f.customerID
  groupID := f.groupID
  displayName := Sql.literal ('%' :: query ++ ['%'])
  hostname := none
  osFamily := none
  osName := none
  osVersion := none
  architecture := none
  agentVersion := none
  status := status
  health := health
  healthReasons := none
  tags := some [tag]
  lastSeenAt := none
  lastPublicIP := none
  transportSecure := none

/-- A filter that is not confined counts some device outside the scopes. -/
theorem exists_foreign_of_not_listConfined (loc : Collation) (hscp : Scoped grants)
    (h : ¬ ListConfined grants f) :
    ∃ d, DeviceInScope grants d = false ∧ (∃ page, Device.list loc [] f = some (page, 0)) ∧
      ∃ page, Device.list loc [d] f = some (page, 1) := by
  simp only [ListConfined, not_or] at h
  obtain ⟨hcustomer, hgroup, hstat, hhealth, htag, hquery, hoffset⟩ := h
  have : Inhabited Device.Status := ⟨.unknown⟩
  have : Inhabited Device.Health := ⟨.unknown⟩
  obtain ⟨status, hstat, s, hs⟩ := exists_of_not_unmatched hstat
  obtain ⟨health, hhealth, h, hh⟩ := exists_of_not_unmatched hhealth
  obtain ⟨tag, htag⟩ := ne_none_iff_exists'.1 htag
  obtain ⟨query, hquery⟩ := ne_none_iff_exists'.1 hquery
  have hscope : DeviceInScope grants (foreignDevice f s h tag query) = false := by
    refine Bool.eq_false_iff.2 fun hin ↦ ?_
    rcases (inScope_iff hscp).1 hin with hin | hin
    · exact hcustomer hin
    · exact hgroup hin
  have hwhere : f.where loc status health tag query (foreignDevice f s h tag query) = true := by
    have hname := loc.ilike_literal ('%' :: query ++ ['%'])
    simp only [Device.ListFilter.where, foreignDevice, hs, hh, hname]
    simp
  have hlist : ∀ devices, ∃ page, Device.list loc devices f =
      some (page, Sql.count (f.where loc status health tag query) devices) := fun devices ↦
    ⟨_, Device.list_eq_some_iff.2 ⟨status, hstat, health, hhealth, tag, htag, query, hquery,
      not_lt.1 hoffset, rfl⟩⟩
  refine ⟨foreignDevice f s h tag query, hscope, hlist [], ?_⟩
  obtain ⟨page, hpage⟩ := hlist [foreignDevice f s h tag query]
  exact ⟨page, by rw [hpage, Sql.count_singleton hwhere]⟩

theorem isolated_listDevices_iff (hscp : Scoped grants) {now : ℤ} {q : Values} :
    Isolated grants loc now q .listDevices ↔ Confined grants now q .listDevices := by
  constructor
  · intro h hgrant f hf
    by_contra hnot
    obtain ⟨d, hd, ⟨_, hnone⟩, _, hone⟩ :=
      exists_foreign_of_not_listConfined loc hscp hnot
    have heq := h .empty (.single d [] [] noEntries (by simp) (by simp))
      (agree_empty_single hd (by simp [noEntries]))
    simp only [respond, handleListDevices, hgrant, if_true, hf] at heq
    simp only [Database.empty, Database.single, hnone, hone, devicesResponse] at heq
    -- the totals are 0 and 1
    cases (Body.devices.inj (Except.ok.inj heq)).2.1
  · intro h db db' hagr
    simp only [respond, handleListDevices]
    split_ifs with hgrant
    · rcases hf : parseListFilter q with e | f
      · rfl
      · show devicesResponse grants f (Device.list loc db.devices f) =
          devicesResponse grants f (Device.list loc db'.devices f)
        rw [list_eq_of_listConfined hscp (h hgrant f hf) hagr.devices]
    · rfl

end Devices

/-! ### Samples, alerts and audit entries -/

section Rows

variable {loc : Collation} {grants : List PermissionGrant} {now : ℤ} {q : Values}

/-- A device without customer and group, which only a global caller can see. -/
def plainDevice (id : UUID) : Device.Listed :=
  { foreignDevice ⟨[], [], none, none, [], [], 0, 0⟩ .unknown .unknown [] [] with id := id }

theorem deviceInScope_plainDevice (hscp : Scoped grants) (id : UUID) :
    DeviceInScope grants (plainDevice id) = false := by
  refine Bool.eq_false_iff.2 fun hin ↦ ?_
  rcases (inScope_iff hscp).1 hin with ⟨_, -, heq⟩ | ⟨_, -, heq⟩
  · cases heq
  · cases heq

/-- A sample without traffic. -/
def idleSample (id : UUID) (since : ℤ) : Device.NetworkRow :=
  ⟨id, since.toNat, 0, 0, 0, 0, 0⟩

theorem networkUsageSummary_idleSample (d : Device.Listed) (since : ℤ) :
    Device.networkUsageSummary [d] [idleSample d.id since] since =
      some [⟨d.id, d.displayName, 0, 0, 0, 0⟩] := by
  have hsmp : Device.samplesSince [idleSample d.id since] since d = [idleSample d.id since] := by
    simp [Device.samplesSince, idleSample]
  have htotal : Device.networkTotal d [idleSample d.id since] = some ⟨d.id, d.displayName, 0, 0,
      0, 0⟩ := by
    simp [Device.networkTotal, idleSample, show Device.FitsBigint 0 by decide]
  simp [Device.networkUsageSummary, hsmp, htotal]

theorem isolated_networkUsageSummary_iff (hscp : Scoped grants) :
    Isolated grants loc now q .networkUsageSummary ↔
      Confined grants now q .networkUsageSummary := by
  constructor
  · intro h
    refine Bool.eq_false_iff.2 fun hgrant ↦ ?_
    let since := now - Reading.wrap (usageHours q * 3600000000000)
    let d := plainDevice 0
    have heq := h .empty
      (.single d [idleSample d.id (since / 1000)] [] noEntries (by simp [idleSample])
        (by simp))
      (agree_empty_single (deviceInScope_plainDevice hscp 0) (by simp [noEntries]))
    simp only [respond, handleNetworkUsageSummary, hgrant, if_true, Database.empty, Database.single]
      at heq
    rw [networkUsageSummary_idleSample] at heq
    cases (Body.usage.inj (Except.ok.inj heq)).1
  · intro h db db' _
    have hgrant : HasAnyGrant grants .monitoringRead = false := h
    simp [respond, handleNetworkUsageSummary, hgrant]

/-- An alert of a device. -/
def foreignAlert (id : UUID) (state : Alerting.State) : Alerting.Row :=
  ⟨0, id, none, .warning, state, 0, none, some []⟩

/-- A filter that is not unmatched finds the alert of some device. -/
theorem exists_listAlerts_of_not_unmatched {f : Alerting.AlertFilter}
    (h : ¬ Unmatched Alerting.State.string f.state) :
    ∃ r a, Alerting.listAlerts [] f = some [] ∧ Alerting.listAlerts [r] f = some [a] := by
  have : Inhabited Alerting.State := ⟨.open⟩
  obtain ⟨state, hst, s, hs⟩ := exists_of_not_unmatched h
  let r := foreignAlert (f.deviceID.getD 0) s
  have hwhere : f.where state r = true := by
    rcases hid : f.deviceID with _ | id
    · simp [Alerting.AlertFilter.where, r, foreignAlert, hid, hs]
    · simp [Alerting.AlertFilter.where, r, foreignAlert, hid, hs]
  refine ⟨r, ⟨0, f.deviceID.getD 0, none, .warning, s, 0, none, []⟩, ?_, ?_⟩
  · rw [Alerting.listAlerts_of_param hst, Sql.select_eq_nil (by simp)]
    rfl
  · rw [Alerting.listAlerts_of_param hst, Sql.select_singleton hwhere]
    rfl

theorem listAlerts_eq_of_unmatched {f : Alerting.AlertFilter}
    (h : Unmatched Alerting.State.string f.state) (alerts alerts' : List Alerting.Row) :
    Alerting.listAlerts alerts f = Alerting.listAlerts alerts' f := by
  rcases hst : param f.state with _ | state
  · rw [Alerting.listAlerts, Alerting.listAlerts, hst]
    rfl
  obtain ⟨hne, hall⟩ := h state hst
  have hwhere : ∀ r, f.where state r = false := fun r ↦ by
    simp [Alerting.AlertFilter.where, hne, hall]
  rw [Alerting.listAlerts_of_param hst, Alerting.listAlerts_of_param hst,
    Sql.select_eq_nil fun r _ ↦ hwhere r, Sql.select_eq_nil fun r _ ↦ hwhere r]

theorem isolated_listAlerts_iff (hscp : Scoped grants) :
    Isolated grants loc now q .listAlerts ↔ Confined grants now q .listAlerts := by
  constructor
  · intro h hgrant
    by_contra hnot
    let f : Alerting.AlertFilter := ⟨lenientID (q "device_id"), q "state"⟩
    obtain ⟨r, a, hnone, hone⟩ := exists_listAlerts_of_not_unmatched (f := f) hnot
    have heq := h .empty
      (.single (plainDevice r.deviceID) [] [r] noEntries (by simp) (by simp [plainDevice]))
      (agree_empty_single (deviceInScope_plainDevice hscp _) (by simp [noEntries]))
    simp only [respond, handleListAlerts, hgrant, if_true, Database.empty, Database.single] at heq
    rw [hnone, hone] at heq
    cases Body.alerts.inj (Except.ok.inj heq)
  · intro h db db' _
    simp only [respond, handleListAlerts]
    split_ifs with hgrant
    · rw [listAlerts_eq_of_unmatched (h hgrant) db.alerts db'.alerts]
    · rfl

/-- An audit entry of a device, made to meet a filter. -/
def foreignEntry (f : Audit.Filter) (deviceID : UUID) (eventType : Text) (t : Audit.Timestamp)
    (id : ℕ) : Audit.Row where
  id := id
  occurredAt := .finite t
  actorType := .user
  actorID := f.actorID
  sessionID := none
  deviceID := some deviceID
  customerID := none
  eventType := eventType
  result := .success
  sourceIP := none
  requestID := none
  metadata := ⟨.null, trivial⟩
  prevHash := none
  entryHash := none

/-- A filter with an instant between its bounds finds an entry of some device. -/
theorem exists_list_of_le {f : Audit.Filter} {eventType : Text}
    (hev : param f.eventType = some eventType) (hle : f.first now / 1000 ≤ f.last now / 1000)
    (hlimit : 0 < f.rowLimit) :
    ∃ (id : UUID) (log : Audit.Log), (∀ r ∈ log.rows, r.deviceID = some id) ∧
      noEntries.list (fun _ ↦ none) now f = some [] ∧
      ∃ e, log.list (fun _ ↦ none) now f = some [e] := by
  obtain ⟨t, ht⟩ := Audit.Timestamp.exists_unixMicro_eq (f.last now / 1000)
  let id := f.deviceID.getD 0
  let log := noEntries.insert (foreignEntry f id eventType t) fun _ ↦ rfl
  have hwhere : f.where now eventType (foreignEntry f id eventType t 1) = true := by
    have hdev : (f.deviceID.isNone || some id == f.deviceID) = true := by
      rcases hid : f.deviceID with _ | id'
      · rfl
      · simp [id, hid]
    simp only [Audit.Filter.where, foreignEntry, Audit.Timestamptz.between, ht, hdev]
    simp [hle]
  refine ⟨id, log, ?_, ?_, ?_⟩
  · intro r hr
    obtain rfl := List.mem_singleton.1 hr
    rfl
  · rw [Audit.Log.list_of_param hev, Sql.select_eq_nil (by simp [noEntries])]
    rfl
  · obtain ⟨n, hn⟩ : ∃ n, f.rowLimit.toNat = n + 1 := ⟨f.rowLimit.toNat - 1, by omega⟩
    rw [Audit.Log.list_of_param hev, hn]
    show ∃ e, some ((Sql.select _ _ 0 (n + 1) [foreignEntry f id eventType t 1]).map _) = some [e]
    rw [Sql.select_singleton hwhere]
    exact ⟨_, rfl⟩

theorem list_eq_of_lt {f : Audit.Filter}
    (h : param f.eventType = none ∨ f.last now / 1000 < f.first now / 1000) (log log' : Audit.Log)
    (username : UUID → Option Text) : log.list username now f = log'.list username now f := by
  rcases hev : param f.eventType with _ | eventType
  · rw [Audit.Log.list, Audit.Log.list, hev]
    rfl
  have hlt : f.last now / 1000 < f.first now / 1000 := h.resolve_left (by simp [hev])
  have hwhere : ∀ r, f.where now eventType r = false := by
    intro r
    have hnot : r.occurredAt.between (f.first now / 1000) (f.last now / 1000) = false := by
      rcases r.occurredAt with t | _ | _
      · rw [Audit.Timestamptz.between, Bool.and_eq_false_iff, decide_eq_false_iff_not,
          decide_eq_false_iff_not]
        omega
      · rfl
      · rfl
    simp [Audit.Filter.where, hnot]
  rw [Audit.Log.list_of_param hev, Audit.Log.list_of_param hev,
    Sql.select_eq_nil fun r _ ↦ hwhere r, Sql.select_eq_nil fun r _ ↦ hwhere r]

theorem rowLimit_of_parseAuditFilter {f : Audit.Filter} (h : parseAuditFilter q = .ok f) :
    f.rowLimit = 200 := by
  unfold parseAuditFilter at h
  split at h
  · cases h
  · obtain rfl := Except.ok.inj h
    rfl

theorem isolated_auditLog_iff (hscp : Scoped grants) :
    Isolated grants loc now q .auditLog ↔ Confined grants now q .auditLog := by
  constructor
  · intro h hgrant f hf
    by_contra hnot
    obtain ⟨hev, hle⟩ := not_or.1 hnot
    obtain ⟨_, hev⟩ := ne_none_iff_exists'.1 hev
    obtain ⟨id, log, hlog, hnone, e, hone⟩ := exists_list_of_le hev (not_lt.1 hle)
      (by rw [rowLimit_of_parseAuditFilter hf]; norm_num)
    have heq := h .empty (.single (plainDevice id) [] [] log (by simp) (by simp))
      (agree_empty_single (deviceInScope_plainDevice hscp id) hlog)
    simp only [respond, handleAuditLog, hgrant, if_true, hf] at heq
    have hnone' : Database.empty.log.list Database.empty.username now f = some [] := hnone
    simp only [hnone', Database.single, hone] at heq
    cases (Body.entries.inj (Except.ok.inj heq)).2
  · intro h db db' hagr
    simp only [respond, handleAuditLog]
    split_ifs with hgrant
    · rcases hf : parseAuditFilter q with e | f
      · rfl
      · simp only [hagr.username, list_eq_of_lt (h hgrant f hf) db.log db'.log]
    · rfl

end Rows

/-! ### Two customers -/

namespace Sample

/-- The caller may read the devices of customer 1. -/
def grants : List PermissionGrant :=
  [⟨.deviceRead, .customer, some 1⟩]

/-- A device of customer 2. -/
def device : Device.Listed :=
  { plainDevice 7 with customerID := some 2 }

/-- `?customer_id=00000000000000000000000000000001`. -/
def ownCustomer : Values := fun key ↦
  if key = "customer_id" then List.replicate 31 48 ++ [49] else []

/-- The total of a list of devices. -/
def total : Response → Option ℕ
  | .ok (.devices _ total _ _) => some total
  | _ => none

end Sample

open Sample

/-- **A list gives nothing away about other tenants exactly if the request is confined.** -/
theorem isolated_iff_confined (loc : Collation) (grants : List PermissionGrant)
    (hscp : Scoped grants) (now : ℤ) (q : Values) (endpoint : Endpoint) :
    Isolated grants loc now q endpoint ↔ Confined grants now q endpoint := by
  rcases endpoint with _ | _ | _ | _
  · exact isolated_listDevices_iff hscp
  · exact isolated_networkUsageSummary_iff hscp
  · exact isolated_listAlerts_iff hscp
  · exact isolated_auditLog_iff hscp

/-- A caller that asks for the devices of its own customer learns nothing about others. -/
theorem isolated_iff_confined_ownCustomer : Isolated grants .posix 0 ownCustomer .listDevices := by
  refine (isolated_iff_confined .posix grants (by decide) 0 ownCustomer .listDevices).2 ?_
  intro _ f hf
  have hparse : optionalID (ownCustomer "customer_id") = some (some 1) := by decide +kernel
  have hgroup : optionalID (ownCustomer "group_id") = some none := rfl
  rw [parseListFilter, hparse, hgroup] at hf
  obtain rfl := Except.ok.inj hf
  exact .inl ⟨1, by decide, rfl⟩

/-- Without a filter, the total tells whether customer 2 has a device. -/
theorem not_isolated_total : ¬ ∀ (loc : Collation) (grants : List PermissionGrant), Scoped grants →
      ∀ (now : ℤ) (q : Values) (endpoint : Endpoint), Isolated grants loc now q endpoint := by
  intro h
  have hagr : Agree grants .empty (.single device [] [] noEntries (by simp) (by simp)) :=
    agree_empty_single (by decide) (by simp [noEntries])
  have heq := h .posix grants (by decide) 0 (fun _ ↦ []) .listDevices _ _ hagr
  exact absurd (congrArg total heq) (by decide +kernel)

end WartungsRemote.Httpapi
