import WartungsRemote.Audit.Log
import WartungsRemote.Auth.Grants
import WartungsRemote.Codec.Reading
import WartungsRemote.Device.Metrics
import WartungsRemote.Sql.Select

/-!
# The queries behind the lists

`device.Repo.List` and `NetworkUsageSummary`, `alerting.Repo.ListAlerts`, and `audit.Logger.List`.
Each builds its `WHERE` clause from a filter in which an empty field means no condition, and none of
them knows who is asking. The result is `none` where the code returns an error: a text parameter
that Postgres does not take, an offset that has wrapped to a negative number, a sum that is no
`int64`, or an alert without a summary, which does not scan into a `string`.

An instant is in microseconds in a table and in nanoseconds in a filter. Tags and health reasons are
lists of texts or JSON's `null`, which is all that the code writes.
-/

namespace WartungsRemote

open Option Sql

/-! ### Devices -/

namespace Device

inductive Health
  | healthy | warning | critical | offline | unknown
  deriving DecidableEq

def Status.string : Status → Text
  | unknown => ['u', 'n', 'k', 'n', 'o', 'w', 'n']
  | online => ['o', 'n', 'l', 'i', 'n', 'e']
  | connectionLost => ['c', 'o', 'n', 'n', 'e', 'c', 't', 'i', 'o', 'n', '_', 'l', 'o', 's', 't']
  | offline => ['o', 'f', 'f', 'l', 'i', 'n', 'e']
  | revoked => ['r', 'e', 'v', 'o', 'k', 'e', 'd']

def Health.string : Health → Text
  | healthy => ['h', 'e', 'a', 'l', 't', 'h', 'y']
  | warning => ['w', 'a', 'r', 'n', 'i', 'n', 'g']
  | critical => ['c', 'r', 'i', 't', 'i', 'c', 'a', 'l']
  | offline => ['o', 'f', 'f', 'l', 'i', 'n', 'e']
  | unknown => ['u', 'n', 'k', 'n', 'o', 'w', 'n']

/-- A row of `devices`, as far as it is listed. -/
structure Listed where
  id : UUID
  installID : UUID
  customerID : Option UUID
  groupID : Option UUID
  displayName : Text
  hostname : Option Text
  osFamily : Option Text
  osName : Option Text
  osVersion : Option Text
  architecture : Option Text
  agentVersion : Option Text
  status : Status
  health : Health
  healthReasons : Option (List Text)
  tags : Option (List Text)
  lastSeenAt : Option ℕ
  lastPublicIP : Option Audit.Inet
  transportSecure : Option Bool
  deriving DecidableEq

structure ListFilter where
  status : List UInt8
  health : List UInt8
  customerID : Option UUID
  groupID : Option UUID
  tag : List UInt8
  query : List UInt8
  page : ℤ
  pageSize : ℤ

/-- The page that `List` reads. -/
def ListFilter.effectivePage (f : ListFilter) : ℤ :=
  if f.page < 1 then 1 else f.page

/-- The size of the page that `List` reads. -/
def ListFilter.limit (f : ListFilter) : ℤ :=
  if f.pageSize < 1 ∨ 200 < f.pageSize then 50 else f.pageSize

/-- `(f.Page - 1) * f.PageSize`, in `int`s. -/
def ListFilter.offset (f : ListFilter) : ℤ :=
  Reading.wrap ((f.effectivePage - 1) * f.limit)

/-- The `WHERE` clause of `List`, given its text parameters. -/
def ListFilter.where (loc : Collation) (f : ListFilter) (status health tag query : Text)
    (d : Listed) : Bool :=
  (status.isEmpty || d.status.string == status) &&
  (health.isEmpty || d.health.string == health) &&
  (f.customerID.isNone || d.customerID == f.customerID) &&
  (f.groupID.isNone || d.groupID == f.groupID) &&
  (tag.isEmpty || d.tags.any (tag ∈ ·)) &&
  (query.isEmpty || loc.ilike ('%' :: query ++ ['%']) d.displayName ||
    d.hostname.any (loc.ilike ('%' :: query ++ ['%'])))

/-- `Repo.List`: the devices of a page, and how many there are on all pages. -/
def list (loc : Collation) (devices : List Listed) (f : ListFilter) : Option (List Listed × ℕ) := do
  let status ← param f.status
  let health ← param f.health
  let tag ← param f.tag
  let query ← param f.query
  let p := f.where loc status health tag query
  if f.offset < 0 then none
  else
    some (select p (fun d e ↦ loc.le d.displayName e.displayName) f.offset.toNat f.limit.toNat
      devices, count p devices)

variable {devices : List Listed} {f : ListFilter} {loc : Collation}

theorem list_eq_some_iff
    {r : List Listed × ℕ} : list loc devices f = some r ↔ ∃ status ∈ param f.status,
      ∃ health ∈ param f.health, ∃ tag ∈ param f.tag, ∃ query ∈ param f.query, 0 ≤ f.offset ∧
        (select (f.where loc status health tag query)
            (fun d e ↦ loc.le d.displayName e.displayName) f.offset.toNat f.limit.toNat devices,
          count (f.where loc status health tag query) devices) = r := by
  simp only [list, bind_eq_bind, bind_eq_some_iff, mem_def]
  refine exists_congr fun _ ↦ and_congr_right fun _ ↦ exists_congr fun _ ↦ and_congr_right fun _ ↦
    exists_congr fun _ ↦ and_congr_right fun _ ↦ exists_congr fun _ ↦ and_congr_right fun _ ↦ ?_
  rcases lt_or_ge f.offset 0 with hneg | hnonneg
  · simp [hneg]
  · simp [hnonneg, not_lt.2 hnonneg]

structure DeviceNetworkTotal where
  deviceID : UUID
  displayName : Text
  bytesSentTotal : ℤ
  bytesRecvTotal : ℤ
  bytesSentControl : ℤ
  bytesRecvControl : ℤ
  deriving DecidableEq

/-- The samples of a device since an instant. -/
def samplesSince (samples : List NetworkRow) (since : ℤ) (d : Listed) : List NetworkRow :=
  samples.filter fun m ↦ m.deviceID = d.id ∧ since ≤ m.observedAt

/-- A row of the summary. A sum is a `numeric`, and is scanned into an `int64`. -/
def networkTotal (d : Listed) (samples : List NetworkRow) : Option DeviceNetworkTotal :=
  let t : DeviceNetworkTotal :=
    { deviceID := d.id
      displayName := d.displayName
      bytesSentTotal := (samples.map (·.bytesSentTotal)).sum
      bytesRecvTotal := (samples.map (·.bytesRecvTotal)).sum
      bytesSentControl := (samples.map (·.bytesSentControl)).sum
      bytesRecvControl := (samples.map (·.bytesRecvControl)).sum }
  if FitsBigint t.bytesSentTotal ∧ FitsBigint t.bytesRecvTotal ∧
      FitsBigint t.bytesSentControl ∧ FitsBigint t.bytesRecvControl then some t
  else none

/-- What the summary is ordered by. -/
def traffic (samples : List NetworkRow) : ℤ :=
  (samples.map (·.bytesSentTotal)).sum + (samples.map (·.bytesRecvTotal)).sum

/-- `Repo.NetworkUsageSummary`, of the samples since an instant in microseconds. A device without
any has no row in the join. -/
def networkUsageSummary (devices : List Listed) (samples : List NetworkRow) (since : ℤ) :
    Option (List DeviceNetworkTotal) :=
  let joined := (devices.map fun d ↦ (d, samplesSince samples since d)).filter (!·.2.isEmpty)
  (joined.insertionSort fun a b ↦ traffic b.2 ≤ traffic a.2).mapM fun a ↦ networkTotal a.1 a.2

end Device

/-! ### Alerts -/

namespace Alerting

inductive Severity
  | warning | critical
  deriving DecidableEq

inductive State
  | open | acknowledged | resolved
  deriving DecidableEq

def State.string : State → Text
  | .open => ['o', 'p', 'e', 'n']
  | .acknowledged => ['a', 'c', 'k', 'n', 'o', 'w', 'l', 'e', 'd', 'g', 'e', 'd']
  | .resolved => ['r', 'e', 's', 'o', 'l', 'v', 'e', 'd']

/-- A row of `alerts`. -/
structure Row where
  id : UUID
  deviceID : UUID
  ruleID : Option UUID
  severity : Severity
  state : State
  openedAt : ℕ
  resolvedAt : Option ℕ
  summary : Option Text
  deriving DecidableEq

structure Alert where
  id : UUID
  deviceID : UUID
  ruleID : Option UUID
  severity : Severity
  state : State
  openedAt : ℕ
  resolvedAt : Option ℕ
  summary : Text
  deriving DecidableEq

/-- `rows.Scan` of an alert. -/
def Row.scan (r : Row) : Option Alert :=
  r.summary.map fun summary ↦
    { id := r.id, deviceID := r.deviceID, ruleID := r.ruleID, severity := r.severity,
      state := r.state, openedAt := r.openedAt, resolvedAt := r.resolvedAt, summary }

structure AlertFilter where
  deviceID : Option UUID
  state : List UInt8

/-- The `WHERE` clause of `ListAlerts`. -/
def AlertFilter.where (f : AlertFilter) (state : Text) (r : Row) : Bool :=
  (f.deviceID.isNone || f.deviceID == some r.deviceID) && (state.isEmpty || r.state.string == state)

def listAlerts (alerts : List Row) (f : AlertFilter) : Option (List Alert) := do
  let state ← param f.state
  (select (f.where state) (fun a b ↦ b.openedAt ≤ a.openedAt) 0 500 alerts).mapM Row.scan

theorem listAlerts_of_param {f : AlertFilter} {state : Text} (h : param f.state = some state)
    (alerts : List Row) : listAlerts alerts f =
      (select (f.where state) (fun a b ↦ b.openedAt ≤ a.openedAt) 0 500 alerts).mapM Row.scan := by
  rw [listAlerts, h]
  rfl

end Alerting

/-! ### Audit entries -/

namespace Audit

/-- Microseconds since 1970. -/
def Timestamp.unixMicro (t : Timestamp) : ℤ :=
  (((Reading.daysSinceEpoch t.year t.month t.day * 24 + t.hour) * 60 + t.minute) * 60 + t.second) *
    1000000 + t.micro

theorem Timestamp.exists_unixMicro_eq (u : ℤ) : ∃ t : Timestamp, t.unixMicro = u := by
  obtain ⟨year, month, day, hmonth, hday, hdays⟩ :=
    Reading.exists_daysSinceEpoch_eq (u / 86400000000)
  let rest := (u % 86400000000).toNat
  have hrest : rest < 86400000000 := by omega
  let t : Timestamp :=
    { year, month, day
      hour := rest / 3600000000
      minute := rest / 60000000 % 60
      second := rest / 1000000 % 60
      micro := rest % 1000000
      month_le := hmonth
      day_le := hday
      hour_lt := by omega
      minute_lt := by omega
      second_lt := by omega
      micro_lt := by omega }
  refine ⟨t, ?_⟩
  show (((Reading.daysSinceEpoch year month day * 24 + (rest / 3600000000 : ℕ)) * 60 +
    (rest / 60000000 % 60 : ℕ)) * 60 + (rest / 1000000 % 60 : ℕ)) * 1000000 +
      (rest % 1000000 : ℕ) = u
  rw [hdays]
  omega

/-- The order of `timestamptz`. -/
def Timestamptz.le : Timestamptz → Timestamptz → Bool
  | negInfinity, _ => true
  | _, infinity => true
  | finite t, finite u => t.unixMicro ≤ u.unixMicro
  | _, _ => false

/-- `BETWEEN` two instants, in microseconds. -/
def Timestamptz.between (first last : ℤ) : Timestamptz → Bool
  | finite t => first ≤ t.unixMicro && t.unixMicro ≤ last
  | infinity => false
  | negInfinity => false

structure Entry where
  id : ℕ
  occurredAt : Timestamptz
  actorType : ActorType
  actorID : Option UUID
  actorUsername : Option Text
  deviceID : Option UUID
  customerID : Option UUID
  eventType : Text
  result : Result
  sourceIP : Text
  metadata : Jsonb

/-- The zero value of a time means that there is no bound. -/
structure Filter where
  actorID : Option UUID
  deviceID : Option UUID
  eventType : List UInt8
  fromTime : ℤ
  toTime : ℤ
  limit : ℤ

/-- The last instant that `List` asks for. -/
def Filter.last (f : Filter) (now : ℤ) : ℤ :=
  if f.toTime = Reading.zeroTime then now else f.toTime

/-- The first instant that `List` asks for: if there is no bound, thirty days before the last. -/
def Filter.first (f : Filter) (now : ℤ) : ℤ :=
  if f.fromTime = Reading.zeroTime then f.last now - 2592000000000000 else f.fromTime

/-- How many entries `List` asks for. -/
def Filter.rowLimit (f : Filter) : ℤ :=
  if f.limit ≤ 0 ∨ 1000 < f.limit then 200 else f.limit

/-- The `WHERE` clause of `List`. A time that is a parameter loses its nanoseconds below a
microsecond. -/
def Filter.where (f : Filter) (now : ℤ) (eventType : Text) (r : Row) : Bool :=
  r.occurredAt.between (f.first now / 1000) (f.last now / 1000) &&
  (f.actorID.isNone || r.actorID == f.actorID) &&
  (f.deviceID.isNone || r.deviceID == f.deviceID) &&
  (eventType.isEmpty || r.eventType == eventType)

/-- A row of the join with `users`, scanned into an `Entry`. The JSON is written from the value of
the column. -/
def Row.entry (username : UUID → Option Text) (r : Row) : Entry where
  id := r.id
  occurredAt := r.occurredAt
  actorType := r.actorType
  actorID := r.actorID
  actorUsername := r.actorID.bind username
  deviceID := r.deviceID
  customerID := r.customerID
  eventType := r.eventType
  result := r.result
  sourceIP := (r.sourceIP.map Inet.host).getD []
  metadata := r.metadata

def Log.list (log : Log) (username : UUID → Option Text) (now : ℤ) (f : Filter) :
    Option (List Entry) := do
  let eventType ← param f.eventType
  let rows := select (f.where now eventType) (fun r s ↦ s.occurredAt.le r.occurredAt) 0
    f.rowLimit.toNat log.rows
  some (rows.map (Row.entry username))

theorem Log.list_of_param {f : Filter} {eventType : Text} (h : param f.eventType = some eventType)
    (log : Log) (username : UUID → Option Text) (now : ℤ) : log.list username now f =
      some ((select (f.where now eventType) (fun r s ↦ s.occurredAt.le r.occurredAt) 0
        f.rowLimit.toNat log.rows).map (Row.entry username)) := by
  rw [Log.list, h]
  rfl

end Audit

end WartungsRemote
