import Mathlib.Data.Rat.Floor
import Mathlib.Data.UInt
import WartungsRemote.Device.Registry
import WartungsRemote.Rollup.Bucketed
import WartungsRemote.Text.Splitting
import WartungsRemote.Transition.Run

/-!
# Metrics, hourly aggregates and retention

`RecordMetrics` and `RecordNetworkMetricsBatch` insert samples, the one at the database's own clock
and the other at times that the agent reports, however late. Every tick of
`RunMetricsRetentionSweeper` rolls both tables up by the hour and then applies both retention
windows. Each table with its hourly table is an instance of the same scheme of roll-ups; an hour's
row holds averages for the one, sums for the other.

Times are in microseconds, the resolution of `timestamptz`, and hours are those of UTC. Columns of
type `real` are rational numbers here. A value that does not fit its column fails the statement. The
columns that no roll-up reads (`filesystems`, `network`, `uptime_seconds`) are left out.
-/

namespace WartungsRemote.Device

open Rollup

/-! ### Columns -/

/-- What a `bigint` column can hold. -/
def FitsBigint (n : ℤ) : Prop :=
  -2 ^ 63 ≤ n ∧ n < 2 ^ 63
  deriving Decidable

/-- What an `integer` column can hold of a count. -/
def FitsInteger (n : ℕ) : Prop :=
  n < 2 ^ 31
  deriving Decidable

/-- Go's `int64(x)`. -/
def int64 (x : UInt64) : ℤ :=
  x.toInt64.toInt

/-- The cast of a `numeric` to `bigint` rounds to the nearest, and halves away from zero. -/
def toBigint (q : ℚ) : ℤ :=
  if 0 ≤ q then ⌊q + 1 / 2⌋ else -⌊-q + 1 / 2⌋

def avg (qs : List ℚ) : ℚ :=
  qs.sum / qs.length

/-- One hour. -/
def hour : ℕ := 3600 * 1000000

/-! ### Samples -/

/-- `protocol.FilesystemUsage`. -/
structure FilesystemUsage where
  path : Text
  usedBytes : UInt64
  totalBytes : UInt64
  removable : Bool
  deriving DecidableEq

/-- The disk usage that `RecordMetrics` stores: over the filesystems that are not removable. -/
def diskUsage (filesystems : List FilesystemUsage) : UInt64 × UInt64 :=
  filesystems.foldl
    (fun acc fs ↦ if fs.removable then acc else (acc.1 + fs.usedBytes, acc.2 + fs.totalBytes))
      (0, 0)

/-- A row of `device_metrics`. -/
structure MetricsRow where
  deviceID : UUID
  observedAt : ℕ
  cpuPercent : ℚ
  memoryUsedBytes : ℤ
  memoryTotalBytes : ℤ
  diskUsedBytes : ℤ
  diskTotalBytes : ℤ
  deriving DecidableEq

/-- What `LatestMetrics` and `RecentMetrics` read of a row, with the filesystems of the report. -/
structure MetricsPoint where
  observedAt : ℤ
  cpuPercent : ℚ
  memoryUsedBytes : ℤ
  memoryTotalBytes : ℤ
  filesystems : List FilesystemUsage
  deriving DecidableEq

/-- What `RecordMetrics` inserts. An unsigned number that is no `bigint` fails the statement; the
disk numbers are converted, and wrap. -/
def metricsRow (now : ℕ) (id : UUID) (cpuPercent : ℚ) (memUsed memTotal : UInt64)
    (filesystems : List FilesystemUsage) : Option MetricsRow :=
  if FitsBigint memUsed.toNat ∧ FitsBigint memTotal.toNat then
    some
      { deviceID := id
        observedAt := now
        cpuPercent
        memoryUsedBytes := memUsed.toNat
        memoryTotalBytes := memTotal.toNat
        diskUsedBytes := int64 (diskUsage filesystems).1
        diskTotalBytes := int64 (diskUsage filesystems).2 }
  else none

/-- A row of `device_metrics_hourly`. -/
structure MetricsHour where
  avgCPUPercent : ℚ
  avgMemoryUsedBytes : ℤ
  avgMemoryTotalBytes : ℤ
  avgDiskUsedBytes : ℤ
  avgDiskTotalBytes : ℤ
  sampleCount : ℕ
  deriving DecidableEq

/-- The aggregates of `RollupHourlyMetrics`. An average of `bigint`s is one; counts may be none. -/
def aggregateMetrics (rows : List MetricsRow) : Option MetricsHour :=
  if FitsInteger rows.length then
    some
      { avgCPUPercent := avg (rows.map (·.cpuPercent))
        avgMemoryUsedBytes := toBigint (avg (rows.map (·.memoryUsedBytes)))
        avgMemoryTotalBytes := toBigint (avg (rows.map (·.memoryTotalBytes)))
        avgDiskUsedBytes := toBigint (avg (rows.map (·.diskUsedBytes)))
        avgDiskTotalBytes := toBigint (avg (rows.map (·.diskTotalBytes)))
        sampleCount := rows.length }
  else none

/-- A `NetworkMetricsSample`. -/
structure NetworkMetricsSample where
  occurredAt : ℕ
  intervalSeconds : ℚ
  bytesSentTotal : UInt64
  bytesRecvTotal : UInt64
  bytesSentControl : UInt64
  bytesRecvControl : UInt64
  deriving DecidableEq

/-- A row of `device_network_metrics`. -/
structure NetworkRow where
  deviceID : UUID
  observedAt : ℕ
  intervalSeconds : ℚ
  bytesSentTotal : ℤ
  bytesRecvTotal : ℤ
  bytesSentControl : ℤ
  bytesRecvControl : ℤ
  deriving DecidableEq

/-- What `RecordNetworkMetricsBatch` inserts for a sample. -/
def networkRow (id : UUID) (sample : NetworkMetricsSample) : NetworkRow where
  deviceID := id
  observedAt := sample.occurredAt
  intervalSeconds := sample.intervalSeconds
  bytesSentTotal := int64 sample.bytesSentTotal
  bytesRecvTotal := int64 sample.bytesRecvTotal
  bytesSentControl := int64 sample.bytesSentControl
  bytesRecvControl := int64 sample.bytesRecvControl

/-- A row of `device_network_metrics_hourly`. -/
structure NetworkHour where
  sumIntervalSeconds : ℚ
  sumBytesSentTotal : ℤ
  sumBytesRecvTotal : ℤ
  sumBytesSentControl : ℤ
  sumBytesRecvControl : ℤ
  sampleCount : ℕ
  deriving DecidableEq

/-- The aggregates of `RollupHourlyNetworkMetrics`. -/
def aggregateNetwork (rows : List NetworkRow) : Option NetworkHour :=
  let h : NetworkHour :=
    { sumIntervalSeconds := (rows.map (·.intervalSeconds)).sum
      sumBytesSentTotal := (rows.map (·.bytesSentTotal)).sum
      sumBytesRecvTotal := (rows.map (·.bytesRecvTotal)).sum
      sumBytesSentControl := (rows.map (·.bytesSentControl)).sum
      sumBytesRecvControl := (rows.map (·.bytesRecvControl)).sum
      sampleCount := rows.length }
  if FitsBigint h.sumBytesSentTotal ∧ FitsBigint h.sumBytesRecvTotal ∧
      FitsBigint h.sumBytesSentControl ∧ FitsBigint h.sumBytesRecvControl ∧
      FitsInteger h.sampleCount then some h
  else none

/-- `RollupHourlyMetrics` and `ApplyMetricsRetention`. -/
def metricsScheme : Scheme MetricsRow UUID MetricsHour where
  key := (·.deviceID)
  time := (·.observedAt)
  width := hour
  width_pos := by decide
  aggregate := aggregateMetrics

/-- `RollupHourlyNetworkMetrics` and `ApplyNetworkMetricsRetention`. -/
def networkScheme : Scheme NetworkRow UUID NetworkHour where
  key := (·.deviceID)
  time := (·.observedAt)
  width := hour
  width_pos := by decide
  aggregate := aggregateNetwork

/-! ### What is stored -/

/-- A number is stored as it was reported. -/
def Exact (stored : ℤ) (reported : ℕ) : Prop :=
  stored = reported ∧ 0 ≤ stored

/-- The sum over the filesystems that are not removable. -/
def fixedSum (f : FilesystemUsage → UInt64) (filesystems : List FilesystemUsage) : ℕ :=
  ((filesystems.filter fun fs ↦ !fs.removable).map fun fs ↦ (f fs).toNat).sum

/-- The byte counts of a sample. -/
def NetworkMetricsSample.counts (s : NetworkMetricsSample) : List UInt64 :=
  [s.bytesSentTotal, s.bytesRecvTotal, s.bytesSentControl, s.bytesRecvControl]

def NetworkRow.counts (r : NetworkRow) : List ℤ :=
  [r.bytesSentTotal, r.bytesRecvTotal, r.bytesSentControl, r.bytesRecvControl]

theorem exact_int64_iff {x : UInt64} {n : ℕ} (hx : x.toNat = n % 2 ^ 64) :
    Exact (int64 x) n ↔ n < 2 ^ 63 := by
  have hint : int64 x = (x.toNat : ℤ).bmod (2 ^ 64) := BitVec.toInt_eq_toNat_bmod x.toBitVec
  rw [Exact, hint, hx]
  constructor
  · rintro ⟨heq, -⟩
    have hlt := @Int.bmod_lt ((n % 2 ^ 64 : ℕ) : ℤ) (2 ^ 64) (by norm_num)
    omega
  · intro hlt
    rw [Nat.mod_eq_of_lt (by omega), Int.bmod_eq_of_le (by omega) (by omega)]
    omega

theorem diskUsage_eq (filesystems : List FilesystemUsage) :
    diskUsage filesystems = (.ofNat (fixedSum (·.usedBytes) filesystems),
      .ofNat (fixedSum (·.totalBytes) filesystems)) := by
  induction filesystems using List.reverseRecOn with
  | nil => rfl
  | append_singleton rest fs ih =>
    have hstep : diskUsage (rest ++ [fs]) = if fs.removable then diskUsage rest else
        ((diskUsage rest).1 + fs.usedBytes, (diskUsage rest).2 + fs.totalBytes) := by
      simp [diskUsage]
    rw [hstep, ih]
    cases hr : fs.removable <;> simp [fixedSum, hr, UInt64.ofNat_add]

/-- **A report and a batch are stored as they are** iff sums and counts are below `2 ^ 63`. -/
theorem stored_exact_iff {now : ℕ} {id : UUID} {cpuPercent : ℚ} {memUsed memTotal : UInt64}
    {filesystems : List FilesystemUsage} {row : MetricsRow}
    (h : metricsRow now id cpuPercent memUsed memTotal filesystems = some row)
    (samples : List NetworkMetricsSample) :
    ((Exact row.diskUsedBytes (fixedSum (·.usedBytes) filesystems) ∧
        Exact row.diskTotalBytes (fixedSum (·.totalBytes) filesystems)) ∧
      ∀ s ∈ samples, List.Forall₂ (fun stored x ↦ Exact stored x.toNat) (networkRow id s).counts
        s.counts) ↔
    (fixedSum (·.usedBytes) filesystems < 2 ^ 63 ∧ fixedSum (·.totalBytes) filesystems < 2 ^ 63) ∧
      ∀ s ∈ samples, ∀ x ∈ s.counts, x.toNat < 2 ^ 63 := by
  unfold metricsRow at h
  split_ifs at h
  cases h
  have hcnt (x : UInt64) : Exact (int64 x) x.toNat ↔ x.toNat < 2 ^ 63 :=
    exact_int64_iff (Nat.mod_eq_of_lt x.toNat_lt).symm
  refine and_congr (and_congr (exact_int64_iff ?_) (exact_int64_iff ?_)) (forall₂_congr fun s _ ↦
    ?_)
  · simp [diskUsage_eq]
  · simp [diskUsage_eq]
  · simp [NetworkMetricsSample.counts, NetworkRow.counts, networkRow, hcnt]

/-- The disk of a small machine, and a minute without traffic. -/
theorem stored_exact_iff_small :
    ∃ row, metricsRow 0 0 0 1 2 [⟨['/'], 3, 4, false⟩, ⟨['/', 'm'], 5, 6, true⟩] = some row ∧
      ((Exact row.diskUsedBytes 3 ∧ Exact row.diskTotalBytes 4) ∧
        ∀ s ∈ [(⟨0, 60, 0, 0, 0, 0⟩ : NetworkMetricsSample)], List.Forall₂ (fun stored x ↦
          Exact stored x.toNat) (networkRow 0 s).counts s.counts) :=
  ⟨_, if_pos (by decide), (stored_exact_iff (if_pos (by decide)) _).2
    ⟨by decide, by simp [NetworkMetricsSample.counts]⟩⟩

/-- **A disk of `2 ^ 63` bytes is stored with a negative number.** -/
theorem not_exact_wrapped : ∃ row,
    metricsRow 0 0 0 1 2 [⟨['/'], 2 ^ 63, 2 ^ 63, false⟩] = some row ∧ row.diskUsedBytes = -2 ^ 63 ∧
    ¬ Exact row.diskUsedBytes (fixedSum (·.usedBytes) [⟨['/'], 2 ^ 63, 2 ^ 63, false⟩]) :=
  ⟨_, if_pos (by decide), by decide +kernel, fun h ↦ absurd h.2 (by decide +kernel)⟩

end WartungsRemote.Device
