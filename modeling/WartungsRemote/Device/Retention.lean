import WartungsRemote.Device.Metrics

/-!
# Hourly aggregates are not final

`RollupHourlyMetrics` is run on every tick and counts on being idempotent. It recomputes every hour
from the samples that are left, and raw retention cuts at a moment and not at an hour: the tick
after a cut through an hour replaces its row by the aggregate of the rest. In runs that meet
`WholeHours` the aggregates are final after every sweep, by the scheme of roll-ups, once for each
pair of tables.
-/

namespace WartungsRemote.Device.Retention

open List Option Rollup
open Transition

/-- The metrics tables. -/
structure State where
  metrics : Table MetricsRow UUID MetricsHour
  network : Table NetworkRow UUID NetworkHour
  /-- The last time read from the clock. -/
  clock : ℕ

/-- Empty tables. -/
def State.init : State where
  metrics := .empty
  network := .empty
  clock := 0

inductive Label
  | recordMetrics (now : ℕ) (id : UUID) (cpuPercent : ℚ) (memUsed memTotal : UInt64)
      (filesystems : List FilesystemUsage)
  | recordNetworkMetricsBatch (id : UUID) (samples : List NetworkMetricsSample)
  /-- A tick of `RunMetricsRetentionSweeper`. Where a roll-up fails (`none`), retention is not
  applied to its tables. -/
  | tick (metrics network : Option Sweep)

/-- The readings of the clock do not decrease, and the windows are positive. -/
def Timely (clock : ℕ) (w : Sweep) : Prop :=
  clock ≤ w.rollupAt ∧ w.rollupAt ≤ w.samplesAt ∧ w.samplesAt ≤ w.rolledAt ∧
    0 < w.sampleRetention ∧ 0 < w.rolledRetention
  deriving Decidable

/-- One pair of tables at a tick. -/
def sweepTable {α β : Type} (S : Scheme α UUID β) (T : Table α UUID β) (clock : ℕ) :
    Option Sweep → Option (Table α UUID β × ℕ)
  | none => some (T, clock)
  | some w => if Timely clock w then (S.sweep T w).map fun T' ↦ (T', w.rolledAt) else none

/-- One step of the tables. -/
def step (s : State) : Label → Option State
  | .recordMetrics now id cpuPercent memUsed memTotal filesystems =>
    if s.clock ≤ now then
      (metricsRow now id cpuPercent memUsed memTotal filesystems).map fun row ↦
        { s with metrics := Scheme.insert s.metrics row, clock := now }
    else none
  | .recordNetworkMetricsBatch id samples =>
    some { s with network := (samples.map (networkRow id)).foldl Scheme.insert s.network }
  | .tick metrics network =>
    (sweepTable metricsScheme s.metrics s.clock metrics).bind fun (metrics, clock) ↦
      (sweepTable networkScheme s.network clock network).map fun (network, clock) ↦
        { metrics, network, clock }

/-- **Hourly aggregates are final** after a step: at a tick, the row of every hour closed at the
roll-up and not removed by hourly retention is the aggregate of all samples recorded. -/
def AggregatesFinal : Label → State → Prop
  | .tick metrics network, t =>
    (∀ w ∈ metrics, metricsScheme.Final t.metrics w.rollupAt) ∧
      ∀ w ∈ network, networkScheme.Final t.network w.rollupAt
  | _, _ => True

/-- The condition on a step: samples are recorded only for hours from which raw retention has
deleted nothing, and raw retention deletes only whole hours that the roll-up before it covers. -/
def WholeHours (s : State) : Label → Prop
  | .recordMetrics now id cpuPercent memUsed memTotal filesystems =>
    ∀ row ∈ metricsRow now id cpuPercent memUsed memTotal filesystems,
      metricsScheme.Insertable s.metrics row
  | .recordNetworkMetricsBatch id samples =>
    ∀ sample ∈ samples, networkScheme.Insertable s.network (networkRow id sample)
  | .tick metrics network =>
    (∀ w ∈ metrics, metricsScheme.Sweepable s.metrics w) ∧ ∀ w ∈ network,
      networkScheme.Sweepable s.network w

instance (s : State) : DecidablePred (WholeHours s) := by
  rintro (_ | _) <;> unfold WholeHours <;> infer_instance

/-- The invariant of both pairs of tables. -/
structure RetentionInv (s : State) : Prop where
  metrics : metricsScheme.Sound s.metrics
  network : networkScheme.Sound s.network

theorem sound_insertAll {α β : Type} {S : Scheme α UUID β} {T : Table α UUID β} (hT : S.Sound T)
    {rows : List α} (hrows : ∀ row ∈ rows, S.Insertable T row) :
    S.Sound (rows.foldl Scheme.insert T) := by
  induction rows generalizing T with
  | nil => exact hT
  | cons row _ ih =>
    exact ih (hT.insert (hrows row mem_cons_self)) fun row' hmem ↦
      (hrows row' (mem_cons_of_mem _ hmem)).insert

theorem sound_sweepTable {α β : Type} {S : Scheme α UUID β} {T T' : Table α UUID β}
    {clock clock' : ℕ} {sweep : Option Sweep} (hT : S.Sound T) (hswp : ∀ w ∈ sweep, S.Sweepable T w)
    (h : sweepTable S T clock sweep = some (T', clock')) :
    S.Sound T' ∧ ∀ w ∈ sweep, S.Final T' w.rollupAt := by
  cases sweep with
  | none =>
    cases h
    exact ⟨hT, nofun⟩
  | some w =>
    simp only [sweepTable] at h
    split at h
    · obtain ⟨R, hR, heq⟩ := map_eq_some_iff.1 h
      cases heq
      obtain ⟨hsnd, hfin⟩ := hT.sweep (hswp w rfl) hR
      refine ⟨hsnd, fun w' hw' ↦ ?_⟩
      cases hw'
      exact hfin
    · cases h

variable {s t : State} {l : Label}

theorem tick_eq_some {metrics network : Option Sweep}
    (h : step s (.tick metrics network) = some t) :
    ∃ clock, sweepTable metricsScheme s.metrics s.clock metrics = some (t.metrics, clock) ∧
      sweepTable networkScheme s.network clock network = some (t.network, t.clock) := by
  obtain ⟨⟨M, clock⟩, hM, h⟩ := bind_eq_some_iff.1 h
  obtain ⟨⟨N, _⟩, hN, rfl⟩ := map_eq_some_iff.1 h
  exact ⟨clock, hM, hN⟩

/-- A tick rolls up whole hours before it deletes them. -/
theorem RetentionInv.tick (hinv : RetentionInv s) {metrics network : Option Sweep}
    (h : step s (.tick metrics network) = some t) (hwhole : WholeHours s (.tick metrics network)) :
    RetentionInv t ∧ AggregatesFinal (.tick metrics network) t := by
  obtain ⟨_, hM, hN⟩ := tick_eq_some h
  obtain ⟨hsoundM, hfinalM⟩ := sound_sweepTable hinv.metrics hwhole.1 hM
  obtain ⟨hsoundN, hfinalN⟩ := sound_sweepTable hinv.network hwhole.2 hN
  exact ⟨⟨hsoundM, hsoundN⟩, hfinalM, hfinalN⟩

/-- **Every step that keeps hours whole preserves the invariant.** -/
theorem RetentionInv.step (hinv : RetentionInv s) (h : step s l = some t)
    (hwhole : WholeHours s l) :
    RetentionInv t := by
  cases l with
  | recordMetrics =>
    simp only [step] at h
    split at h
    · obtain ⟨row, hrow, rfl⟩ := map_eq_some_iff.1 h
      exact ⟨hinv.metrics.insert (hwhole row hrow), hinv.network⟩
    · cases h
  | recordNetworkMetricsBatch =>
    cases h
    refine ⟨hinv.metrics, sound_insertAll hinv.network fun row hmem ↦ ?_⟩
    obtain ⟨sample, hsample, rfl⟩ := mem_map.1 hmem
    exact hwhole sample hsample
  | tick => exact (hinv.tick h hwhole).1

/-- **Hourly aggregates are final after every sweep of a run that keeps hours whole.** -/
theorem aggregatesFinal_of_wholeHours (ls : List Label)
    (hwhole : Along step (fun s l _ ↦ WholeHours s l) State.init ls) :
    Along step (fun _ l t ↦ AggregatesFinal l t) State.init ls := by
  refine along_of_invariant (I := RetentionInv) (fun s l t hi h hw ↦ hi.step h hw)
    (fun s l t hi h hw ↦ ?_) ⟨Scheme.sound_empty, Scheme.sound_empty⟩ hwhole
  cases l with
  | recordMetrics | recordNetworkMetricsBatch => trivial
  | tick => exact (hi.tick h hw).2

/-- A sample of one byte sent in ten seconds. -/
def Sample.network (seconds : ℕ) : NetworkMetricsSample where
  occurredAt := seconds * 1000000
  intervalSeconds := 10
  bytesSentTotal := 1
  bytesRecvTotal := 0
  bytesSentControl := 0
  bytesRecvControl := 0

/-- A sweep at one reading of the clock, with this raw retention. -/
def Sample.sweep (seconds rawRetention : ℕ) : Sweep where
  rollupAt := seconds * 1000000
  samplesAt := seconds * 1000000
  rolledAt := seconds * 1000000
  sampleRetention := rawRetention * 1000000
  rolledRetention := 365 * 24 * hour

/-- Samples in the first hour, and two sweeps that cut after it. -/
def Sample.alignedRun : List Label :=
  [.recordMetrics (600 * 1000000) 1 50 1 2 [],
    .recordNetworkMetricsBatch 1 [Sample.network 600, Sample.network 3000],
    .tick (some (Sample.sweep 7200 3600)) (some (Sample.sweep 7200 3600)),
    .tick (some (Sample.sweep 7300 3600)) (some (Sample.sweep 7300 3600))]

/-- The samples are gone, and the sum of both stays. -/
theorem aggregatesFinal_of_wholeHours_aligned :
    ((exec step State.init Sample.alignedRun).map fun s ↦
        ((s.network.rolled 1 0).map (·.sumBytesSentTotal), s.network.samples.length)) =
      some (some 2, 0) ∧
    Along step (fun _ l t ↦ AggregatesFinal l t) State.init Sample.alignedRun :=
  ⟨by decide +kernel, aggregatesFinal_of_wholeHours Sample.alignedRun (by decide +kernel)⟩

/-- Raw retention cuts through the first hour: the first sweep stores the sum of its two samples and
deletes one of them, and the second replaces the sum by the other. -/
theorem not_aggregatesFinal_cut : ∃ t, exec step State.init
        [.recordNetworkMetricsBatch 1 [Sample.network 600, Sample.network 3000],
          .tick none (some (Sample.sweep 7200 5400)),
          .tick none (some (Sample.sweep 7300 5400))] = some t ∧
      ¬ AggregatesFinal (.tick none (some (Sample.sweep 7300 5400))) t := by
  have hrun : (exec step State.init
      [.recordNetworkMetricsBatch 1 [Sample.network 600, Sample.network 3000],
        .tick none (some (Sample.sweep 7200 5400)),
        .tick none (some (Sample.sweep 7300 5400))]).map (fun t ↦ (t.network.removed 1 0,
          decide (networkScheme.group 1 0 t.network.recorded = []),
          decide (t.network.rolled 1 0 =
            networkScheme.aggregate (networkScheme.group 1 0 t.network.recorded)))) =
      some (false, false, false) := by
    decide +kernel
  obtain ⟨t, ht, hvalues⟩ := map_eq_some_iff.1 hrun
  simp only [Prod.mk.injEq, decide_eq_false_iff_not] at hvalues
  obtain ⟨hremoved, hrec, hroll⟩ := hvalues
  exact ⟨t, ht, fun hfin ↦ hroll (hfin.2 _ rfl 1 0 (by decide) hremoved hrec)⟩

end WartungsRemote.Device.Retention
