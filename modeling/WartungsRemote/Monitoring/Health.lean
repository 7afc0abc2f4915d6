import WartungsRemote.Alerting.Engine

/-!
# The health of a device

`Engine.Evaluate` of `internal/monitoring`: full disks, a load that lasts and an old agent are the
reasons for which a device is not healthy. A load lasts if it is in **every** sample of the window
that ends now, and if these samples are at least the window without one minute apart; whether it is
noticed depends on where they fall in the window.

Times are in microseconds, and the clock is read twice. The samples are the rows of `device_metrics`
of the device, with columns that `RecordMetrics` fills. A reason is the data of its text. The write
of `UpdateHealth` is left out.
-/

namespace WartungsRemote.Monitoring

open List
open Alerting (percent)
open Device (FilesystemUsage Health MetricsPoint Status)
open Sql (select)

def second : ℤ := 1000000

def minute : ℤ := 60 * second

structure Thresholds where
  diskWarningPercent : ℚ
  diskCriticalPercent : ℚ
  ramWarningPercent : ℚ
  cpuWarningPercent : ℚ
  sustainedWindow : ℤ
  minSupportedAgentVer : Text

def defaultThresholds : Thresholds where
  diskWarningPercent := 90
  diskCriticalPercent := 97
  ramWarningPercent := 90
  cpuWarningPercent := 95
  sustainedWindow := 10 * minute
  minSupportedAgentVer := "0.1.0".toList

inductive Reason
  | diskCritical (path : Text) (pct : ℚ)
  | diskWarning (path : Text) (pct : ℚ)
  | cpu
  | ram
  | agentVersion (version : Text)
  deriving DecidableEq

/-! ### Evaluation -/

section Evaluate

variable (t : Thresholds) (rows history : List MetricsPoint)

/-- `ORDER BY observed_at DESC`. -/
def newestFirst (p q : MetricsPoint) : Bool :=
  q.observedAt ≤ p.observedAt

def latestMetrics : Option MetricsPoint :=
  (select (fun _ ↦ true) newestFirst 0 1 rows).head?

def recentMetrics (start stop : ℤ) (limit : ℕ) : List MetricsPoint :=
  select (fun p ↦ start ≤ p.observedAt ∧ p.observedAt ≤ stop) newestFirst 0
    (if limit = 0 ∨ 5000 < limit then 500 else limit) rows

def sustainedAbove (window : ℤ) (pred : MetricsPoint → Bool) : Bool :=
  match (history.map (·.observedAt)).min?, (history.map (·.observedAt)).max? with
  | some oldest, some newest => history.all pred && window - minute ≤ newest - oldest
  | _, _ => false

def diskReason (fs : FilesystemUsage) : Option Reason :=
  let pct := percent fs.usedBytes.toNat fs.totalBytes.toNat
  if fs.totalBytes = 0 ∨ fs.removable then none
  else if t.diskCriticalPercent ≤ pct then some (.diskCritical fs.path pct)
  else if t.diskWarningPercent ≤ pct then some (.diskWarning fs.path pct)
  else none

def cpuAbove (p : MetricsPoint) : Bool :=
  t.cpuWarningPercent ≤ p.cpuPercent

def ramAbove (p : MetricsPoint) : Bool :=
  p.memoryTotalBytes ≠ 0 ∧ t.ramWarningPercent ≤ percent p.memoryUsedBytes p.memoryTotalBytes

def loadReasons : List Reason :=
  (if sustainedAbove history t.sustainedWindow (cpuAbove t) then [.cpu] else []) ++
    if sustainedAbove history t.sustainedWindow (ramAbove t) then [.ram] else []

/-- The agent is older than the oldest one supported. -/
def outdated (version : Text) : Bool :=
  version ≠ [] && isOlderVersion version t.minSupportedAgentVer

/-- The reasons at the two times at which the clock is read. -/
def reasons (now later : ℤ) (version : Text) : List Reason :=
  ((latestMetrics rows).elim [] fun latest ↦ latest.filesystems.filterMap (diskReason t) ++
      loadReasons t (recentMetrics rows (now - t.sustainedWindow) later 200)) ++
    if outdated t version then [.agentVersion version] else []

def Reason.critical : Reason → Bool
  | .diskCritical .. => true
  | _ => false

/-- `Evaluate`, with the status and the version of the device. -/
def evaluate (now later : ℤ) (status : Status) (version : Text) : Health × List Reason :=
  if status = .offline ∨ status = .revoked then
    (if status = .revoked then .unknown else .offline, [])
  else
    let reasons := reasons t rows now later version
    (if reasons.any (·.critical) then .critical else if reasons.any (!·.critical) then .warning
      else .healthy, reasons)

end Evaluate

/-! ### Load that lasts -/

section Load

variable {t : Thresholds} {rows history : List MetricsPoint} {now later window : ℤ}
  {status : Status} {version : Text}

/-- Two samples are at least so far apart. -/
def Spans (history : List MetricsPoint) (span : ℤ) : Prop :=
  ∃ p ∈ history, ∃ q ∈ history, span ≤ q.observedAt - p.observedAt

theorem sustainedAbove_iff {pred : MetricsPoint → Bool} :
    sustainedAbove history window pred = true ↔ (∀ p ∈ history, pred p = true) ∧
      Spans history (window - minute) := by
  unfold sustainedAbove
  split
  · rename_i oldest newest hmin hmax
    rw [min?_eq_some_iff] at hmin
    rw [max?_eq_some_iff] at hmax
    obtain ⟨hmem, hle⟩ := hmin
    obtain ⟨hmem', hge⟩ := hmax
    obtain ⟨p, hp, rfl⟩ := mem_map.1 hmem
    obtain ⟨q, hq, rfl⟩ := mem_map.1 hmem'
    simp only [Bool.and_eq_true, all_eq_true, decide_eq_true_eq]
    refine and_congr_right fun _ ↦ ⟨fun h ↦ ⟨p, hp, q, hq, h⟩, ?_⟩
    rintro ⟨_, hp', _, hq', h⟩
    have := hle _ (mem_map_of_mem hp')
    have := hge _ (mem_map_of_mem hq')
    omega
  · rename_i hnone
    simp only [Bool.false_eq_true, false_iff, not_and]
    rintro - ⟨p, hp, -⟩
    cases history with
    | nil => cases hp
    | cons => exact hnone _ _ rfl rfl

/-- A load that is in every sample is a reason exactly if the samples are far enough apart. -/
theorem loadReasons_ne_nil_iff (h : (∀ p ∈ history, cpuAbove t p) ∨ ∀ p ∈ history, ramAbove t p) :
    loadReasons t history ≠ [] ↔ Spans history (t.sustainedWindow - minute) := by
  simp only [loadReasons, ne_eq, append_eq_nil_iff, ite_eq_right_iff, cons_ne_nil, imp_false,
    sustainedAbove_iff]
  tauto

/-- The samples under a load: up to now, at most `gap` apart, from twenty minutes ago to ten seconds
ago. -/
structure SustainedLoad (t : Thresholds) (rows : List MetricsPoint) (gap now : ℤ) : Prop where
  past : ∀ p ∈ rows, p.observedAt ≤ now
  next : ∀ p ∈ rows, now ≤ p.observedAt + 10 * second ∨
    ∃ q ∈ rows, p.observedAt < q.observedAt ∧ q.observedAt ≤ p.observedAt + gap
  covers : ∃ p ∈ rows, p.observedAt + 20 * minute ≤ now
  above : (∀ p ∈ rows, cpuAbove t p) ∨ ∀ p ∈ rows, ramAbove t p

theorem evaluate_mem_iff (hstat : status ≠ .offline ∧ status ≠ .revoked) :
    (evaluate t rows now later status version).1 ∈ [Health.warning, .critical] ↔
      reasons t rows now later version ≠ [] := by
  rw [evaluate, if_neg (by tauto)]
  cases reasons t rows now later version with
  | nil => simp
  | cons r rs => cases h : r.critical <;> by_cases h' : rs.any (·.critical) <;> simp [h, h']

/-- **Sustained load** is noticed exactly if a disk is full or the agent is old, or if the newest
two hundred samples of the last ten minutes span nine minutes. -/
theorem sustainedLoad_noticed_iff (hstat : status ≠ .offline ∧ status ≠ .revoked)
    (h : SustainedLoad defaultThresholds rows (330 * second) now) :
    (evaluate defaultThresholds rows now later status version).1 ∈ [Health.warning, .critical] ↔
      (∃ latest ∈ latestMetrics rows, ∃ fs ∈ latest.filesystems,
        diskReason defaultThresholds fs ≠ none) ∨ outdated defaultThresholds version ∨
          Spans (recentMetrics rows (now - 10 * minute) later 200) (9 * minute) := by
  obtain ⟨p, hp, -⟩ := h.covers
  obtain ⟨latest, hlat⟩ : ∃ latest, latestMetrics rows = some latest :=
    Sql.exists_head?_select hp rfl
  have hload : (∀ p ∈ recentMetrics rows (now - 10 * minute) later 200,
      cpuAbove defaultThresholds p) ∨ ∀ p ∈ recentMetrics rows (now - 10 * minute) later 200,
          ramAbove defaultThresholds p :=
    h.above.imp (fun h p hp ↦ h p (Sql.mem_of_mem_select hp).1) fun h p hp ↦
      h p (Sql.mem_of_mem_select hp).1
  have hspans : loadReasons defaultThresholds (recentMetrics rows (now - 10 * minute) later 200) =
      [] ↔ ¬ Spans (recentMetrics rows (now - 10 * minute) later 200) (9 * minute) :=
    not_iff_not.1 ((loadReasons_ne_nil_iff hload).trans not_not.symm)
  have hwin : defaultThresholds.sustainedWindow = 10 * minute := rfl
  rw [evaluate_mem_iff hstat, reasons, hlat, hwin]
  simp only [Option.elim_some, ne_eq, append_eq_nil_iff, filterMap_eq_nil_iff, hspans,
    ite_eq_right_iff, cons_ne_nil, imp_false, Option.mem_def, Option.some.injEq, exists_eq_left',
      ← or_assoc]
  grind

end Load

/-! ### Samples that are five and a half minutes apart -/

/-- All of the processor is used. -/
def busy (seconds : ℤ) : MetricsPoint where
  observedAt := seconds * second
  cpuPercent := 100
  memoryUsedBytes := 0
  memoryTotalBytes := 0
  filesystems := []

theorem sustainedLoad_busy :
    SustainedLoad defaultThresholds ([0, 330, 660, 990, 1320].map busy) (330 * second)
    (1330 * second) where
  past := by decide +kernel
  next := by decide +kernel
  covers := by decide +kernel
  above := .inl (by decide +kernel)

/-- Samples that are five minutes apart: three of them are in the window. -/
theorem sustainedLoad_noticed_iff_busy :
    SustainedLoad defaultThresholds ([0, 300, 600, 900, 1200].map busy) (330 * second)
    (1200 * second) ∧ (evaluate defaultThresholds ([0, 300, 600, 900, 1200].map busy)
      (1200 * second) (1200 * second) .online []).1 ∈ [Health.warning, .critical] := by
  have h : SustainedLoad defaultThresholds ([0, 300, 600, 900, 1200].map busy) (330 * second)
      (1200 * second) :=
    ⟨by decide +kernel, by decide +kernel, by decide +kernel, .inl (by decide +kernel)⟩
  refine ⟨h, (sustainedLoad_noticed_iff ⟨by decide, by decide⟩ h).2 (.inr (.inr ?_))⟩
  exact ⟨busy 600, by decide +kernel, busy 1200, by decide +kernel, by decide⟩

/-- Only the last two samples are in the window. -/
theorem not_noticed_busy : SustainedLoad defaultThresholds ([0, 330, 660, 990, 1320].map busy)
    (330 * second)
      (1330 * second) ∧
    evaluate defaultThresholds ([0, 330, 660, 990, 1320].map busy) (1330 * second) (1330 * second)
      .online [] = (.healthy, []) :=
  ⟨sustainedLoad_busy, by decide +kernel⟩

end WartungsRemote.Monitoring
