import WartungsRemote.Alerting.Flapping
import WartungsRemote.Monitoring.Health

/-!
# What alert rules agree with

A disk rule and the health of a device look at the same filesystems, and a service rule looks for a
name under which the agent starts and stops a service. But the health leaves **removable**
filesystems out, which the rule counts (`disk_agree_iff`), and the agent appends `.service` to a
name that it is given, while the rule compares the name as it is with those of the units
(`service_quiet_iff`).
-/

namespace WartungsRemote.Alerting

open List
open Device (FilesystemUsage Listed MetricsPoint Status)
open Monitoring (Reason Thresholds diskReason evaluate latestMetrics loadReasons reasons)

/-! ### Full disks -/

section Disks

variable {t : Thresholds} {rows : List MetricsPoint} {p : MetricsPoint} {fs : FilesystemUsage}
  {rule : Rule} {d : Listed} {status : Status}

def Full (threshold : ℚ) (fs : FilesystemUsage) : Prop :=
  fs.totalBytes ≠ 0 ∧ threshold ≤ percent fs.usedBytes.toNat fs.totalBytes.toNat
  deriving Decidable

/-- The reason is a full disk. -/
def isDisk : Reason → Bool
  | .diskCritical .. | .diskWarning .. => true
  | _ => false

theorem diskReason_ne_none_iff (h : t.diskWarningPercent ≤ t.diskCriticalPercent) :
    diskReason t fs ≠ none ↔ fs.removable = false ∧ Full t.diskWarningPercent fs := by
  simp only [diskReason, Full]
  split_ifs with hskip hcritical <;> grind

/-- `Evaluate` reports a disk reason exactly if a filesystem of the latest sample gives one. -/
theorem exists_isDisk_iff (hstat : status ≠ .offline ∧ status ≠ .revoked)
    (hlat : latestMetrics rows = some p) {now later : ℤ} {version : Text} :
    (∃ r ∈ (evaluate t rows now later status version).2, isDisk r = true) ↔
      ∃ fs ∈ p.filesystems, diskReason t fs ≠ none := by
  rw [evaluate, if_neg (by tauto), reasons, hlat]
  simp only [Option.elim_some, mem_append, mem_filterMap, loadReasons, mem_ite_nil_right,
    mem_singleton]
  constructor
  · rintro ⟨r, (⟨fs, hfs, heq⟩ | ⟨-, rfl⟩ | ⟨-, rfl⟩) | ⟨-, rfl⟩, hdisk⟩
    · exact ⟨fs, hfs, by simp [heq]⟩
    all_goals cases hdisk
  · rintro ⟨fs, hfs, hne⟩
    obtain ⟨r, hr⟩ := Option.ne_none_iff_exists'.1 hne
    refine ⟨r, .inl (.inl ⟨fs, hfs, hr⟩), ?_⟩
    simp only [diskReason, Option.ite_none_left_eq_some] at hr
    obtain ⟨-, hr⟩ := hr
    split_ifs at hr <;> cases hr <;> rfl

theorem evaluateRule_disk_iff (htype : rule.ruleType = .disk) {threshold : ℚ}
    (h : rule.threshold = some threshold) {answer : Answer} :
    (∃ finding, evaluateRule rule d ⟨some (some p), answer⟩ = some (some finding)) ↔
      ∃ fs ∈ p.filesystems, Full threshold fs := by
  simp only [evaluateRule, htype, h, Option.bind_eq_bind, Option.bind_some, Option.some.injEq,
    ← Option.isSome_iff_exists, findSome?_isSome_iff]
  refine exists_congr fun fs ↦ and_congr_right fun _ ↦ ?_
  unfold exceeds Full
  split_ifs with htotal hfull <;> simp [*]

/-- **The disk rule and the health agree** unless a removable filesystem is full and no other is. -/
theorem disk_agree_iff (htype : rule.ruleType = .disk)
    (hthreshold : rule.threshold = some t.diskWarningPercent)
    (h : t.diskWarningPercent ≤ t.diskCriticalPercent)
    (hstat : status ≠ .offline ∧ status ≠ .revoked) (hlat : latestMetrics rows = some p)
    (answer : Answer) (now later : ℤ) (version : Text) :
    ((∃ finding, evaluateRule rule d ⟨some (latestMetrics rows), answer⟩ = some (some finding)) ↔
      ∃ r ∈ (evaluate t rows now later status version).2, isDisk r = true) ↔
    ((∃ fs ∈ p.filesystems, fs.removable = true ∧ Full t.diskWarningPercent fs) →
      ∃ fs ∈ p.filesystems, fs.removable = false ∧ Full t.diskWarningPercent fs) := by
  simp only [exists_isDisk_iff hstat hlat, diskReason_ne_none_iff h, hlat,
    evaluateRule_disk_iff htype hthreshold]
  constructor
  · rintro hagr ⟨fs, hmem, -, hfull⟩
    exact hagr.1 ⟨fs, hmem, hfull⟩
  · refine fun hfixed ↦ ⟨?_, fun ⟨fs, hmem, _, hfull⟩ ↦ ⟨fs, hmem, hfull⟩⟩
    rintro ⟨fs, hmem, hfull⟩
    cases hremovable : fs.removable with
    | true => exact hfixed ⟨fs, hmem, hremovable, hfull⟩
    | false => exact ⟨fs, hmem, hremovable, hfull⟩

end Disks

namespace Sample

def diskRule : Rule :=
  { rule with ruleType := .disk, config := .obj [("threshold_percent".toList, .num 90)] }

/-- A stick that is full, and the disk of the device. -/
def stick (used : UInt64) : MetricsPoint :=
  { Monitoring.busy 0 with
    filesystems := [⟨"/media".toList, 19, 20, true⟩, ⟨['/'], used, 20, false⟩] }

end Sample

open Sample

/-- The stick and the disk are full. -/
theorem disk_agree_iff_full : (∃ finding,
      evaluateRule diskRule device ⟨some (latestMetrics [stick 19]), .offline⟩ =
        some (some finding)) ↔
    ∃ r ∈ (evaluate Monitoring.defaultThresholds [stick 19] 0 0 .online []).2, isDisk r = true := by
  refine (disk_agree_iff rfl (by decide +kernel) (by decide) (by decide) rfl .offline 0 0 []).2
    fun _ ↦ ?_
  exact ⟨_, mem_cons_of_mem _ mem_cons_self, rfl, by decide +kernel⟩

/-- A full stick is an alert, and the device is healthy. -/
theorem not_disk_agree_removable :
    (evaluateRule diskRule device ⟨some (latestMetrics [stick 1]), .offline⟩).any (·.isSome) ∧
      evaluate Monitoring.defaultThresholds [stick 1] 0 0 .online [] = (.healthy, []) := by
  decide +kernel

/-! ### Services -/

/-- `[a-zA-Z0-9_@:.\-]`. -/
def isServiceChar (c : Char) : Bool :=
  c.isAlphanum || c ∈ ['_', '@', ':', '.', '-']

def normalizeServiceName (name : Text) : Option Text :=
  if name.all isServiceChar ∧ name ≠ [] ∧ name.length ≤ 255 then
    some (if ".service".toList <:+ name then name else name ++ ".service".toList)
  else none

/-- A `systemdUnit`, without the fields that `ListServices` does not read. -/
structure SystemdUnit where
  unit : Text
  active : Text
  description : Text

/-- The status that `ListServices` gives a unit. -/
def serviceStatus (active : Text) : Text :=
  if active = "active".toList then "running".toList
  else if active = "inactive".toList ∨ active = "failed".toList then "stopped".toList
  else "unknown".toList

/-- `ListServices`. -/
def listServices (units : List SystemdUnit) : List ServiceInfo :=
  units.map fun u ↦ ⟨u.unit, u.description, serviceStatus u.active⟩

theorem serviceStatus_ne_running_iff {active : Text} :
    serviceStatus active ≠ ['r', 'u', 'n', 'n', 'i', 'n', 'g'] ↔ active ≠ "active".toList := by
  unfold serviceStatus
  split_ifs with hact hstop
  · exact iff_of_false (by simp) (by simp [hact])
  · exact iff_of_true (by decide) hact
  · exact iff_of_true (by decide) hact

theorem checkService_listServices_eq_none_iff {name : Text} {units : List SystemdUnit} :
    checkService name (listServices units) = none ↔
      ∃ u, units.find? (fun u ↦ u.unit = name) = some u ∧ u.active = "active".toList := by
  rw [checkService, listServices, find?_map, Function.comp_def]
  cases units.find? fun u ↦ u.unit = name with
  | none => simp
  | some u => simp only [Option.map_some, serviceStatus_ne_running_iff]; simp

/-- **A service rule is quiet** about a running unit exactly if the rule has the full name of the
unit, or a unit has the very name of the rule, and the first unit of that name is active. -/
theorem service_quiet_iff {rule : Rule} (htype : rule.ruleType = .service) {name unit : Text}
    (hname : rule.serviceName = some name) (hunit : normalizeServiceName name = some unit)
    {units : List SystemdUnit} (hrun : ∃ u ∈ units, u.unit = unit ∧ u.active = "active".toList)
    (d : Listed) (metrics : Option (Option MetricsPoint)) :
    evaluateRule rule d ⟨metrics, .result "success".toList (listServices units)⟩ = some none ↔
      (".service".toList <:+ name ∨ ∃ u ∈ units, u.unit = name) ∧
        ∀ u, units.find? (fun u ↦ u.unit = name) = some u → u.active = "active".toList := by
  rw [normalizeServiceName, Option.ite_none_right_eq_some, Option.some.injEq] at hunit
  obtain ⟨⟨-, hne, -⟩, hunit⟩ := hunit
  have hnamed : (".service".toList <:+ name ∨ ∃ u ∈ units, u.unit = name) ↔
      ∃ u ∈ units, u.unit = name := by
    refine or_iff_right_of_imp fun hsuffix ↦ ?_
    obtain ⟨u, hu, heq, -⟩ := hrun
    rw [if_pos hsuffix] at hunit
    exact ⟨u, hu, heq.trans hunit.symm⟩
  have hfnd : (∃ u ∈ units, u.unit = name) ↔ (units.find? fun u ↦ u.unit = name).isSome = true := by
    simp
  rw [hnamed, hfnd]
  simp only [evaluateRule, htype, hname, Option.bind_eq_bind, Option.bind_some, if_neg hne,
    Option.some.injEq]
  rw [show Answer.services _ = some (listServices units) from rfl, Option.bind_some,
    checkService_listServices_eq_none_iff]
  cases units.find? fun u ↦ u.unit = name with
  | none => simp
  | some => simp

namespace Sample

/-- The units of a device. -/
def units : List SystemdUnit :=
  [⟨"cron.service".toList, "failed".toList, []⟩, ⟨"ssh.service".toList, "active".toList, []⟩]

end Sample

/-- The rule names the unit as the unit is named. -/
theorem service_quiet_iff_named :
    evaluateRule { rule with config := .obj [("service_name".toList, .str "ssh.service".toList)] }
      device ⟨none, .result "success".toList (listServices units)⟩ = some none := by
  refine (@service_quiet_iff _ rfl "ssh.service".toList "ssh.service".toList (by decide +kernel)
    (by decide +kernel) units ⟨_, mem_cons_of_mem _ mem_cons_self, rfl, rfl⟩ _ _).2
      ⟨.inl (by decide), ?_⟩
  rintro _ ⟨⟩
  rfl

/-- The unit that the agent takes `ssh` to mean runs, and the rule for `ssh` does not find it. -/
theorem not_service_quiet_short : normalizeServiceName "ssh".toList = some "ssh.service".toList ∧
    rule.serviceName = some "ssh".toList ∧
    evaluateRule rule device ⟨none, .result "success".toList (listServices units)⟩ =
      some (some ⟨.critical, "service ssh not found".toList⟩) := by
  decide +kernel

end WartungsRemote.Alerting
