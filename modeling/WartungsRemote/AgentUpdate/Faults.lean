import WartungsRemote.AgentUpdate.Stage
import WartungsRemote.Transition.Run

/-!
# One fault in a swap

`StageAndSwap` and `RestoreBackup` take the binary away from its path before they put another one
there. So there is a moment **without a binary**: in `StageAndSwap` between its two renames, and in
`RestoreBackup` between the removal and the rename, where also a failing rename has the same effect.
Everything else that can go wrong once leaves a complete binary (`startable_iff`), and the old one
if `StageAndSwap` returns an error.
-/

namespace WartungsRemote.AgentUpdate

open Posix Transition Option FileSystem

/-! ### Calls and faults -/

/-- A call of one of the two functions. -/
inductive Call
  | stageAndSwap (newData : List UInt8)
  | restoreBackup (backupPath : Path)

/-- How far a call has got. -/
inductive CallPC
  | stage (pc : StagePC)
  | restore (pc : RestorePC)

def Call.start : Call → CallPC
  | .stageAndSwap _ => .stage .create
  | .restoreBackup _ => .restore .stat

def CallPC.isReturned : CallPC → Bool
  | .stage (.returned _) | .restore (.returned _) => true
  | _ => false

/-- The binary that the call is to put in place. -/
def Call.newBinary (fs : FileSystem Path) : Call → Option (List UInt8)
  | .stageAndSwap newData => some newData
  | .restoreBackup backupPath => fs.content backupPath

/-- One system call of the call. -/
def Call.step (cur : Path) (call : Call) (s : FileSystem Path × CallPC) (o : Syscall) :
    Option (FileSystem Path × CallPC) :=
  match call, s with
  | .stageAndSwap newData, (fs, .stage pc) =>
    (stageStep cur newData (fs, pc) o).map fun (fs', pc') ↦ (fs', .stage pc')
  | .restoreBackup backupPath, (fs, .restore pc) =>
    (restoreStep cur backupPath (fs, pc) o).map fun (fs', pc') ↦ (fs', .restore pc')
  | _, _ => none

/-- Either one system call fails, or the process is killed before the call returns. -/
def OneFault (os : List Syscall) (pc : CallPC) : Prop :=
  os.count .failed ≤ if pc.isReturned then 1 else 0
  deriving Decidable

/-- **There is a binary to start**: the path holds the old or the new one, and the old one if
`StageAndSwap` has failed. -/
def Startable (cur : Path) (call : Call) (fs₀ fs : FileSystem Path) (pc : CallPC) : Prop :=
  (fs.content cur = fs₀.content cur ∨ ∃ b, call.newBinary fs₀ = some b ∧ fs.content cur = some b) ∧
    ∀ err, pc = .stage (.returned (some err)) → fs.content cur = fs₀.content cur

/-- The faults that leave no binary. `StageAndSwap` is killed between its two renames;
`RestoreBackup` finds a backup, removes the current binary and does not get to rename the backup, be
it that the two are the same. -/
def Exposed (cur : Path) (fs₀ : FileSystem Path) (os : List Syscall) (pc : CallPC) : Call → Prop
  | .stageAndSwap _ => pc = .stage .moveIn
  | .restoreBackup backupPath =>
    fs₀.content backupPath ≠ none ∧ [.done, .done] <+: os ∧ (os = [.done, .done, .done] →
      backupPath = cur)

/-! ### Where the old binary is -/

/-- Where the old binary is at a place of `StageAndSwap`, after so many failed system calls. -/
def Swapping (cur : Path) (newData old : List UInt8) (fs : FileSystem Path) (faults : ℕ) :
    StagePC → Prop
  | .create | .write _ _ | .removeOld | .backUp => fs.content cur = some old
  | .moveIn => fs.content cur = none ∧ fs.content (backup cur) = some old
  | .discard => fs.content cur = some old ∧ 1 ≤ faults
  | .undo => fs.content cur = none ∧ fs.content (backup cur) = some old ∧ 1 ≤ faults
  | .returned none => fs.content cur = some newData
  | .returned (some _) => fs.content cur = some old ∨ 2 ≤ faults

section OneFault

variable {cur : Path} {newData old : List UInt8} {fs fs' : FileSystem Path} {pc pc' : StagePC}
  {o : Syscall} {os : List Syscall} {faults : ℕ}

/-- A step of `StageAndSwap` keeps track of the old binary. -/
theorem Swapping.step (hstag : Staging cur newData fs pc)
    (h : Swapping cur newData old fs faults pc) (hstep : StageStep cur newData fs pc o fs' pc') :
    Swapping cur newData old fs' (faults + [o].count .failed) pc' := by
  have hexists : ∀ {p b}, fs.content p = some b → fs.dir p ≠ none := fun hb hnone ↦ by
    rw [content_eq_none_iff.2 hnone] at hb
    cases hb
  cases hstep with
  | created => exact (content_truncate_of_ne (staged_ne cur).symm).trans h
  | wrote =>
    obtain ⟨_, hwr, -⟩ := hstag
    exact (content_write_of_ne hwr.dir (staged_ne cur).symm).trans h
  | closed | keptOld => exact h
  | createFailed | writeFailed => exact .inl h
  | removedOld => exact (content_remove_of_ne (backup_ne cur).symm).trans h
  | backedUp => exact ⟨content_rename_source (backup_ne cur).symm,
      (fs.content_rename_self cur (backup cur)).trans h⟩
  | backUpFailed ho =>
    obtain rfl := ho.resolve_right (hexists h)
    exact ⟨h, Nat.le_add_left _ _⟩
  | movedIn => exact (fs.content_rename_self _ cur).trans hstag
  | moveInFailed ho =>
    obtain rfl := ho.resolve_right (hexists hstag)
    exact ⟨h.1, h.2, Nat.le_add_left _ _⟩
  | discarded => exact .inl ((content_remove_of_ne (staged_ne cur).symm).trans h.1)
  | discardFailed => exact .inl h.1
  | undone => exact .inl ((fs.content_rename_self _ cur).trans h.2.1)
  | undoFailed ho =>
    obtain rfl := ho.resolve_right (hexists h.2.1)
    exact .inr (Nat.add_le_add_right h.2.2 1)

theorem swapping_of_exec (hstag : Staging cur newData fs pc)
    (h : Swapping cur newData old fs faults pc)
    (hrun : exec (stageStep cur newData) (fs, pc) os = some (fs', pc')) :
    Swapping cur newData old fs' (faults + os.count .failed) pc' := by
  induction os generalizing fs pc faults with
  | nil =>
    cases hrun
    exact h
  | cons o os ih =>
    obtain ⟨⟨_, _⟩, hstep, hrest⟩ := (exec_cons_eq_some_iff _).1 hrun
    have hcas := stageStep_cases hstep
    have hcnt : faults + (o :: os).count .failed = faults + [o].count .failed +
        os.count .failed := by
      rw [← List.singleton_append, List.count_append, Nat.add_assoc]
    rw [hcnt]
    exact ih (hstag.step hcas) (Swapping.step hstag h hcas) hrest

theorem startable_stage_iff (hold : fs.content cur = some old)
    (hrun : exec (stageStep cur newData) (fs, .create) os = some (fs', pc))
    (hfault : OneFault os (.stage pc)) : Startable cur (.stageAndSwap newData) fs fs' (.stage pc) ↔
      ¬ Exposed cur fs os (.stage pc) (.stageAndSwap newData) := by
  have hcre : Staging cur newData fs .create := trivial
  have hswap : Swapping cur newData old fs' (0 + os.count .failed) pc :=
    swapping_of_exec hcre hold hrun
  rw [Nat.zero_add] at hswap
  have hkept : fs'.content cur = some old → Startable cur (.stageAndSwap newData) fs fs'
    (.stage pc) := fun h ↦ ⟨.inl (h.trans hold.symm), fun _ _ ↦ h.trans hold.symm⟩
  cases pc with
  | create | write | removeOld | backUp =>
    exact iff_of_true (hkept hswap) (by simp [Exposed])
  | moveIn =>
    refine iff_of_false (fun h ↦ ?_) (by simp [Exposed])
    rcases h.1 with h | ⟨b, -, h⟩
    · rw [hswap.1, hold] at h
      cases h
    · rw [hswap.1] at h
      cases h
  | discard => exact absurd (hswap.2.trans hfault) (by decide)
  | undo => exact absurd (hswap.2.2.trans hfault) (by decide)
  | returned err =>
    cases err with
    | none =>
      refine iff_of_true ⟨.inr ⟨newData, rfl, hswap⟩, fun err heq ↦ ?_⟩ (by simp [Exposed])
      cases heq
    | some =>
      have hcur := hswap.resolve_right fun htwo ↦
        absurd (htwo.trans hfault) (by simp [CallPC.isReturned])
      exact iff_of_true (hkept hcur) (by simp [Exposed])

theorem startable_restore_iff {backupPath : Path} {pc : RestorePC}
    (hold : fs.content cur = some old)
    (hrun : exec (restoreStep cur backupPath) (fs, .stat) os = some (fs', pc))
    (hfault : OneFault os (.restore pc)) : Startable cur (.restoreBackup backupPath) fs fs'
    (.restore pc) ↔
      ¬ Exposed cur fs os (.restore pc) (.restoreBackup backupPath) := by
  have hkept : fs' = fs → Startable cur (.restoreBackup backupPath) fs fs' (.restore pc) := fun h ↦
    ⟨.inl (by rw [h]), fun _ _ ↦ by rw [h]⟩
  have hgone : fs'.content cur = none → ¬ Startable cur (.restoreBackup backupPath) fs fs'
      (.restore pc) := by
    rintro hnone ⟨h | ⟨b, -, h⟩, -⟩ <;> rw [hnone] at h
    · rw [hold] at h
      cases h
    · cases h
  have hnew : fs.dir backupPath ≠ none → fs'.content cur = fs.content backupPath →
      Startable cur (.restoreBackup backupPath) fs fs' (.restore pc) := by
    intro hbak h
    obtain ⟨b, hb⟩ := ne_none_iff_exists'.1 (content_eq_none_iff.not.2 hbak)
    exact ⟨.inr ⟨b, hb, h.trans hb⟩, nofun⟩
  have hstuck : ∀ {fs err os}, exec (restoreStep cur backupPath) (fs, .returned err) os =
      some (fs', pc) → os = [] ∧ (fs', pc) = (fs, .returned err) := fun hrun ↦
    exec_of_stuck _ (fun o ↦ by cases o <;> rfl) hrun
  rcases os with _ | ⟨_, os⟩
  · cases hrun
    exact iff_of_true (hkept rfl) (by simp [Exposed])
  obtain ⟨⟨_, _⟩, hstep₁, hrun⟩ := (exec_cons_eq_some_iff _).1 hrun
  cases restoreStep_cases hstep₁ with
  | notFound =>
    obtain ⟨rfl, heq⟩ := hstuck hrun
    cases heq
    exact iff_of_true (hkept rfl) (by simp [Exposed])
  | found hbak =>
    rcases os with _ | ⟨_, os⟩
    · cases hrun
      exact iff_of_true (hkept rfl) (by simp [Exposed])
    obtain ⟨⟨_, _⟩, hstep₂, hrun⟩ := (exec_cons_eq_some_iff _).1 hrun
    rcases os with _ | ⟨o₃, os⟩
    · -- killed before the rename
      cases hrun
      cases restoreStep_cases hstep₂ with
      | removed =>
        refine iff_of_false (hgone (fs.content_remove_self cur)) ?_
        simpa [Exposed, content_eq_none_iff] using hbak
      | kept => exact absurd hfault (by simp [OneFault, CallPC.isReturned])
    obtain ⟨⟨_, _⟩, hstep₃, hrun⟩ := (exec_cons_eq_some_iff _).1 hrun
    cases restoreStep_cases hstep₂ with
    | removed =>
      cases restoreStep_cases hstep₃ with
      | restored hexists =>
        obtain ⟨rfl, heq⟩ := hstuck hrun
        cases heq
        have hne : backupPath ≠ cur := by
          rintro rfl
          exact hexists (by simp [remove])
        refine iff_of_true (hnew hbak ?_) (by simp [Exposed, hne])
        rw [content_rename_self, content_remove_of_ne hne]
      | renameFailed ho =>
        obtain ⟨rfl, heq⟩ := hstuck hrun
        cases heq
        refine iff_of_false (hgone (fs.content_remove_self cur)) (not_not.2 ⟨?_, ⟨[o₃], rfl⟩,
          fun hdone ↦ ?_⟩)
        · exact content_eq_none_iff.not.2 hbak
        · -- a rename that was not made to fail has not found the backup
          by_contra hne
          have hnone := ho.resolve_left (by simp_all)
          exact hbak ((remove_dir_of_ne hne).symm.trans hnone)
    | kept =>
      cases restoreStep_cases hstep₃ with
      | restored =>
        obtain ⟨rfl, heq⟩ := hstuck hrun
        cases heq
        exact iff_of_true (hnew hbak (fs.content_rename_self _ _)) (by simp [Exposed])
      | renameFailed ho =>
        obtain ⟨rfl, heq⟩ := hstuck hrun
        cases heq
        obtain rfl := ho.resolve_right hbak
        exact absurd hfault (by simp [OneFault, CallPC.isReturned])

end OneFault

/-- **Which faults leave no binary to start**: if one system call of `StageAndSwap` or
`RestoreBackup` fails, or the process is killed in it, there is a binary to start unless the call
was exposed. -/
theorem startable_iff (cur : Path) (call : Call) {fs fs' : FileSystem Path} {old : List UInt8}
    {os : List Syscall} {pc : CallPC} (hold : fs.content cur = some old)
    (hrun : exec (call.step cur) (fs, call.start) os = some (fs', pc)) (hfault : OneFault os pc) :
    Startable cur call fs fs' pc ↔ ¬ Exposed cur fs os pc call := by
  cases call with
  | stageAndSwap newData =>
    have hmap : ∀ (s : FileSystem Path × StagePC) o, Call.step cur (.stageAndSwap newData) (s.1,
        .stage s.2) o = (stageStep cur newData s o).map fun s ↦ (s.1, .stage s.2) := fun _ _ ↦ rfl
    obtain ⟨⟨fs'', pc'⟩, hstage, heq⟩ :=
      map_eq_some_iff.1 ((exec_map hmap (fs, .create) os).symm.trans hrun)
    obtain ⟨rfl, rfl⟩ := Prod.mk.inj heq
    exact startable_stage_iff hold hstage hfault
  | restoreBackup backupPath =>
    have hmap : ∀ (s : FileSystem Path × RestorePC) o,
        Call.step cur (.restoreBackup backupPath) (s.1, .restore s.2) o =
          (restoreStep cur backupPath s o).map fun s ↦ (s.1, .restore s.2) := fun _ _ ↦ rfl
    obtain ⟨⟨fs'', pc'⟩, hrst, heq⟩ :=
      map_eq_some_iff.1 ((exec_map hmap (fs, .stat) os).symm.trans hrun)
    obtain ⟨rfl, rfl⟩ := Prod.mk.inj heq
    exact startable_restore_iff hold hrst hfault

namespace Sample

/-- The path of the binary. -/
def path : Path := ['a']

/-- A binary of one byte. -/
def installed : FileSystem Path :=
  .ofFiles fun p ↦ if p = path then some [1] else none

/-- A binary with a backup. -/
def updated : FileSystem Path :=
  .ofFiles fun p ↦ if p = path then some [2] else if p = backup path then some [1] else none

end Sample

open Sample

/-- The theorem applies to a swap whose second rename fails: the first one is undone. -/
theorem startable_iff_undone :
    ∃ fs, exec (Call.step path (.stageAndSwap [2])) (installed, .stage .create)
        [.done, .wrote 1, .done, .done, .done, .failed, .done] =
          some (fs, .stage (.returned (some .moveStaged))) ∧
      Startable path (.stageAndSwap [2]) installed fs (.stage (.returned (some .moveStaged))) := by
  have hold : installed.content path = some [1] := by decide
  obtain ⟨fs, hrun⟩ : ∃ fs, exec (Call.step path (.stageAndSwap [2]))
    (installed, .stage .create) [.done, .wrote 1, .done, .done, .done, .failed, .done] =
      some (fs, .stage (.returned (some .moveStaged))) := ⟨_, rfl⟩
  exact ⟨fs, hrun, (startable_iff path (.stageAndSwap [2]) hold hrun (by decide)).2
    (by simp [Exposed])⟩

/-- **No binary to start**: a swap killed between its two renames, and a rollback whose rename
fails. -/
theorem not_startable_killed :
    (∃ fs pc, exec (Call.step path (.stageAndSwap [2])) (installed, .stage .create)
        [.done, .wrote 1, .done, .done, .done] = some (fs, pc) ∧
      fs.content path = none) ∧
    ∃ fs, exec (Call.step path (.restoreBackup (backup path))) (updated, .restore .stat)
        [.done, .done, .failed] = some (fs, .restore (.returned (some .restore))) ∧
      fs.content path = none :=
  ⟨⟨_, _, rfl, by decide⟩, _, rfl, by decide⟩

end WartungsRemote.AgentUpdate
