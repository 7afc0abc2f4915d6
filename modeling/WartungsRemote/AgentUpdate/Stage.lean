import WartungsRemote.Posix.FileSystem
import WartungsRemote.Text.Splitting

/-!
# Swapping the binary

`StageAndSwap` and `RestoreBackup`, one system call at a time. A call is at a place in its code
(`StagePC`, `RestorePC`), and a step executes the system call that is next there: it does what it
can, or it fails. A process that is killed stops at the place it has reached.

What a step can do is said once, by `StageStep` and `RestoreStep`. As long as nobody else touches
the staged file, it holds as much of the new binary as was written (`Staging`), and the other names
lead to what they and the two names of the swap led to before, to the new binary, or to nothing
(`content_of_stageStep`).
-/

namespace WartungsRemote.AgentUpdate

open Posix List FileSystem

/-- A path of the file system. -/
abbrev Path : Type := Text

/-- `currentPath + ".new"`. -/
def staged (p : Path) : Path :=
  p ++ ['.', 'n', 'e', 'w']

/-- `currentPath + ".old"`. -/
def backup (p : Path) : Path :=
  p ++ ['.', 'o', 'l', 'd']

theorem staged_ne (p : Path) : staged p ≠ p := by
  simp [staged]

theorem backup_ne (p : Path) : backup p ≠ p := by
  simp [backup]

theorem staged_ne_backup (p q : Path) : staged p ≠ backup q := by
  intro h
  have hlast := congrArg getLast? h
  simp [staged, backup] at hlast

/-- How a system call ends. `done` is no success: it may rename a file that does not exist. -/
inductive Syscall
  | done
  | wrote (n : ℕ)
  | failed
  deriving DecidableEq

/-! ### `StageAndSwap` -/

inductive StageError
  /-- "agentupdate: write staged binary". -/
  | writeStaged
  /-- "agentupdate: back up current binary". -/
  | backUpCurrent
  /-- "agentupdate: move staged binary into place". -/
  | moveStaged
  deriving DecidableEq

/-- The system call of `StageAndSwap` that is next. -/
inductive StagePC
  /-- `os.WriteFile` opens the staged file. -/
  | create
  /-- `os.WriteFile` writes what is left of the binary, and closes the file when nothing is. -/
  | write (f : File Path) (rest : List UInt8)
  /-- `os.Remove(backupPath)`. -/
  | removeOld
  /-- `os.Rename(currentPath, backupPath)`. -/
  | backUp
  /-- `os.Rename(staged, currentPath)`. -/
  | moveIn
  /-- `os.Remove(staged)`, after the first rename has failed. -/
  | discard
  /-- `os.Rename(backupPath, currentPath)`, after the second rename has failed. -/
  | undo
  | returned (err : Option StageError)

section StageAndSwap

variable (cur : Path) (newData : List UInt8)

/-- One system call of `StageAndSwap`. -/
def stageStep : FileSystem Path × StagePC → Syscall → Option (FileSystem Path × StagePC)
  | (fs, .create), .done => some (fs.truncate (staged cur), .write (fs.opened (staged cur)) newData)
  | (fs, .create), .failed => some (fs, .returned (some .writeStaged))
  | (fs, .write f rest), .wrote n =>
    if 0 < n ∧ n ≤ rest.length then
      some (fs.write f (rest.take n), .write (f.advance n) (rest.drop n))
    else none
  | (fs, .write _ []), .done => some (fs, .removeOld)
  | (fs, .write _ _), .failed => some (fs, .returned (some .writeStaged))
  | (fs, .removeOld), .done => some (fs.remove (backup cur), .backUp)
  | (fs, .removeOld), .failed => some (fs, .backUp)
  | (fs, .backUp), .done =>
    if fs.dir cur = none then some (fs, .discard) else some (fs.rename cur (backup cur), .moveIn)
  | (fs, .backUp), .failed => some (fs, .discard)
  | (fs, .moveIn), .done =>
    if fs.dir (staged cur) = none then some (fs, .undo)
    else some (fs.rename (staged cur) cur, .returned none)
  | (fs, .moveIn), .failed => some (fs, .undo)
  | (fs, .discard), .done => some (fs.remove (staged cur), .returned (some .backUpCurrent))
  | (fs, .discard), .failed => some (fs, .returned (some .backUpCurrent))
  | (fs, .undo), .done =>
    if fs.dir (backup cur) = none then some (fs, .returned (some .moveStaged))
    else some (fs.rename (backup cur) cur, .returned (some .moveStaged))
  | (fs, .undo), .failed => some (fs, .returned (some .moveStaged))
  | _, _ => none

/-- What a system call of `StageAndSwap` can do. -/
inductive StageStep (fs : FileSystem Path) : StagePC → Syscall → FileSystem Path → StagePC → Prop
  | created : StageStep fs .create .done (fs.truncate (staged cur))
      (.write (fs.opened (staged cur)) newData)
  | createFailed : StageStep fs .create .failed fs (.returned (some .writeStaged))
  | wrote {f rest n} (hn : 0 < n ∧ n ≤ rest.length) :
      StageStep fs (.write f rest) (.wrote n) (fs.write f (rest.take n))
      (.write (f.advance n) (rest.drop n))
  | closed {f} : StageStep fs (.write f []) .done fs .removeOld
  | writeFailed {f rest} : StageStep fs (.write f rest) .failed fs (.returned (some .writeStaged))
  | removedOld : StageStep fs .removeOld .done (fs.remove (backup cur)) .backUp
  | keptOld : StageStep fs .removeOld .failed fs .backUp
  | backedUp (hcur : fs.dir cur ≠ none) :
      StageStep fs .backUp .done (fs.rename cur (backup cur)) .moveIn
  | backUpFailed {o} (ho : o = .failed ∨ fs.dir cur = none) : StageStep fs .backUp o fs .discard
  | movedIn (hstaged : fs.dir (staged cur) ≠ none) :
      StageStep fs .moveIn .done (fs.rename (staged cur) cur) (.returned none)
  | moveInFailed {o} (ho : o = .failed ∨ fs.dir (staged cur) = none) :
      StageStep fs .moveIn o fs .undo
  | discarded : StageStep fs .discard .done (fs.remove (staged cur))
      (.returned (some .backUpCurrent))
  | discardFailed : StageStep fs .discard .failed fs (.returned (some .backUpCurrent))
  | undone (hbak : fs.dir (backup cur) ≠ none) :
      StageStep fs .undo .done (fs.rename (backup cur) cur) (.returned (some .moveStaged))
  | undoFailed {o} (ho : o = .failed ∨ fs.dir (backup cur) = none) :
      StageStep fs .undo o fs (.returned (some .moveStaged))

variable {cur newData} {fs fs' : FileSystem Path} {pc pc' : StagePC} {o : Syscall}

theorem stageStep_cases (h : stageStep cur newData (fs, pc) o = some (fs', pc')) :
    StageStep cur newData fs pc o fs' pc' := by
  cases pc with
  | create =>
    cases o <;> cases h
    · exact .created
    · exact .createFailed
  | write f rest =>
    cases o with
    | done =>
      cases rest <;> cases h
      exact .closed
    | wrote n =>
      simp only [stageStep] at h
      split_ifs at h with hn
      cases h
      exact .wrote hn
    | failed =>
      cases rest <;> cases h <;> exact .writeFailed
  | removeOld =>
    cases o <;> cases h
    · exact .removedOld
    · exact .keptOld
  | backUp =>
    cases o with
    | done =>
      simp only [stageStep] at h
      split_ifs at h with hcur <;> cases h
      · exact .backUpFailed (.inr hcur)
      · exact .backedUp hcur
    | wrote => cases h
    | failed =>
      cases h
      exact .backUpFailed (.inl rfl)
  | moveIn =>
    cases o with
    | done =>
      simp only [stageStep] at h
      split_ifs at h with hstaged <;> cases h
      · exact .moveInFailed (.inr hstaged)
      · exact .movedIn hstaged
    | wrote => cases h
    | failed =>
      cases h
      exact .moveInFailed (.inl rfl)
  | discard =>
    cases o <;> cases h
    · exact .discarded
    · exact .discardFailed
  | undo =>
    cases o with
    | done =>
      simp only [stageStep] at h
      split_ifs at h with hbak <;> cases h
      · exact .undoFailed (.inr hbak)
      · exact .undone hbak
    | wrote => cases h
    | failed =>
      cases h
      exact .undoFailed (.inl rfl)
  | returned => cases o <;> cases h

/-! ### The staged file -/

/-- What the staged file holds at a place of `StageAndSwap`, if nobody else touches it: what was
written of the new binary. -/
def Staging (cur : Path) (newData : List UInt8) (fs : FileSystem Path) : StagePC → Prop
  | .write f rest => ∃ written, fs.Wrote (staged cur) f written ∧ written ++ rest = newData
  | .removeOld | .backUp | .moveIn => fs.content (staged cur) = some newData
  | .create | .discard | .undo | .returned _ => True

/-- Each system call keeps the staged file a beginning of the new binary. -/
theorem Staging.step (h : Staging cur newData fs pc)
    (hstep : StageStep cur newData fs pc o fs' pc') :
    Staging cur newData fs' pc' := by
  cases hstep with
  | created => exact ⟨[], fs.wrote_openTrunc _, rfl⟩
  | @wrote f rest n hn =>
    obtain ⟨written, hwr, hdata⟩ := h
    have hwrite : (fs.write f (rest.take n)).Wrote (staged cur) (f.advance (rest.take n).length)
      (written ++ rest.take n) := hwr.write
    rw [length_take, Nat.min_eq_left hn.2] at hwrite
    exact ⟨_, hwrite, by rw [append_assoc, take_append_drop, hdata]⟩
  | closed =>
    obtain ⟨written, hwr, rfl⟩ := h
    show fs.content (staged cur) = some (written ++ [])
    rw [append_nil, hwr.content]
  | removedOld => exact (content_remove_of_ne (staged_ne_backup _ _)).trans h
  | keptOld => exact h
  | backedUp => exact (content_rename_of_ne (staged_ne _) (staged_ne_backup _ _)).trans h
  | createFailed | writeFailed | backUpFailed | movedIn | moveInFailed | discarded | discardFailed |
    undone | undoFailed => trivial

/-- Where a name other than the staged file's leads after a system call: to nothing, to the new
binary, or where it or one of the two names of the swap led before. -/
theorem content_of_stageStep (h : Staging cur newData fs pc)
    (hstep : StageStep cur newData fs pc o fs' pc') {p : Path} (hp : p ≠ staged cur) :
    fs'.content p = none ∨ fs'.content p = some newData ∨
      ∃ q ∈ [p, cur, backup cur], fs'.content p = fs.content q := by
  have hrefl : ∃ q ∈ [p, cur, backup cur], fs.content p = fs.content q := ⟨p, by simp, rfl⟩
  have hrename : ∀ q ∈ [cur, backup cur], ∀ q', q' ∈ [cur, backup cur] → q ≠ q' →
      (fs.rename q q').content p = none ∨ (fs.rename q q').content p = some newData ∨
        ∃ r ∈ [p, cur, backup cur], (fs.rename q q').content p = fs.content r := by
    intro q hq q' _ hne
    by_cases hpq' : p = q'
    · subst hpq'
      exact .inr (.inr ⟨q, mem_cons_of_mem p hq, fs.content_rename_self q p⟩)
    by_cases hpq : p = q
    · subst hpq
      exact .inl (content_rename_source hne)
    · exact .inr (.inr ⟨p, by simp, content_rename_of_ne hpq hpq'⟩)
  cases hstep with
  | created => exact .inr (.inr ⟨p, by simp, content_truncate_of_ne hp⟩)
  | wrote =>
    obtain ⟨_, hwr, -⟩ := h
    exact .inr (.inr ⟨p, by simp, content_write_of_ne hwr.dir hp⟩)
  | removedOld =>
    by_cases hpb : p = backup cur
    · exact .inl (hpb ▸ fs.content_remove_self p)
    · exact .inr (.inr ⟨p, by simp, content_remove_of_ne hpb⟩)
  | backedUp => exact hrename cur (by simp) (backup cur) (by simp) (backup_ne cur).symm
  | movedIn =>
    by_cases hpc : p = cur
    · subst hpc
      exact .inr (.inl ((fs.content_rename_self _ p).trans h))
    · exact .inr (.inr ⟨p, by simp, content_rename_of_ne hp hpc⟩)
  | undone => exact hrename (backup cur) (by simp) cur (by simp) (backup_ne cur)
  | discarded => exact .inr (.inr ⟨p, by simp, content_remove_of_ne hp⟩)
  | closed | keptOld | createFailed | writeFailed | backUpFailed | moveInFailed | discardFailed |
    undoFailed => exact .inr (.inr hrefl)

end StageAndSwap

/-! ### `RestoreBackup` -/

inductive RestoreError
  /-- "agentupdate: backup not found". -/
  | backupNotFound
  /-- "agentupdate: restore backup". -/
  | restore
  deriving DecidableEq

/-- The system call of `RestoreBackup` that is next. -/
inductive RestorePC
  /-- `os.Stat(backupPath)`. -/
  | stat
  /-- `os.Remove(currentPath)`. -/
  | remove
  /-- `os.Rename(backupPath, currentPath)`. -/
  | rename
  | returned (err : Option RestoreError)
  deriving DecidableEq

section RestoreBackup

variable (cur backupPath : Path)

/-- One system call of `RestoreBackup`. -/
def restoreStep : FileSystem Path × RestorePC → Syscall → Option (FileSystem Path × RestorePC)
  | (fs, .stat), .done =>
    if fs.dir backupPath = none then some (fs, .returned (some .backupNotFound))
    else some (fs, .remove)
  | (fs, .stat), .failed => some (fs, .returned (some .backupNotFound))
  | (fs, .remove), .done => some (fs.remove cur, .rename)
  | (fs, .remove), .failed => some (fs, .rename)
  | (fs, .rename), .done =>
    if fs.dir backupPath = none then some (fs, .returned (some .restore))
    else some (fs.rename backupPath cur, .returned none)
  | (fs, .rename), .failed => some (fs, .returned (some .restore))
  | _, _ => none

/-- What a system call of `RestoreBackup` can do. -/
inductive RestoreStep (fs : FileSystem Path) : RestorePC → Syscall → FileSystem Path →
    RestorePC → Prop
  | found (hbak : fs.dir backupPath ≠ none) : RestoreStep fs .stat .done fs .remove
  | notFound {o} (ho : o = .failed ∨ fs.dir backupPath = none) :
      RestoreStep fs .stat o fs (.returned (some .backupNotFound))
  | removed : RestoreStep fs .remove .done (fs.remove cur) .rename
  | kept : RestoreStep fs .remove .failed fs .rename
  | restored (hbak : fs.dir backupPath ≠ none) :
      RestoreStep fs .rename .done (fs.rename backupPath cur) (.returned none)
  | renameFailed {o} (ho : o = .failed ∨ fs.dir backupPath = none) :
      RestoreStep fs .rename o fs (.returned (some .restore))

variable {cur backupPath} {fs fs' : FileSystem Path} {pc pc' : RestorePC} {o : Syscall}

theorem restoreStep_cases (h : restoreStep cur backupPath (fs, pc) o = some (fs', pc')) :
    RestoreStep cur backupPath fs pc o fs' pc' := by
  cases pc with
  | stat =>
    cases o with
    | done =>
      simp only [restoreStep] at h
      split_ifs at h with hbak <;> cases h
      · exact .notFound (.inr hbak)
      · exact .found hbak
    | wrote => cases h
    | failed =>
      cases h
      exact .notFound (.inl rfl)
  | remove =>
    cases o <;> cases h
    · exact .removed
    · exact .kept
  | rename =>
    cases o with
    | done =>
      simp only [restoreStep] at h
      split_ifs at h with hbak <;> cases h
      · exact .renameFailed (.inr hbak)
      · exact .restored hbak
    | wrote => cases h
    | failed =>
      cases h
      exact .renameFailed (.inl rfl)
  | returned => cases o <;> cases h

end RestoreBackup

end WartungsRemote.AgentUpdate
