import WartungsRemote.AgentUpdate.Process
import WartungsRemote.Transition.Run

/-!
# An update that does not come up

A start that finds the marker of an update counts itself there, and the start that finds three
others puts the backup back. But a start **counts itself late**: before that it reads its
configuration, enrolls if it has to, and loads its identity, and an error in any of these ends the
process. A binary that fails there is never rolled back (`not_rolledBack_uncounted`); one whose
starts all live until they have counted themselves is (`rolledBack_of_counted`).
-/

namespace WartungsRemote.AgentUpdate

open Posix Transition Option FileSystem Sample

/-- An update was staged and its process has ended: the marker leads to the previous binary. -/
structure StagedUpdate (cfg : Config) (s : State) (m : Marker) (prev : List UInt8) : Prop where
  marker : ∃ stagedBy, s.marker = some ⟨some m, stagedBy⟩
  bootAttempts : m.bootAttempts = 0
  backupPath_ne : m.backupPath ≠ cfg.exePath
  backup : s.fs.content m.backupPath = some prev
  proc : s.proc = none

/-- No handshake succeeds, and no system call fails. -/
def Label.Quiet : Label → Prop
  | .handshake => False
  | .reconcile readable located => readable = true ∧ located = true
  | .boot o => o ≠ .failed
  | _ => True

/-- A process that dies has counted its start, or has put the backup back. -/
def DiesCounted (s : State) (l : Label) : Prop :=
  l = .die → ∀ p, s.proc = some p → p.phase = .running ∨ p.phase = .deleting
  deriving Decidable

instance : DecidablePred Label.Quiet := by
  rintro (_ | _) <;> unfold Label.Quiet <;> infer_instance

/-! ### Before and after the rollback -/

/-- The marker that has counted `n` starts of the update. -/
def Marker.counted (m : Marker) (n : ℕ) : Marker :=
  { m with bootAttempts := n }

/-- What the `k`-th start of the update does, as long as it has not put the backup back. -/
def Phase.Counting (m : Marker) (k : ℕ) (marker : Option MarkerFile) : Phase → Prop
  | .starting =>
    ∃ n stagedBy, marker = some ⟨some (m.counted n), stagedBy⟩ ∧ k = n + 1 ∧ n ≤ maxBootAttempts
  | .saving m' _ => m' = m.counted k ∧ k ≤ maxBootAttempts
  | .running => (∃ stagedBy, marker = some ⟨some (m.counted k), stagedBy⟩) ∧ k ≤ maxBootAttempts
  | .restoring m' pc =>
    m' = m.counted maxBootAttempts ∧ (∃ stagedBy, marker = some ⟨some m', stagedBy⟩) ∧
      ∀ err, pc ≠ .returned err
  | .deleting => False

/-- The process has not completed a handshake, and so has no updates. -/
structure Process.Unconnected (p : Process) : Prop where
  commit : p.commit = .waiting
  updates : ∀ u, p.updates u = none

/-- The backup is still there, and every start has counted itself. -/
structure Pending (cfg : Config) (m : Marker) (prev : List UInt8) (starts : ℕ) (s : State) :
    Prop where
  backup : s.fs.content m.backupPath = some prev
  stopped : s.proc = none → ∃ k stagedBy, s.starts = starts + k ∧ k ≤ maxBootAttempts ∧
    s.marker = some ⟨some (m.counted k), stagedBy⟩
  started : ∀ p, s.proc = some p → p.Unconnected ∧ p.name = cfg.exePath ∧
    ∃ k, s.starts = starts + k ∧ p.phase.Counting m k s.marker

/-- The backup was put back. -/
structure RolledBack (cfg : Config) (m : Marker) (prev : List UInt8) (s : State) : Prop where
  content : s.fs.content cfg.exePath = some prev
  gone : s.fs.dir m.backupPath = none
  marker : ∀ m' stagedBy, s.marker = some ⟨some m', stagedBy⟩ → m'.backupPath = m.backupPath
  started : ∀ p, s.proc = some p → p.Unconnected ∧
    (∀ m' pc, p.phase = .restoring m' pc → m'.backupPath = m.backupPath ∧ pc = .stat) ∧
    ∀ m' pc, p.phase = .saving m' pc → m'.backupPath = m.backupPath

variable {cfg : Config} {s t : State} {l : Label} {m : Marker} {prev : List UInt8} {starts : ℕ}

theorem StagedUpdate.pending (h : StagedUpdate cfg s m prev) : Pending cfg m prev s.starts s where
  backup := h.backup
  stopped _ := by
    obtain ⟨stagedBy, hmark⟩ := h.marker
    refine ⟨0, stagedBy, rfl, Nat.zero_le _, ?_⟩
    rw [hmark, ← h.bootAttempts]
    rfl
  started p hp := by
    rw [h.proc] at hp
    cases hp

theorem unconnected_launch {pid : ℕ} {image : Inode Path} {name : Path} {binary : List UInt8} :
    (Process.launch pid image name binary).Unconnected :=
  ⟨rfl, fun _ ↦ rfl⟩

/-- A start that has counted itself too often goes for the backup; others save their number. -/
theorem reconcilePhase_counted (m : Marker) (n stagedBy : ℕ) :
    reconcilePhase (some ⟨some (m.counted n), stagedBy⟩) true true =
      if maxBootAttempts < n + 1 then .restoring (m.counted n) .stat
      else .saving (m.counted (n + 1)) .create := rfl

variable {p : Process} {m' : Marker}

theorem pending_of_proc {k : ℕ} (hproc : t.proc = some p)
    (hbak : t.fs.content m.backupPath = some prev) (hun : p.Unconnected)
    (hname : p.name = cfg.exePath) (hsts : t.starts = starts + k)
    (hcnt : p.phase.Counting m k t.marker) : Pending cfg m prev starts t where
  backup := hbak
  stopped hnone := by
    rw [hproc] at hnone
    cases hnone
  started q hq := by
    cases hproc.symm.trans hq
    exact ⟨hun, hname, k, hsts, hcnt⟩

theorem Pending.restoring (h : Pending cfg m prev starts s) (hne : m.backupPath ≠ cfg.exePath)
    {pc pc' : RestorePC} {o : Syscall} {fs : FileSystem Path} (hproc : s.proc = some p)
    (hph : p.phase = .restoring m' pc) (hrst : RestoreStep p.name m'.backupPath s.fs pc o fs pc')
    (hpc : ∀ err, pc' ≠ .returned err) :
    Pending cfg m prev starts
    { s with fs, proc := some { p with phase := .restoring m' pc' } } := by
  obtain ⟨hun, hname, k, hsts, hcnt⟩ := h.started _ hproc
  rw [hph] at hcnt
  obtain ⟨rfl, hmark, -⟩ := hcnt
  have hbak : fs.content m.backupPath = some prev := by
    cases hrst with
    | removed => rw [hname, content_remove_of_ne hne, h.backup]
    | found | kept | notFound | renameFailed => exact h.backup
    | restored => exact absurd rfl (hpc _)
  exact pending_of_proc rfl hbak { hun with } hname hsts ⟨rfl, hmark, hpc⟩

theorem Pending.restored (h : Pending cfg m prev starts s) (hne : m.backupPath ≠ cfg.exePath)
    {restored : List (ℕ × List UInt8)} (hproc : s.proc = some p)
    (hph : p.phase = .restoring m' .rename) : RolledBack cfg m prev
      { s with
        fs := s.fs.rename m'.backupPath p.name
        restored
        proc := some { p with phase := .deleting } } := by
  obtain ⟨hun, hname, k, -, hcnt⟩ := h.started p hproc
  rw [hph] at hcnt
  obtain ⟨rfl, ⟨_, hmark⟩, -⟩ := hcnt
  refine ⟨?_, ?_, fun m' stagedBy' hm' ↦ ?_, fun q hq ↦ ?_⟩
  · rw [hname]
    exact (s.fs.content_rename_self _ _).trans h.backup
  · rw [hname]
    exact content_eq_none_iff.1 (content_rename_source hne)
  · cases hmark.symm.trans hm'
    rfl
  · cases hq
    exact ⟨{ hun with }, by simp, by simp⟩

/-- Every start counts itself, until one of them puts the backup back. -/
theorem Pending.step (h : Pending cfg m prev starts s) (hne : m.backupPath ≠ cfg.exePath)
    (hstep : Step cfg s l t) (hqui : l.Quiet) (hdies : DiesCounted s l) :
    Pending cfg m prev starts t ∨ RolledBack cfg m prev t := by
  cases hstep with
  | start hproc =>
    obtain ⟨k, stagedBy, hsts, hk, hmark⟩ := h.stopped hproc
    have hnext : s.starts + 1 = starts + (k + 1) := by rw [hsts, Nat.add_assoc]
    exact .inl (pending_of_proc rfl h.backup unconnected_launch rfl hnext ⟨k, stagedBy, hmark,
      rfl, hk⟩)
  | die hproc =>
    obtain ⟨-, -, k, hsts, hcnt⟩ := h.started _ hproc
    rcases hdies rfl _ hproc with hph | hph <;> rw [hph] at hcnt
    · obtain ⟨⟨stagedBy, hmark⟩, hk⟩ := hcnt
      exact .inl ⟨h.backup, fun _ ↦ ⟨k, stagedBy, hsts, hk, hmark⟩, by simp⟩
    · exact hcnt.elim
  | reconcile hproc hph =>
    obtain ⟨rfl, rfl⟩ := hqui
    obtain ⟨hun, hname, k, hsts, hcnt⟩ := h.started _ hproc
    rw [hph] at hcnt
    obtain ⟨n, stagedBy, hmark, rfl, hn⟩ := hcnt
    refine .inl (pending_of_proc rfl h.backup { hun with } hname hsts ?_)
    simp only [State.setProc, hmark, reconcilePhase_counted]
    split_ifs with hmax
    · obtain rfl : n = maxBootAttempts := Nat.le_antisymm hn (Nat.le_of_lt_succ hmax)
      exact ⟨rfl, ⟨stagedBy, rfl⟩, by simp⟩
    · exact ⟨rfl, Nat.le_of_not_lt hmax⟩
  | restoring hproc hph hrst hpc =>
    exact .inl (h.restoring hne hproc hph hrst hpc)
  | restored hproc hph => exact .inr (h.restored hne hproc hph)
  | restoreFailed hproc hph hpc =>
    obtain ⟨-, -, k, -, hcnt⟩ := h.started _ hproc
    rw [hph] at hcnt
    obtain ⟨rfl, -, -⟩ := hcnt
    have hnone : s.fs.content m.backupPath = none :=
      content_eq_none_iff.2 (hpc.resolve_left hqui)
    rw [h.backup] at hnone
    cases hnone
  | deleted hproc hph | deleteFailed hproc hph =>
    obtain ⟨-, -, k, -, hcnt⟩ := h.started _ hproc
    rw [hph] at hcnt
    exact hcnt.elim
  | @saving _ _ pc _ o _ hproc hph hsave =>
    obtain ⟨hun, hname, k, hsts, hcnt⟩ := h.started _ hproc
    rw [hph] at hcnt
    obtain ⟨rfl, hk⟩ := hcnt
    refine .inl (pending_of_proc rfl h.backup { hun with } hname hsts ?_)
    cases pc <;> cases o <;> cases hsave
    · exact ⟨rfl, hk⟩
    · exact absurd rfl hqui
    · exact ⟨⟨_, rfl⟩, hk⟩
    · exact absurd rfl hqui
  | handshake | reconnect => exact hqui.elim
  | rejected => exact .inl h
  | loaded hproc hcom | nothing hproc hcom | removed hproc hcom | keptBackup hproc hcom
  | committed hproc hcom | keptMarker hproc hcom | accepted hproc hcom =>
    rw [(h.started _ hproc).1.commit] at hcom
    cases hcom
  | located hproc hupd | notLocated hproc hupd | stage hproc hupd | mark hproc hupd =>
    rw [(h.started _ hproc).1.updates] at hupd
    cases hupd

/-- The previous binary stays where it was put back. -/
theorem RolledBack.step (h : RolledBack cfg m prev s) (hstep : Step cfg s l t) (hqui : l.Quiet) :
    RolledBack cfg m prev t := by
  cases hstep with
  | start =>
    refine { h with started := fun p hp ↦ ?_ }
    cases hp
    exact ⟨unconnected_launch, by simp [Process.launch], by simp [Process.launch]⟩
  | die | deleteFailed => exact { h with started := by simp }
  | @reconcile _ readable located hproc =>
    obtain ⟨hun, -, -⟩ := h.started _ hproc
    refine { h with started := fun q hq ↦ ?_ }
    cases hq
    refine ⟨{ hun with }, ?_⟩
    obtain heq | ⟨m', stagedBy, hmark, heq | heq⟩ := reconcilePhase_cases s.marker readable located
    · simp [heq]
    · simpa [heq] using h.marker m' stagedBy hmark
    · simpa [heq] using h.marker m' stagedBy hmark
  | restoring hproc hph hrst hpc =>
    obtain ⟨-, hrestoring, -⟩ := h.started _ hproc
    obtain ⟨hbak, rfl⟩ := hrestoring _ _ hph
    cases hrst with
    | found hfnd => exact absurd (hbak ▸ h.gone) hfnd
    | notFound => exact absurd rfl (hpc _)
  | restored hproc hph =>
    obtain ⟨-, hrestoring, -⟩ := h.started _ hproc
    cases (hrestoring _ _ hph).2
  | restoreFailed hproc =>
    obtain ⟨hun, -, -⟩ := h.started _ hproc
    refine { h with started := fun q hq ↦ ?_ }
    cases hq
    exact ⟨{ hun with }, by simp, by simp⟩
  | deleted => exact ⟨h.content, h.gone, by simp, by simp⟩
  | @saving _ _ _ pc' _ _ hproc hph hsave =>
    obtain ⟨hun, -, hsaving⟩ := h.started _ hproc
    have hbak := hsaving _ _ hph
    refine ⟨h.content, h.gone, fun m'' stagedBy hm'' ↦ ?_, fun q hq ↦ ?_⟩
    · rcases saveStep_cases hsave with heq | heq | heq
      · exact h.marker m'' stagedBy (heq ▸ hm'')
      · cases heq.symm.trans hm''
      · cases heq.symm.trans hm''
        exact hbak
    · cases hq
      refine ⟨{ hun with }, ?_⟩
      cases pc' <;> simp [Phase.afterSave, hbak]
  | handshake | reconnect => exact hqui.elim
  | rejected => exact h
  | loaded hproc hcom | nothing hproc hcom | removed hproc hcom | keptBackup hproc hcom
  | committed hproc hcom | keptMarker hproc hcom | accepted hproc hcom =>
    rw [(h.started _ hproc).1.commit] at hcom
    cases hcom
  | located hproc hupd | notLocated hproc hupd | stage hproc hupd | mark hproc hupd =>
    rw [(h.started _ hproc).1.updates] at hupd
    cases hupd

/-- **An update that does not come up is rolled back** if every start lives until it has counted
itself or put the backup back: after more than `MaxBootAttempts` starts without a handshake, the
previous binary is back. -/
theorem rolledBack_of_counted (cfg : Config) {s t : State} {m : Marker} {prev : List UInt8}
    (hstaged : StagedUpdate cfg s m prev) (ls : List Label) (hrun : exec (step cfg) s ls = some t)
    (hqui : ∀ l ∈ ls, l.Quiet) (hdies : Along (step cfg) (fun s l _ ↦ DiesCounted s l) s ls)
    (hstop : t.proc = none) (hsts : s.starts + maxBootAttempts < t.starts) :
    t.fs.content cfg.exePath = some prev := by
  have hgrd : Along (step cfg) (fun s l _ ↦ l.Quiet ∧ DiesCounted s l) s ls :=
    (along_of_forall_mem fun l hl _ _ ↦ hqui l hl).and hdies
  have hinv : Pending cfg m prev s.starts t ∨ RolledBack cfg m prev t := by
    refine invariant_of_along (I := fun t ↦ Pending cfg m prev s.starts t ∨ RolledBack cfg m prev t)
      ?_ (.inl hstaged.pending) hrun hgrd
    rintro s' l t' (hpend | hback) hstep ⟨hq, hd⟩
    · exact hpend.step hstaged.backupPath_ne (step_cases hstep) hq hd
    · exact .inr (hback.step (step_cases hstep) hq)
  rcases hinv with hpend | hback
  · obtain ⟨k, -, hk, hle, -⟩ := hpend.stopped hstop
    omega
  · exact hback.content

namespace Sample

/-- The marker of that update. -/
def marker : Marker :=
  ⟨['2'], backup ['a'], 0⟩

/-- Four starts die early. -/
def uncounted : List Label :=
  (List.replicate 4 [.start, .die]).flatten

theorem stagedUpdate_of_staged {s : State}
    (h : exec (step config) (.init machine) staged = some s) :
    StagedUpdate config s marker [1] := by
  obtain ⟨_, hs', hchk⟩ := map_eq_some_iff.1
    (show (exec (step config) (.init machine) staged).map (fun s ↦
      decide (s.marker = some ⟨some marker, 1⟩ ∧ s.fs.content (backup ['a']) = some [1]) &&
        s.proc.isNone) = some true by decide +kernel)
  cases h.symm.trans hs'
  obtain ⟨hchk, hproc⟩ := Bool.and_eq_true_iff.1 hchk
  obtain ⟨hmark, hbak⟩ := of_decide_eq_true hchk
  exact ⟨⟨1, hmark⟩, rfl, by decide, hbak, isNone_iff_eq_none.1 hproc⟩

end Sample

/-- The start after three that died puts the backup back. -/
theorem rolledBack_of_counted_fourth :
    ∃ s t, exec (step Sample.config) (.init Sample.machine) Sample.staged = some s ∧
      exec (step config) s counted = some t ∧ t.fs.content ['a'] = some [1] := by
  obtain ⟨s, hs, hdies, hend⟩ :
      ∃ s, exec (step Sample.config) (.init Sample.machine) Sample.staged = some s ∧
        Along (step config) (fun s l _ ↦ DiesCounted s l) s counted ∧
      (exec (step config) s counted).any fun t ↦
        t.proc.isNone ∧ s.starts + maxBootAttempts < t.starts :=
    exists_of_exec _ (by decide +kernel) fun _ _ h ↦ h
  obtain ⟨t, ht, hproc, hsts⟩ := exists_of_exec _ hend fun _ _ h ↦ h
  exact ⟨s, t, hs, ht, rolledBack_of_counted config (stagedUpdate_of_staged hs)
    counted ht (by decide) hdies (isNone_iff_eq_none.1 hproc) hsts⟩

/-- A binary that fails while it loads its configuration is started too often, and stays. -/
theorem not_rolledBack_uncounted :
    ∃ s t, exec (step Sample.config) (.init Sample.machine) Sample.staged = some s ∧
      StagedUpdate config s marker [1] ∧
      exec (step config) s uncounted = some t ∧ (∀ l ∈ uncounted, l.Quiet) ∧
      t.proc = none ∧ s.starts + maxBootAttempts < t.starts ∧ t.fs.content ['a'] = some [2, 2] := by
  obtain ⟨s, hs, hend⟩ : ∃ s, exec (step Sample.config) (.init Sample.machine) Sample.staged =
      some s ∧ (exec (step config) s uncounted).any fun t ↦
        t.proc.isNone ∧ s.starts + maxBootAttempts < t.starts ∧ t.fs.content ['a'] = some [2, 2] :=
    exists_of_exec _ (by decide +kernel) fun _ _ h ↦ h
  obtain ⟨t, ht, hproc, hrest⟩ := exists_of_exec _ hend fun _ _ h ↦ h
  exact ⟨s, t, hs, stagedUpdate_of_staged hs, ht, by decide, isNone_iff_eq_none.1 hproc, hrest⟩

end WartungsRemote.AgentUpdate
