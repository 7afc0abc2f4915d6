import WartungsRemote.AgentUpdate.Commitment
import WartungsRemote.AgentUpdate.Faults
import WartungsRemote.AgentUpdate.Overlap

/-!
# What a rollback restores

The backup of an update is meant to be a binary that works: the process that stages an update has
completed a handshake, and its own binary is what it moves to the backup. But `StageAndSwap` moves
**what is at the path**. On Linux `os.Executable` follows the running binary, so a second update in
the same process goes to the path of the backup. If its marker is not written, the marker of the
first update leads to the binary of the second one, which was never started
(`not_restoresProven_second`).
-/

namespace WartungsRemote.AgentUpdate

open Posix Transition List Option FileSystem

/-- Everything that was restored has completed a handshake. -/
def RestoresProven (s : State) : Prop :=
  ∀ r ∈ s.restored, r.2 ∈ s.proven
  deriving Decidable

/-- A swap begins at the path that the service manager starts, and the running binary is there. -/
def AtHome (cfg : Config) (s : State) : Label → Prop
  | .executable _ true =>
    ∀ p ∈ s.proc, p.name = cfg.exePath ∧ s.fs.content cfg.exePath = some p.binary
  | _ => True

instance (cfg : Config) (s : State) : DecidablePred (AtHome cfg s) := fun l ↦ by
  unfold AtHome
  split <;> infer_instance

/-! ### The backup -/

/-- The backup has completed a handshake. -/
def BackupProven (cfg : Config) (proven : List (List UInt8)) (fs : FileSystem Path) : Prop :=
  ∀ b, fs.content (backup cfg.exePath) = some b → b ∈ proven

section BackupProven

variable {cfg : Config} {proven : List (List UInt8)} {fs fs' : FileSystem Path}
  {binary newData : List UInt8} {pc pc' : StagePC} {o : Syscall} {faults : ℕ}

theorem BackupProven.of_content (h : BackupProven cfg proven fs)
    (heq : fs'.content (backup cfg.exePath) = fs.content (backup cfg.exePath)) :
    BackupProven cfg proven fs' :=
  fun b hb ↦ h b (heq.symm.trans hb)

theorem backupProven_of_none (hnone : fs.content (backup cfg.exePath) = none) :
    BackupProven cfg proven fs := by
  intro b hb
  rw [hnone] at hb
  cases hb

theorem backupProven_of_some (hcont : fs.content (backup cfg.exePath) = some binary)
    (hbin : binary ∈ proven) : BackupProven cfg proven fs :=
  fun _ hb ↦ some.inj (hcont.symm.trans hb) ▸ hbin

section

variable (h : BackupProven cfg proven fs)
include h

theorem BackupProven.remove (p : Path) : BackupProven cfg proven (fs.remove p) := by
  by_cases hp : backup cfg.exePath = p
  · exact backupProven_of_none (hp ▸ fs.content_remove_self p)
  · exact h.of_content (content_remove_of_ne hp)

theorem BackupProven.rename (p : Path) :
    BackupProven cfg proven (fs.rename (backup cfg.exePath) p) := by
  by_cases hp : backup cfg.exePath = p
  · exact h.of_content (hp ▸ fs.content_rename_self _ _)
  · exact backupProven_of_none (content_rename_source hp)

theorem BackupProven.restore {name : Path} {pc pc' : RestorePC}
    (hstep : RestoreStep name (backup cfg.exePath) fs pc o fs' pc') :
    BackupProven cfg proven fs' := by
  cases hstep with
  | removed => exact h.remove name
  | restored => exact h.rename name
  | found | notFound | kept | renameFailed => exact h

/-- A swap replaces the backup by the running binary. -/
theorem BackupProven.stage (hbin : binary ∈ proven) (hstag : Staging cfg.exePath newData fs pc)
    (hswap : Swapping cfg.exePath newData binary fs faults pc)
    (hstep : StageStep cfg.exePath newData fs pc o fs' pc') : BackupProven cfg proven fs' := by
  have hne := (staged_ne_backup cfg.exePath cfg.exePath).symm
  cases hstep with
  | created => exact h.of_content (content_truncate_of_ne hne)
  | wrote =>
    obtain ⟨_, hwr, -⟩ := hstag
    exact h.of_content (content_write_of_ne hwr.dir hne)
  | removedOld | discarded => exact h.remove _
  | backedUp => exact backupProven_of_some ((fs.content_rename_self _ _).trans hswap) hbin
  | movedIn => exact h.of_content (content_rename_of_ne hne (backup_ne _))
  | undone => exact h.rename _
  | closed | keptOld | createFailed | writeFailed | backUpFailed | moveInFailed | discardFailed |
    undoFailed => exact h

end

theorem backupProven_of_swapped (hbin : binary ∈ proven)
    (hswap : Swapping cfg.exePath newData binary fs faults pc)
    (hstep : StageStep cfg.exePath newData fs pc o fs' (.returned none)) :
    BackupProven cfg proven fs' := by
  cases hstep with
  | movedIn =>
    have hne := (staged_ne_backup cfg.exePath cfg.exePath).symm
    exact backupProven_of_some ((content_rename_of_ne hne (backup_ne _)).trans hswap.2) hbin

end BackupProven

/-! ### The invariant -/

section Proper

variable (cfg : Config) (proven : List (List UInt8)) (fs : FileSystem Path)

/-- A path from which a rollback may restore. -/
def Restorable (backupPath : Path) : Prop :=
  backupPath = backup cfg.exePath ∧ BackupProven cfg proven fs

/-- What holds of an update of a process that runs this binary. -/
def Update.Proper (binary : List UInt8) : Update → Prop
  | .verified _ _ => True
  | .staging _ newData cur pc => cur = cfg.exePath ∧ Staging cur newData fs pc ∧
      ∃ faults, Swapping cur newData binary fs faults pc
  | .marking _ backupPath _ => Restorable cfg proven fs backupPath

/-- What holds of a process: whatever it may restore is proven. -/
structure Process.Proper (p : Process) : Prop where
  binary : p.commit ≠ .waiting → p.binary ∈ proven
  phase : ∀ m, p.phase.marker? = some m → Restorable cfg proven fs m.backupPath
  updates : ∀ u up, p.updates u = some up → up.Proper cfg proven fs p.binary

end Proper

/-- **What the marker leads to is a backup that has worked**, or none is left. -/
structure RollbackInv (cfg : Config) (s : State) : Prop where
  restored : RestoresProven s
  marker : ∀ m stagedBy, s.marker = some ⟨some m, stagedBy⟩ →
    Restorable cfg s.proven s.fs m.backupPath
  proc : ∀ p, s.proc = some p → p.Proper cfg s.proven s.fs

variable {cfg : Config} {s t : State} {l : Label} {p : Process} {proven : List (List UInt8)}
  {fs fs' : FileSystem Path}

theorem rollbackInv_init (cfg : Config) (fs : FileSystem Path) : RollbackInv cfg (.init fs) where
  restored := by simp [RestoresProven, State.init]
  marker := by simp [State.init]
  proc := by simp [State.init]

theorem Restorable.of_kept {proven' : List (List UInt8)} {backupPath : Path}
    (h : Restorable cfg proven fs backupPath)
    (hkept : BackupProven cfg proven fs → BackupProven cfg proven' fs') :
    Restorable cfg proven' fs' backupPath :=
  ⟨h.1, hkept h.2⟩

/-- An update that is not staging depends on the backup only. -/
theorem Update.Proper.of_not_staging {up : Update} {binary : List UInt8}
    (h : up.Proper cfg proven fs binary) (hup : up.isStaging = false)
    (hkept : BackupProven cfg proven fs → BackupProven cfg proven fs') :
    up.Proper cfg proven fs' binary := by
  cases up with
  | verified => trivial
  | staging => cases hup
  | marking => exact Restorable.of_kept h hkept

theorem Process.Proper.of_idle (hbin : p.commit ≠ .waiting → p.binary ∈ proven)
    (hph : ∀ m, p.phase.marker? = some m → Restorable cfg proven fs m.backupPath)
    (hidle : ∀ u, p.updates u = none) : p.Proper cfg proven fs where
  binary := hbin
  phase := hph
  updates u up hup := by
    rw [hidle u] at hup
    cases hup

theorem Process.Proper.update (h : p.Proper cfg proven fs) (name : Path) (u : ℕ)
    {up : Option Update} (hkept : BackupProven cfg proven fs → BackupProven cfg proven fs')
    (hup : ∀ x, up = some x → x.Proper cfg proven fs' p.binary)
    (hoth : ∀ v ≠ u, ∀ x, p.updates v = some x → x.Proper cfg proven fs' p.binary) :
    { p with name, updates := Function.update p.updates u up }.Proper cfg proven fs' where
  binary := h.binary
  phase m hm := (h.phase m hm).of_kept hkept
  updates := (Function.forall_update_iff p.updates
    fun _ up ↦ ∀ x, up = some x → x.Proper cfg proven fs' p.binary).2 ⟨hup, hoth⟩

theorem Process.Proper.setUpdate (h : p.Proper cfg proven fs) (u : ℕ) {up : Option Update}
    (hup : ∀ x, up = some x → x.Proper cfg proven fs p.binary) :
    (p.setUpdate u up).Proper cfg proven fs :=
  h.update p.name u id hup fun v _ x hx ↦ h.updates v x hx

theorem RollbackInv.setProc (h : RollbackInv cfg s) (hp : p.Proper cfg s.proven s.fs) :
    RollbackInv cfg (s.setProc p) where
  restored := h.restored
  marker := h.marker
  proc _ hq := some.inj hq ▸ hp

/-- A swap begins at the running binary, so it is this one that becomes the backup. -/
theorem RollbackInv.step (h : RollbackInv cfg s) (hcomm : CommitInv s) (hseq : Sequential s)
    (hstep : Step cfg s l t) (hhome : AtHome cfg s l) : RollbackInv cfg t := by
  cases hstep with
  | start =>
    refine { h with proc := fun p hp ↦ ?_ }
    cases hp
    exact .of_idle (by simp [Process.launch]) (by simp [Process.launch, Phase.marker?]) fun _ ↦ rfl
  | die | deleteFailed => exact { h with proc := by simp }
  | reconcile hproc =>
    have hp := h.proc _ hproc
    exact h.setProc ⟨hp.binary, backupPath_of_reconcilePhase h.marker, hp.updates⟩
  | restoring hproc hph hrst =>
    have hp := h.proc _ hproc
    have hfits := hcomm.proc _ hproc
    obtain ⟨hpath, hproven⟩ := hp.phase _ (by rw [hph]; rfl)
    rw [hpath] at hrst
    have hkept := hproven.restore hrst
    refine ⟨h.restored, fun m' stagedBy hm' ↦ (h.marker m' stagedBy hm').of_kept fun _ ↦
      hkept, fun q hq ↦ ?_⟩
    cases hq
    refine .of_idle hp.binary (fun m' hm' ↦ ?_) (hfits.idle (by simp [hph]))
    cases hm'
    exact ⟨hpath, hkept⟩
  | @restored p _ hproc hph hexists =>
    have hp := h.proc _ hproc
    have hfits := hcomm.proc _ hproc
    obtain ⟨hpath, hproven⟩ := hp.phase _ (by rw [hph]; rfl)
    rw [hpath] at hexists ⊢
    have hkept := hproven.rename p.name
    refine ⟨fun r hr ↦ ?_, fun m' stagedBy hm' ↦ (h.marker m' stagedBy hm').of_kept fun _ ↦
      hkept, fun q hq ↦ ?_⟩
    · obtain hr | hr := mem_snoc.1 hr
      · exact h.restored r hr
      · -- what was restored is what the backup held
        obtain rfl := hr
        obtain ⟨b, hb⟩ := ne_none_iff_exists'.1 (content_eq_none_iff.not.2 hexists)
        show ((s.fs.rename (backup cfg.exePath) p.name).content p.name).getD [] ∈ s.proven
        rw [content_rename_self, hb]
        exact hproven b hb
    · cases hq
      exact .of_idle hp.binary (by simp [Phase.marker?]) (hfits.idle (by simp [hph]))
  | restoreFailed hproc =>
    have hp := h.proc _ hproc
    exact h.setProc ⟨hp.binary, by simp [Phase.marker?], hp.updates⟩
  | deleted => exact ⟨h.restored, by simp, by simp⟩
  | @saving _ _ _ pc' _ _ hproc hph hsave =>
    have hp := h.proc _ hproc
    have hbak := hp.phase _ (by rw [hph]; rfl)
    refine ⟨h.restored, backupPath_of_saveStep h.marker hbak hsave, fun q hq ↦ ?_⟩
    cases hq
    refine ⟨hp.binary, fun m' hm' ↦ ?_, hp.updates⟩
    cases pc' <;> cases hm' <;> exact hbak
  | @handshake p hproc _ hcom =>
    have hp := h.proc _ hproc
    have hkept : BackupProven cfg s.proven s.fs → BackupProven cfg (p.binary :: s.proven) s.fs :=
      fun hproven b hb ↦ mem_cons_of_mem _ (hproven b hb)
    refine ⟨fun r hr ↦ mem_cons_of_mem _ (h.restored r hr),
      fun m stagedBy hm ↦ (h.marker m stagedBy hm).of_kept hkept, fun q hq ↦ ?_⟩
    cases hq
    exact .of_idle (fun _ ↦ mem_cons_self) (fun m hm ↦ (hp.phase m hm).of_kept hkept)
      ((hcomm.proc _ hproc).updates (by simp [hcom]))
  | reconnect | rejected => exact h
  | loaded hproc hcom | nothing hproc hcom | keptBackup hproc hcom | keptMarker hproc hcom =>
    have hp := h.proc _ hproc
    exact h.setProc ⟨fun _ ↦ hp.binary (by simp [hcom]), hp.phase, hp.updates⟩
  | committed hproc hcom =>
    have hp := h.proc _ hproc
    refine ⟨h.restored, by simp, fun q hq ↦ ?_⟩
    cases hq
    exact ⟨fun _ ↦ hp.binary (by simp [hcom]), hp.phase, hp.updates⟩
  | @removed _ backupPath hproc hcom =>
    have hp := h.proc _ hproc
    refine ⟨h.restored, fun m stagedBy hm ↦ (h.marker m stagedBy hm).of_kept (·.remove backupPath),
      fun q hq ↦ ?_⟩
    cases hq
    exact .of_idle (fun _ ↦ hp.binary (by simp [hcom]))
      (fun m hm ↦ (hp.phase m hm).of_kept (·.remove backupPath))
      ((hcomm.proc _ hproc).updates (by simp [hcom]))
  | accepted hproc =>
    refine h.setProc ((h.proc _ hproc).setUpdate _ fun x hx ↦ ?_)
    cases hx
    trivial
  | located hproc =>
    obtain ⟨hname, hcont⟩ := hhome _ hproc
    refine h.setProc ((h.proc _ hproc).setUpdate _ fun x hx ↦ ?_)
    cases hx
    exact ⟨hname, trivial, 0, hname ▸ hcont⟩
  | notLocated hproc =>
    exact h.setProc ((h.proc _ hproc).setUpdate _ (by simp))
  | @stage _ _ _ _ _ _ _ _ fs hproc hupd hstage =>
    have hp := h.proc _ hproc
    have hfin := (hcomm.proc _ hproc).finished hupd
    have hbin := hp.binary (by simp [hfin])
    obtain ⟨rfl, hstag, _, hswap⟩ := hp.updates _ _ hupd
    have hkept : BackupProven cfg s.proven s.fs → BackupProven cfg s.proven fs :=
      fun hproven ↦ hproven.stage hbin hstag hswap hstage
    refine ⟨h.restored, fun m stagedBy hm ↦ (h.marker m stagedBy hm).of_kept hkept, fun q hq ↦ ?_⟩
    cases hq
    refine hp.update _ _ hkept (fun x hx ↦ ?_) fun v hv x hx ↦ ?_
    · unfold Update.afterStage at hx
      split at hx <;> cases hx
      · exact ⟨rfl, backupProven_of_swapped hbin hswap hstage⟩
      · exact ⟨rfl, hstag.step hstage, _, hswap.step hstag hstage⟩
    · exact (hp.updates v x hx).of_not_staging (hseq.others hproc hupd rfl v hv x hx) hkept
  | @mark _ _ _ backupPath _ pc' _ _ hproc hupd hsave =>
    have hp := h.proc _ hproc
    have hbak : Restorable cfg s.proven s.fs backupPath := hp.updates _ _ hupd
    refine ⟨h.restored, backupPath_of_saveStep h.marker hbak hsave, fun q hq ↦ ?_⟩
    cases hq
    refine hp.setUpdate _ fun x hx ↦ ?_
    cases pc' <;> cases hx <;> exact hbak

/-- **A rollback restores a binary that works**: if a swap begins only where the running binary is,
and during no other swap, everything that is ever restored has completed a handshake before. -/
theorem restoresProven_of_atHome (cfg : Config) (fs : FileSystem Path) (ls : List Label) {t : State}
    (hrun : exec (step cfg) (.init fs) ls = some t)
    (halone : Along (step cfg) (fun s l _ ↦ Alone s l) (.init fs) ls)
    (hhome : Along (step cfg) (fun s l _ ↦ AtHome cfg s l) (.init fs) ls) : RestoresProven t := by
  have hinv : RollbackInv cfg t ∧ CommitInv t ∧ Sequential t := by
    refine invariant_of_along (I := fun t ↦ RollbackInv cfg t ∧ CommitInv t ∧ Sequential t) ?_
      ⟨rollbackInv_init cfg fs, commitInv_init fs, sequential_init fs⟩ hrun (halone.and hhome)
    rintro s l t ⟨hs, hcomm, hseq⟩ hstep ⟨halone, hhome⟩
    have hcas := step_cases hstep
    exact ⟨hs.step hcomm hseq hcas hhome, hcomm.step hcas, hseq.step hcas halone⟩
  exact hinv.1.restored

namespace Sample

/-- Two updates in one process, which exits before it has written its second marker. -/
def second : List Label :=
  connect ++ update 0 [2, 2] ++ download 1 [3] :: swap 1 [3] ++ [.die] ++ counted

end Sample

open Sample

/-- The binary that staged the update is put back. -/
theorem restoresProven_of_atHome_fourth :
    ∃ t, exec (step Sample.config) (.init Sample.machine) (Sample.staged ++ Sample.counted) =
      some t ∧ t.restored = [(5, [1])] ∧ RestoresProven t := by
  refine exists_of_exec (fun t ↦ t.restored = [(5, [1])]) (by decide +kernel) fun t ht hrestored ↦
    ?_
  exact ⟨hrestored, restoresProven_of_atHome config machine _ ht
    (along_alone_of_only (u := 0) (by decide)) (by decide +kernel)⟩

/-- **The second update takes the place of the backup**, never seen to work when it is restored. -/
theorem not_restoresProven_second : ∃ t, exec (step config) (.init machine) second = some t ∧
    t.restored = [(5, [3])] ∧ ¬ RestoresProven t :=
  exists_of_exec _ (by decide +kernel) fun _ _ h ↦ h

end WartungsRemote.AgentUpdate
