import WartungsRemote.AgentUpdate.Commitment
import WartungsRemote.AgentUpdate.Overlap

/-!
# Only signed binaries

What a server puts in the place of the binary has a signature: the artifact is verified in memory,
and what was verified is what is written. But all updates of a process write to **the same staged
file**. If a second swap begins while the first one is under way, it truncates that file, and the
first one moves it into place as it is (`not_trusted_overlap`).

On Linux an update can go to the path of the backup, so the invariant is about **all** the paths
that end in any number of `.old`.
-/

namespace WartungsRemote.AgentUpdate

open Posix Transition Function List Option FileSystem

/-- The original binary, or one whose hash is signed. -/
def Trusted (cfg : Config) (original b : List UInt8) : Prop :=
  b = original ∨ cfg.Signed b

/-! ### The binary and its backups -/

/-- A path with any number of `.old` after that of the binary. -/
def OnChain (cfg : Config) (p : Path) : Prop :=
  ∃ k, p = backup^[k] cfg.exePath

section OnChain

variable {cfg : Config} {p q : Path}

theorem onChain_exePath (cfg : Config) : OnChain cfg cfg.exePath :=
  ⟨0, rfl⟩

theorem OnChain.backup (h : OnChain cfg p) : OnChain cfg (backup p) := by
  obtain ⟨k, rfl⟩ := h
  exact ⟨k + 1, (iterate_succ_apply' _ _ _).symm⟩

theorem OnChain.length_le (h : OnChain cfg p) : cfg.exePath.length ≤ p.length := by
  obtain ⟨k, rfl⟩ := h
  induction k with
  | zero => exact le_rfl
  | succ _ ih =>
    rw [iterate_succ_apply', AgentUpdate.backup, length_append]
    exact Nat.le_add_right_of_le ih

theorem OnChain.ne_staged (hp : OnChain cfg p) (hq : OnChain cfg q) : p ≠ staged q := by
  rintro rfl
  obtain ⟨_ | k, hk⟩ := hp
  · have hlen : (staged q).length = cfg.exePath.length := congrArg length hk
    rw [staged, length_append] at hlen
    have hle := hq.length_le
    simp only [length_cons, length_nil] at hlen
    omega
  · rw [iterate_succ_apply'] at hk
    exact staged_ne_backup _ _ hk

end OnChain

/-- The binary and its backups are trusted. -/
def TrustedDisk (cfg : Config) (original : List UInt8) (fs : FileSystem Path) : Prop :=
  ∀ p, OnChain cfg p → ∀ b, fs.content p = some b → Trusted cfg original b

section TrustedDisk

variable {cfg : Config} {original : List UInt8} {fs fs' : FileSystem Path} {p q : Path}

section

variable (h : TrustedDisk cfg original fs)
include h

theorem TrustedDisk.remove (q : Path) : TrustedDisk cfg original (fs.remove q) := by
  intro p hp b hb
  by_cases hpq : p = q
  · rw [hpq, content_remove_self] at hb
    cases hb
  · exact h p hp b ((content_remove_of_ne hpq).symm.trans hb)

theorem TrustedDisk.rename (hq : OnChain cfg q) (r : Path) :
    TrustedDisk cfg original (fs.rename q r) := by
  intro p hp b hb
  by_cases hpr : p = r
  · subst hpr
    exact h q hq b ((fs.content_rename_self q p).symm.trans hb)
  by_cases hpq : p = q
  · subst hpq
    rw [content_rename_source hpr] at hb
    cases hb
  · exact h p hp b ((content_rename_of_ne hpq hpr).symm.trans hb)

theorem TrustedDisk.restore {name backupPath : Path} {pc pc' : RestorePC} {o : Syscall}
    (hbak : OnChain cfg backupPath) (hstep : RestoreStep name backupPath fs pc o fs' pc') :
    TrustedDisk cfg original fs' := by
  cases hstep with
  | removed => exact h.remove name
  | restored => exact h.rename hbak name
  | found | notFound | kept | renameFailed => exact h

theorem TrustedDisk.stage {cur : Path} {newData : List UInt8} {pc pc' : StagePC} {o : Syscall}
    (hsigned : cfg.Signed newData) (hcur : OnChain cfg cur) (hstag : Staging cur newData fs pc)
    (hstep : StageStep cur newData fs pc o fs' pc') : TrustedDisk cfg original fs' := by
  intro p hp b hb
  rcases content_of_stageStep hstag hstep (hp.ne_staged hcur) with heq | heq | ⟨q, hq, heq⟩ <;>
    rw [heq] at hb
  · cases hb
  · exact .inr (some.inj hb ▸ hsigned)
  · have hchain : OnChain cfg q := by
      simp only [mem_cons, not_mem_nil, or_false] at hq
      rcases hq with rfl | rfl | rfl
      exacts [hp, hcur, hcur.backup]
    exact h q hchain b hb

end

end TrustedDisk

/-! ### The invariant -/

/-- What holds of an update: its binary is signed, and it is alone with its staged file. -/
def Update.Genuine (cfg : Config) (fs : FileSystem Path) : Update → Prop
  | .verified _ newData => cfg.Signed newData
  | .staging _ newData cur pc => cfg.Signed newData ∧ OnChain cfg cur ∧ Staging cur newData fs pc
  | .marking _ backupPath _ => OnChain cfg backupPath

/-- What holds of a process: its paths lead along the backups, its updates are verified. -/
structure Process.Genuine (cfg : Config) (fs : FileSystem Path) (p : Process) : Prop where
  name : OnChain cfg p.name
  phase : ∀ m, p.phase.marker? = some m → OnChain cfg m.backupPath
  updates : ∀ u up, p.updates u = some up → up.Genuine cfg fs

/-- The files that are ever started are the original or signed, and nothing leads elsewhere. -/
structure TrustedInv (cfg : Config) (original : List UInt8) (s : State) : Prop where
  disk : TrustedDisk cfg original s.fs
  marker : ∀ m stagedBy, s.marker = some ⟨some m, stagedBy⟩ → OnChain cfg m.backupPath
  proc : ∀ p, s.proc = some p → p.Genuine cfg s.fs

variable {cfg : Config} {original : List UInt8} {s t : State} {l : Label} {p : Process}
  {fs fs' : FileSystem Path}

theorem trustedInv_init (hbin : fs.content cfg.exePath = some original)
    (hold : ∀ k, fs.content (backup^[k + 1] cfg.exePath) = none) :
    TrustedInv cfg original (.init fs) where
  disk p hp b hb := by
    obtain ⟨_ | k, rfl⟩ := hp
    · exact .inl (some.inj (hb.symm.trans hbin))
    · exact absurd ((hold k).symm.trans hb) (by simp)
  marker := by simp [State.init]
  proc := by simp [State.init]

/-- Only an update that is staging depends on the disk. -/
theorem Update.Genuine.of_not_staging {up : Update} (h : up.Genuine cfg fs)
    (hup : up.isStaging = false) : up.Genuine cfg fs' := by
  cases up with
  | staging => cases hup
  | verified | marking => exact h

theorem Process.Genuine.of_idle (hname : OnChain cfg p.name)
    (hph : ∀ m, p.phase.marker? = some m → OnChain cfg m.backupPath)
    (hidle : ∀ u, p.updates u = none) : p.Genuine cfg fs where
  name := hname
  phase := hph
  updates u up hup := by
    rw [hidle u] at hup
    cases hup

theorem Process.Genuine.update (h : p.Genuine cfg fs) {name : Path} (hname : OnChain cfg name)
    (u : ℕ) {up : Option Update} (hup : ∀ x, up = some x → x.Genuine cfg fs')
    (hoth : ∀ v ≠ u, ∀ x, p.updates v = some x → x.Genuine cfg fs') :
    { p with name, updates := update p.updates u up }.Genuine cfg fs' where
  name := hname
  phase := h.phase
  updates := (forall_update_iff p.updates fun _ up ↦ ∀ x, up = some x → x.Genuine cfg fs').2
    ⟨hup, hoth⟩

theorem Process.Genuine.setUpdate (h : p.Genuine cfg fs) (u : ℕ) {up : Option Update}
    (hup : ∀ x, up = some x → x.Genuine cfg fs) : (p.setUpdate u up).Genuine cfg fs :=
  h.update h.name u hup fun v _ x hx ↦ h.updates v x hx

theorem TrustedInv.setProc (h : TrustedInv cfg original s) (hp : p.Genuine cfg s.fs) :
    TrustedInv cfg original (s.setProc p) where
  disk := h.disk
  marker := h.marker
  proc _ hq := some.inj hq ▸ hp

/-- What is moved in was staged whole, and was verified before. -/
theorem TrustedInv.step (h : TrustedInv cfg original s) (hcomm : CommitInv s) (hseq : Sequential s)
    (hstep : Step cfg s l t) : TrustedInv cfg original t := by
  cases hstep with
  | start =>
    refine ⟨h.disk, h.marker, fun p hp ↦ ?_⟩
    cases hp
    exact .of_idle (onChain_exePath cfg) (by simp [Process.launch, Phase.marker?]) fun _ ↦ rfl
  | die | deleteFailed => exact ⟨h.disk, h.marker, by simp⟩
  | reconcile hproc =>
    have hp := h.proc _ hproc
    exact h.setProc ⟨hp.name, backupPath_of_reconcilePhase h.marker, hp.updates⟩
  | restoring hproc hph hrst =>
    have hp := h.proc _ hproc
    have hfits := hcomm.proc _ hproc
    have hbak := hp.phase _ (by rw [hph]; rfl)
    refine ⟨h.disk.restore hbak hrst, h.marker, fun q hq ↦ ?_⟩
    cases hq
    refine .of_idle hp.name (fun m' hm' ↦ ?_) (hfits.idle (by simp [hph]))
    cases hm'
    exact hbak
  | @restored p _ hproc hph =>
    have hp := h.proc _ hproc
    have hfits := hcomm.proc _ hproc
    have hbak := hp.phase _ (by rw [hph]; rfl)
    refine ⟨h.disk.rename hbak p.name, h.marker, fun q hq ↦ ?_⟩
    cases hq
    exact .of_idle hp.name (by simp [Phase.marker?]) (hfits.idle (by simp [hph]))
  | restoreFailed hproc =>
    have hp := h.proc _ hproc
    exact h.setProc ⟨hp.name, by simp [Phase.marker?], hp.updates⟩
  | deleted => exact ⟨h.disk, by simp, by simp⟩
  | @saving _ _ _ pc' _ _ hproc hph hsave =>
    have hp := h.proc _ hproc
    have hbak := hp.phase _ (by rw [hph]; rfl)
    refine ⟨h.disk, backupPath_of_saveStep h.marker hbak hsave, fun q hq ↦ ?_⟩
    cases hq
    refine ⟨hp.name, fun m' hm' ↦ ?_, hp.updates⟩
    cases pc' <;> cases hm' <;> exact hbak
  | handshake hproc =>
    have hp := h.proc _ hproc
    refine ⟨h.disk, h.marker, fun q hq ↦ ?_⟩
    cases hq
    exact { hp with }
  | reconnect | rejected => exact h
  | loaded hproc | nothing hproc | keptBackup hproc | keptMarker hproc =>
    have hp := h.proc _ hproc
    exact h.setProc { hp with }
  | committed hproc =>
    have hp := h.proc _ hproc
    refine ⟨h.disk, by simp, fun q hq ↦ ?_⟩
    cases hq
    exact { hp with }
  | @removed _ backupPath hproc hcom =>
    have hp := h.proc _ hproc
    refine ⟨h.disk.remove backupPath, h.marker, fun q hq ↦ ?_⟩
    cases hq
    exact .of_idle hp.name hp.phase ((hcomm.proc _ hproc).updates (by simp [hcom]))
  | accepted hproc _ _ hfetch =>
    have hp := h.proc _ hproc
    refine h.setProc (hp.setUpdate _ fun x hx ↦ ?_)
    cases hx
    exact signed_of_fetchArtifact hfetch
  | located hproc hupd =>
    have hp := h.proc _ hproc
    refine h.setProc (hp.setUpdate _ fun x hx ↦ ?_)
    cases hx
    exact ⟨hp.updates _ _ hupd, hp.name, trivial⟩
  | notLocated hproc =>
    exact h.setProc ((h.proc _ hproc).setUpdate _ (by simp))
  | @stage p _ _ _ cur _ _ _ fs hproc hupd hstage =>
    have hp := h.proc _ hproc
    obtain ⟨hsigned, hcur, hstag⟩ := hp.updates _ _ hupd
    -- the others are not staging, so they do not depend on the disk
    have hoth := hseq.others hproc hupd rfl
    refine ⟨h.disk.stage hsigned hcur hstag hstage, h.marker, fun q hq ↦ ?_⟩
    cases hq
    refine hp.update ?_ _ (fun x hx ↦ ?_) fun v hv x hx ↦ ?_
    · have hmem := p.follow_mem cfg fs [p.name, cur, backup cur]
      simp only [mem_cons, not_mem_nil, or_false] at hmem
      rcases hmem with heq | heq | heq | heq <;> rw [heq]
      exacts [hp.name, hp.name, hcur, hcur.backup]
    · have hnext := hstag.step hstage
      unfold Update.afterStage at hx
      split at hx <;> cases hx
      · exact hcur.backup
      · exact ⟨hsigned, hcur, hnext⟩
    · exact (hp.updates v x hx).of_not_staging (hoth v hv x hx)
  | @mark _ _ _ backupPath _ pc' _ _ hproc hupd hsave =>
    have hp := h.proc _ hproc
    have hbak : OnChain cfg backupPath := hp.updates _ _ hupd
    refine ⟨h.disk, backupPath_of_saveStep h.marker hbak hsave, fun q hq ↦ ?_⟩
    cases hq
    refine hp.setUpdate _ fun x hx ↦ ?_
    cases pc' <;> cases hx <;> exact hbak

/-- **Only signed binaries**: if no swap begins during another one, the binary and its backup are
the original or a signed one, in every state reached from the original binary without backups. -/
theorem trusted_of_alone (cfg : Config) {fs : FileSystem Path} {original : List UInt8}
    (hbin : fs.content cfg.exePath = some original)
    (hold : ∀ k, fs.content (backup^[k + 1] cfg.exePath) = none) (ls : List Label) {t : State}
    (hrun : exec (step cfg) (.init fs) ls = some t)
    (halone : Along (step cfg) (fun s l _ ↦ Alone s l) (.init fs) ls) :
    ∀ p ∈ [cfg.exePath, backup cfg.exePath], ∀ b, t.fs.content p = some b →
      Trusted cfg original b := by
  have hinv : TrustedInv cfg original t ∧ CommitInv t ∧ Sequential t := by
    refine invariant_of_along (I := fun t ↦ TrustedInv cfg original t ∧ CommitInv t ∧
      Sequential t) ?_ ⟨trustedInv_init hbin hold, commitInv_init fs, sequential_init fs⟩ hrun
        halone
    rintro s l t ⟨hs, hcomm, hseq⟩ hstep halone
    have hcas := step_cases hstep
    exact ⟨hs.step hcomm hseq hcas, hcomm.step hcas, hseq.step hcas halone⟩
  intro p hp b hb
  simp only [mem_cons, not_mem_nil, or_false] at hp
  rcases hp with rfl | rfl
  · exact hinv.1.disk _ (onChain_exePath cfg) b hb
  · exact hinv.1.disk _ (onChain_exePath cfg).backup b hb

namespace Sample

/-- Two updates in one process. The second truncates the staged file that the first is about to move
in. -/
def overlap : List Label :=
  connect ++ [download 0 [2, 2], download 1 [3, 3], .executable 0 true, .executable 1 true,
    .stage 0 .done, .stage 0 (.wrote 2), .stage 0 .done, .stage 0 .done, .stage 0 .done,
    .stage 1 .done, .stage 0 .done]

/-- A process updates the binary, and the next one updates it again. -/
def twice : List Label :=
  connect ++ update 0 [2, 2] ++ [.die, .start, .reconcile true true, .boot .done, .boot .done,
    .handshake, .commit .done, .commit .done, .commit .done] ++ update 0 [3]

theorem machine_content_backup (k : ℕ) :
    machine.content (backup^[k + 1] config.exePath) = none := by
  have hne : backup^[k + 1] config.exePath ≠ config.exePath := by
    rw [iterate_succ_apply']
    intro h
    have hlast := congrArg getLast? h
    simp [backup, config] at hlast
  rw [machine, content_ofFiles, if_neg hne]

end Sample

open Sample

/-- After two updates the backup is the first of them. -/
theorem trusted_of_alone_twice : ∃ t, exec (step config) (.init machine) twice = some t ∧
      t.fs.content (backup ['a']) = some [2, 2] ∧ Trusted config [1] [2, 2] := by
  refine exists_of_exec (fun t ↦ t.fs.content (backup ['a']) = some [2, 2]) (by decide +kernel)
    fun t ht hbak ↦ ?_
  exact ⟨hbak, trusted_of_alone config (by decide) machine_content_backup
    twice ht (along_alone_of_only (u := 0) (by decide)) _ (by simp [config]) _ hbak⟩

/-- **Half a swap is enough**: the second update has truncated the file the first one moves in. -/
theorem not_trusted_overlap : ∃ t, exec (step config) (.init machine) overlap = some t ∧
      t.fs.content ['a'] = some [] ∧ ¬ Trusted config [1] [] := by
  refine exists_of_exec (fun t ↦ t.fs.content ['a'] = some []) (by decide +kernel) fun t ht hchk ↦
    ?_
  refine ⟨hchk, ?_⟩
  rintro (h | ⟨_, -, _, hver⟩)
  · cases h
  · exact (of_decide_eq_true hver).2 (by decide)

end WartungsRemote.AgentUpdate
