import WartungsRemote.AgentUpdate.Process
import WartungsRemote.Transition.Run

/-!
# Who deletes the marker

The marker of an update is deleted after the first handshake of a process, and after a rollback. An
update is staged only after the first handshake of its process. So the process that deletes a marker
was **started after the update was staged** (`deletesRightly_of_run`); however often the process
that staged it reconnects, it does not commit its own update.
-/

namespace WartungsRemote.AgentUpdate

open Posix Transition Option

/-- If the step deletes the marker, the process was started after the update was staged, and has
completed a handshake or restored the backup. -/
def DeletesRightly (s t : State) : Prop :=
  ∀ file, s.marker = some file → t.marker = none →
    ∃ p, s.proc = some p ∧ file.stagedBy < p.pid ∧ (p.commit ≠ .waiting ∨
      ∃ b, (p.pid, b) ∈ s.restored)

/-- Until its callback has run a process has no updates, and the marker is older than itself. -/
structure Process.Fits (p : Process) (s : State) : Prop where
  pid : p.pid = s.starts
  pid_pos : 0 < p.pid
  updates : p.commit ≠ .finished → ∀ u, p.updates u = none
  marker : p.commit ≠ .finished → ∀ file, s.marker = some file → file.stagedBy < p.pid
  running : p.commit ≠ .waiting → p.phase = .running
  restored : p.phase = .deleting → ∃ b, (p.pid, b) ∈ s.restored

/-- The invariant of the marker and of its process. -/
structure CommitInv (s : State) : Prop where
  stagedBy_le : ∀ file, s.marker = some file → file.stagedBy ≤ s.starts
  proc : ∀ p, s.proc = some p → p.Fits s

variable {cfg : Config} {s t : State} {l : Label} {p : Process}

theorem commitInv_init (fs : FileSystem Path) : CommitInv (.init fs) where
  stagedBy_le := by simp [State.init]
  proc := by simp [State.init]

theorem reconcilePhase_ne_deleting (marker : Option MarkerFile) (readable located : Bool) :
    reconcilePhase marker readable located ≠ .deleting := by
  obtain h | ⟨m, _, -, h | h⟩ := reconcilePhase_cases marker readable located <;> simp [h]

theorem Process.Fits.finished (h : p.Fits s) {u : ℕ} {up : Update} (hu : p.updates u = some up) :
    p.commit = .finished := by
  by_contra hcom
  rw [h.updates hcom u] at hu
  cases hu

theorem Process.Fits.waiting (h : p.Fits s) (hph : p.phase ≠ .running) : p.commit = .waiting := by
  by_contra hcom
  exact hph (h.running hcom)

theorem Process.Fits.idle (h : p.Fits s) (hph : p.phase ≠ .running) (u : ℕ) :
    p.updates u = none := by
  refine h.updates (fun hfin ↦ ?_) u
  rw [h.waiting hph] at hfin
  cases hfin

theorem CommitInv.ended (h : CommitInv s) (hproc : t.proc = none) (hsts : t.starts = s.starts)
    (hmark : t.marker = s.marker ∨ t.marker = none) : CommitInv t where
  stagedBy_le file hfile := by
    rcases hmark with heq | hnone
    · exact hsts ▸ h.stagedBy_le file (heq ▸ hfile)
    · rw [hnone] at hfile
      cases hfile
  proc p hp := by
    rw [hproc] at hp
    cases hp

/-- The marker is written by its own process, or on behalf of the one that staged the update. -/
theorem stagedBy_of_saveStep {m : Marker} {stagedBy : ℕ} {file file' : Option MarkerFile}
    {pc pc' : SavePC} {o : Syscall} (h : saveStep m stagedBy (file, pc) o = some (file', pc')) :
    file' = file ∨ ∃ content, file' = some ⟨content, stagedBy⟩ := by
  rcases saveStep_cases h with heq | heq | heq
  · exact .inl heq
  · exact .inr ⟨none, heq⟩
  · exact .inr ⟨some m, heq⟩

theorem afterSave_ne_deleting (m : Marker) (pc : SavePC) : Phase.afterSave m pc ≠ .deleting := by
  cases pc <;> simp [Phase.afterSave]

/-- The marker stays, and with it what the process may do. -/
theorem CommitInv.kept (h : CommitInv s) {p p' : Process} (hproc : s.proc = some p)
    (hmark : t.marker = s.marker) (hsts : t.starts = s.starts) (hproc' : t.proc = some p')
    (hpid : p'.pid = p.pid) (hupdates : p'.commit ≠ .finished → ∀ u, p'.updates u = none)
    (hcom : p'.commit ≠ .finished → p.commit ≠ .finished)
    (hrun : p'.commit ≠ .waiting → p'.phase = .running)
    (hrestored : p'.phase = .deleting → ∃ b, (p'.pid, b) ∈ t.restored) : CommitInv t where
  stagedBy_le file hfile := hsts ▸ h.stagedBy_le file (hmark ▸ hfile)
  proc q hq := by
    cases hproc'.symm.trans hq
    have hfits := h.proc p hproc
    exact ⟨by rw [hpid, hfits.pid, hsts], by rw [hpid]; exact hfits.pid_pos, hupdates,
      fun hne file hfile ↦ by rw [hpid]; exact hfits.marker (hcom hne) file (hmark ▸ hfile),
      hrun, hrestored⟩

/-- The process writes the marker after its callback has run. -/
theorem CommitInv.changed (h : CommitInv s) {p p' : Process} (hproc : s.proc = some p)
    (hmark : ∀ file, t.marker = some file → file.stagedBy ≤ s.starts) (hsts : t.starts = s.starts)
    (hproc' : t.proc = some p') (hpid : p'.pid = p.pid) (hcom : p'.commit = .finished)
    (hph : p'.phase = .running) : CommitInv t where
  stagedBy_le file hfile := hsts ▸ hmark file hfile
  proc q hq := by
    cases hproc'.symm.trans hq
    have hfits := h.proc p hproc
    exact ⟨by rw [hpid, hfits.pid, hsts], by rw [hpid]; exact hfits.pid_pos,
      fun hne ↦ absurd hcom hne, fun hne ↦ absurd hcom hne, fun _ ↦ hph,
      fun hdel ↦ by rw [hph] at hdel; cases hdel⟩

/-- **Every step keeps the marker and its process in agreement.** -/
theorem CommitInv.step (h : CommitInv s) (hstep : Step cfg s l t) : CommitInv t := by
  cases hstep with
  | start =>
    refine ⟨fun file hfile ↦ Nat.le_succ_of_le (h.stagedBy_le file hfile), fun p hp ↦ ?_⟩
    cases hp
    exact ⟨rfl, Nat.succ_pos _, fun _ _ ↦ rfl,
      fun _ file hfile ↦ Nat.lt_succ_of_le (h.stagedBy_le file hfile), fun hne ↦ absurd rfl hne,
      nofun⟩
  | die | deleteFailed => exact h.ended rfl rfl (.inl rfl)
  | reconcile hproc hph | restoring hproc hph | restored hproc hph =>
    have hfits := h.proc _ hproc
    have hwait := hfits.waiting (by simp [hph])
    refine h.kept hproc rfl rfl rfl rfl hfits.updates id (fun hne ↦ absurd hwait hne) ?_
    simp [reconcilePhase_ne_deleting]
  | restoreFailed hproc =>
    exact h.kept hproc rfl rfl rfl rfl (h.proc _ hproc).updates id (fun _ ↦ rfl) nofun
  | deleted => exact h.ended rfl rfl (.inr rfl)
  | @saving p _ _ _ _ marker hproc hph hsave =>
    have hfits := h.proc p hproc
    have hwait := hfits.waiting (by simp [hph])
    have holder : ∀ file, marker = some file → file.stagedBy < p.pid := by
      intro file hfile
      obtain heq | ⟨content, heq⟩ := stagedBy_of_saveStep hsave
      · exact hfits.marker (by simp [hwait]) file (heq ▸ hfile)
      · cases heq.symm.trans hfile
        rcases hold : s.marker with _ | file₀
        · exact hfits.pid_pos
        · exact hfits.marker (by simp [hwait]) file₀ hold
    refine ⟨fun file hfile ↦ (holder file hfile).le.trans_eq hfits.pid, fun q hq ↦ ?_⟩
    cases hq
    exact ⟨hfits.pid, hfits.pid_pos, hfits.updates, fun _ ↦ holder, fun hne ↦ absurd hwait hne,
      fun hdel ↦ absurd hdel (afterSave_ne_deleting _ _)⟩
  | handshake hproc hph hcom =>
    exact h.kept hproc rfl rfl rfl rfl (fun _ ↦ (h.proc _ hproc).updates (by simp [hcom]))
      (fun _ ↦ by simp [hcom]) (fun _ ↦ hph) fun hdel ↦ by rw [hph] at hdel; cases hdel
  | reconnect | rejected => exact h
  | loaded hproc hcom | nothing hproc hcom | removed hproc hcom | keptBackup hproc hcom
  | keptMarker hproc hcom =>
    have hfits := h.proc _ hproc
    have hrun := hfits.running (by simp [hcom])
    exact h.kept hproc rfl rfl rfl rfl (fun _ ↦ hfits.updates (by simp [hcom]))
      (fun _ ↦ by simp [hcom]) (fun _ ↦ hrun) hfits.restored
  | committed hproc hcom =>
    exact h.changed hproc nofun rfl rfl rfl rfl ((h.proc _ hproc).running (by simp [hcom]))
  | accepted hproc hcom =>
    exact h.changed hproc h.stagedBy_le rfl rfl rfl hcom ((h.proc _ hproc).running (by simp [hcom]))
  | located hproc hupd | notLocated hproc hupd | stage hproc hupd =>
    have hfits := h.proc _ hproc
    have hcom := hfits.finished hupd
    exact h.changed hproc h.stagedBy_le rfl rfl rfl hcom (hfits.running (by simp [hcom]))
  | mark hproc hupd hsave =>
    have hfits := h.proc _ hproc
    have hcom := hfits.finished hupd
    refine h.changed hproc (fun file hfile ↦ ?_) rfl rfl rfl hcom (hfits.running (by simp [hcom]))
    obtain heq | ⟨content, heq⟩ := stagedBy_of_saveStep hsave
    · exact h.stagedBy_le file (heq ▸ hfile)
    · cases heq.symm.trans hfile
      exact hfits.pid.le

/-- Only the callback and the rollback delete the marker. -/
theorem CommitInv.deletesRightly (h : CommitInv s) (hstep : Step cfg s l t) :
    DeletesRightly s t := by
  intro file hfile hnone
  cases hstep with
  | deleted hproc hph =>
    have hfits := h.proc _ hproc
    have hwait := hfits.waiting (by simp [hph])
    exact ⟨_, hproc, hfits.marker (by simp [hwait]) file hfile, .inr (hfits.restored hph)⟩
  | committed hproc hcom =>
    exact ⟨_, hproc, (h.proc _ hproc).marker (by simp [hcom]) file hfile, .inl (by simp [hcom])⟩
  | saving _ _ hsave | mark _ _ hsave =>
    obtain heq | ⟨_, heq⟩ := stagedBy_of_saveStep hsave
    · exact absurd (hnone.symm.trans (heq.trans hfile)) (by simp)
    · exact absurd (hnone.symm.trans heq) (by simp)
  | _ => exact absurd (hnone.symm.trans hfile) (by simp)

/-- **The marker of an update is deleted only by a process started after the update was staged**
that has completed a handshake or restored the backup: in every run, over any number of processes.
-/
theorem deletesRightly_of_run (cfg : Config) (fs : FileSystem Path) (ls : List Label) :
    Along (step cfg) (fun s _ t ↦ DeletesRightly s t) (.init fs) ls :=
  along_of_exec (fun _ _ _ h hstep ↦ h.step (step_cases hstep))
    (fun _ _ _ h hstep ↦ h.deletesRightly (step_cases hstep)) (commitInv_init fs)

end WartungsRemote.AgentUpdate
