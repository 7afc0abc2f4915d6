import WartungsRemote.AgentUpdate.Process
import WartungsRemote.Transition.Run

/-!
# Swaps that overlap

Two updates of one process can swap the binary at the same time. `Alone` is the guard on a run that
excludes this: **no swap begins while another one is under way**. Then a process has one swap at a
time (`Sequential`).
-/

namespace WartungsRemote.AgentUpdate

open Posix Transition

def Update.isStaging : Update → Bool
  | .staging .. => true
  | .verified .. | .marking .. => false

/-- The update that a label is about. -/
def Label.update? : Label → Option ℕ
  | .update u _ _ | .executable u _ | .stage u _ | .mark u _ => some u
  | .start | .die | .reconcile _ _ | .boot _ | .handshake | .commit _ => none

/-- No swap begins while another one is under way. -/
def Alone (s : State) (l : Label) : Prop :=
  ∀ u p, l = .executable u true → s.proc = some p → ∀ v ≠ u, ∀ up, p.updates v = some up →
    up.isStaging = false

/-- A process has at most one swap under way. -/
def Sequential (s : State) : Prop :=
  ∀ p, s.proc = some p → ∀ u v up up', p.updates u = some up → p.updates v = some up' →
    up.isStaging = true → up'.isStaging = true → u = v

variable {cfg : Config} {fs : FileSystem Path} {s t : State} {l : Label} {p : Process} {u : ℕ}

/-- What a step does to the updates of a process: it is a new one without any, they are left alone,
or the one of the label changes. An update is staging as before, or because the label says so. -/
theorem updates_of_step (hstep : Step cfg s l t) {q : Process} (hq : t.proc = some q) :
    (∀ v, q.updates v = none) ∨ ∃ p, s.proc = some p ∧ (q.updates = p.updates ∨
      ∃ u x, l.update? = some u ∧ q.updates = Function.update p.updates u x ∧
        ∀ y, x = some y → y.isStaging = true →
          l = .executable u true ∨ ∃ up, p.updates u = some up ∧ up.isStaging = true) := by
  cases hstep with
  | start =>
    cases hq
    exact .inl fun _ ↦ rfl
  | die | deleted | deleteFailed => cases hq
  | reconnect | rejected => exact .inr ⟨q, hq, .inl rfl⟩
  | reconcile hproc | restoring hproc | restored hproc | restoreFailed hproc | saving hproc
  | handshake hproc
  | loaded hproc | nothing hproc | removed hproc | keptBackup hproc | committed hproc
  | keptMarker hproc =>
    cases hq
    exact .inr ⟨_, hproc, .inl rfl⟩
  | accepted hproc | notLocated hproc =>
    cases hq
    refine .inr ⟨_, hproc, .inr ⟨_, _, rfl, rfl, fun y hy hys ↦ ?_⟩⟩
    cases hy <;> cases hys
  | located hproc =>
    cases hq
    exact .inr ⟨_, hproc, .inr ⟨_, _, rfl, rfl, fun _ _ _ ↦ .inl rfl⟩⟩
  | stage hproc hupd =>
    cases hq
    exact .inr ⟨_, hproc, .inr ⟨_, _, rfl, rfl, fun _ _ _ ↦ .inr ⟨_, hupd, rfl⟩⟩⟩
  | @mark _ _ _ _ _ pc' _ _ hproc =>
    cases hq
    refine .inr ⟨_, hproc, .inr ⟨_, _, rfl, rfl, fun y hy hys ↦ ?_⟩⟩
    cases pc' <;> cases hy <;> cases hys

theorem sequential_init (fs : FileSystem Path) : Sequential (.init fs) := by
  simp [Sequential, State.init]

theorem Sequential.others (h : Sequential s) {up : Update} (hproc : s.proc = some p)
    (hup : p.updates u = some up) (hstag : up.isStaging = true) :
    ∀ v ≠ u, ∀ x, p.updates v = some x → x.isStaging = false := by
  intro v hv x hx
  by_contra hxs
  exact hv (h p hproc v u x up hx hup (Bool.eq_true_of_not_eq_false hxs) hstag)

theorem Sequential.update (h : Sequential s) (hproc : s.proc = some p) {up : Option Update}
    (hoth : ∀ x, up = some x → x.isStaging = true →
      ∀ v ≠ u, ∀ y, p.updates v = some y → y.isStaging = false) :
    ∀ v w x y, Function.update p.updates u up v = some x → Function.update p.updates u up w =
      some y → x.isStaging = true → y.isStaging = true → v = w := by
  intro v w x y hx hy hxs hys
  rw [Function.update_apply] at hx hy
  split at hx <;> split at hy
  next hv hw => rw [hv, hw]
  next hv hw => exact absurd ((hoth x hx hxs w hw y hy).symm.trans hys) (by decide)
  next hv hw => exact absurd ((hoth y hy hys v hv x hx).symm.trans hxs) (by decide)
  · exact h p hproc v w x y hx hy hxs hys

/-- A swap begins alone, so no two are ever under way. -/
theorem Sequential.step (h : Sequential s) (hstep : Step cfg s l t) (halone : Alone s l) :
    Sequential t := by
  intro q hq
  obtain hnone | ⟨p, hproc, heq | ⟨u, x, -, heq, hstag⟩⟩ := updates_of_step hstep hq
  · intro u v up up' hup
    rw [hnone u] at hup
    cases hup
  · rw [heq]
    exact h p hproc
  · rw [heq]
    refine h.update hproc fun y hy hys ↦ ?_
    obtain rfl | ⟨up, hup, hups⟩ := hstag y hy hys
    · exact halone u p rfl hproc
    · exact h.others hproc hup hups

/-! ### One update at a time -/

/-- A process has this update only. -/
def Only (u : ℕ) (s : State) : Prop :=
  ∀ p, s.proc = some p → ∀ v ≠ u, p.updates v = none

theorem Only.step {u : ℕ} (h : Only u s) (hstep : Step cfg s l t) (hl : ∀ v ∈ l.update?, v = u) :
    Only u t := by
  intro q hq v hv
  obtain hnone | ⟨p, hproc, heq | ⟨w, x, hw, heq, -⟩⟩ := updates_of_step hstep hq
  · exact hnone v
  · rw [heq]
    exact h p hproc v hv
  · obtain rfl : w = u := hl w hw
    rw [heq, Function.update_of_ne hv]
    exact h p hproc v hv

theorem along_alone_of_only {u : ℕ} {ls : List Label} (h : ∀ l ∈ ls, ∀ v ∈ l.update?, v = u) :
    Along (step cfg) (fun s l _ ↦ Alone s l) (.init fs) ls := by
  refine along_of_invariant (I := Only u) (fun s l t hs hstep hl ↦ hs.step (step_cases hstep) hl) ?_
    (by simp [Only, State.init]) (along_of_forall_mem fun l hl _ _ ↦ h l hl)
  rintro s l t hs - hl w p rfl hproc v hv up hup
  obtain rfl := hl w rfl
  rw [hs p hproc v hv] at hup
  cases hup

end WartungsRemote.AgentUpdate
