import WartungsRemote.Transition.Run

/-!
# Runs that are remembered

Some properties of a run speak of what happened before: that a device has connected at some time, or
when a connection was last heard of. `withHistory` runs a system beside a **history** that is told
of every step and that no step reads.
-/

namespace Transition

variable {σ ℓ η : Type*}

/-- A step of the system, and what is remembered of it. -/
def withHistory (step : σ → ℓ → Option σ) (record : η → σ → ℓ → σ → η) (w : σ × η) (l : ℓ) :
    Option (σ × η) :=
  (step w.1 l).map fun t ↦ (t, record w.2 w.1 l t)

variable {step : σ → ℓ → Option σ} {record : η → σ → ℓ → σ → η} {w w' : σ × η} {l : ℓ}

theorem withHistory_eq_some_iff :
    withHistory step record w l = some w' ↔ ∃ t, step w.1 l = some t ∧
      w' = (t, record w.2 w.1 l t) := by
  rw [withHistory, Option.map_eq_some_iff]
  exact exists_congr fun t ↦ and_congr_right fun _ ↦ eq_comm

/-- What does not speak of the history holds along a run with it if it does without. -/
theorem along_withHistory (record : η → σ → ℓ → σ → η) (h : η) {P : σ → ℓ → σ → Prop} {s : σ}
    {ls : List ℓ} :
    Along (withHistory step record) (fun w l w' ↦ P w.1 l w'.1) (s, h) ls ↔ Along step P s ls := by
  induction ls generalizing s h with
  | nil => simp
  | cons l _ ih =>
    cases hstep : step s l with
    | none => simp [along_cons, withHistory, hstep]
    | some t =>
      rw [along_cons_of_eq hstep, along_cons_of_eq (withHistory_eq_some_iff.2 ⟨t, hstep, rfl⟩), ih]

end Transition
