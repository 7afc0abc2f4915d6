import Mathlib.Data.List.Basic
import Mathlib.Data.Option.Basic

/-!
# Runs of a partial transition function

A system with states `σ` is a **partial step** `σ → ℓ → Option σ`: a label names who moves and with
which outcome, and `none` says that the move is not enabled. Everything nondeterministic about a
concurrent program — the schedule, the inputs, the outcome of a call that may fail — is in the
label, so a run is a list of labels and executing it is a computation (`exec`). `Along step P s ls`
says that every step of that execution satisfies `P` (of the state before, the label and the state
after). With a `P` that ignores the state after it is the guard of a run: the condition under which
the run is taken.

The two rules that consumers use are `invariant_of_along` (an invariant that every step satisfying
the guard preserves holds at the end of every guarded run) and `along_of_invariant` (a step fact
that the invariant implies holds at every step of a guarded run). Runs are composed and split with
`exec_append` and `along_append`.
-/

/-- A list that grows at its end has its old elements and the new one. -/
theorem List.mem_snoc {α : Type*} {l : List α} {a b : α} : a ∈ l ++ [b] ↔ a ∈ l ∨ a = b := by
  rw [mem_append, mem_singleton]

/-- A table written at one place. -/
theorem Function.update_apply_eq_iff {α β : Type*} [DecidableEq α] {f : α → β} {a x : α} {b c : β} :
    update f a b x = c ↔ x = a ∧ b = c ∨ x ≠ a ∧ f x = c := by
  rw [update_apply, ite_eq_iff]

namespace Transition

open List Option

variable {σ ℓ : Type*} (step : σ → ℓ → Option σ)

/-- Execute a list of labels; undefined as soon as one of them is not enabled. -/
def exec : σ → List ℓ → Option σ
  | s, [] => some s
  | s, l :: ls => (step s l).bind fun t ↦ exec t ls

/-- Every step of the execution of `ls` from `s` satisfies `P`. Nothing is asked of steps after one
that is not enabled. -/
def Along (P : σ → ℓ → σ → Prop) : σ → List ℓ → Prop
  | _, [] => True
  | s, l :: ls => ∀ t, step s l = some t → P s l t ∧ Along P t ls

@[simp] theorem exec_nil (s : σ) : exec step s [] = some s := rfl

theorem exec_cons (s : σ) (l : ℓ) (ls : List ℓ) :
    exec step s (l :: ls) = (step s l).bind fun t ↦ exec step t ls := rfl

variable {l : ℓ} {ls ms : List ℓ} {s t u : σ} {I : σ → Prop}

theorem exec_cons_eq_some_iff :
    exec step s (l :: ls) = some u ↔ ∃ t, step s l = some t ∧ exec step t ls = some u := by
  rw [exec_cons, bind_eq_some_iff]

theorem exec_append (s : σ) (ls ms : List ℓ) :
    exec step s (ls ++ ms) = (exec step s ls).bind fun t ↦ exec step t ms := by
  induction ls generalizing s with
  | nil => rfl
  | cons _ _ ih =>
    rw [cons_append, exec_cons, exec_cons, bind_assoc]
    exact congrArg _ (funext ih)

theorem exec_append_eq_some_iff : exec step s (ls ++ ms) = some u ↔
      ∃ t, exec step s ls = some t ∧ exec step t ms = some u := by
  rw [exec_append, bind_eq_some_iff]

theorem exec_of_stuck (hstuck : ∀ l, step s l = none) (hrun : exec step s ls = some t) :
    ls = [] ∧ t = s := by
  cases ls with
  | nil => exact ⟨rfl, (some.inj hrun).symm⟩
  | cons =>
    rw [exec_cons, hstuck] at hrun
    cases hrun

/-- A run of a system embedded in another one. -/
theorem exec_map {τ : Type*} {step : σ → ℓ → Option σ} {step' : τ → ℓ → Option τ} {f : σ → τ}
    (h : ∀ s l, step' (f s) l = (step s l).map f) (s : σ) (ls : List ℓ) :
    exec step' (f s) ls = (exec step s ls).map f := by
  induction ls generalizing s with
  | nil => rfl
  | cons _ _ ih =>
    rw [exec_cons, exec_cons, h, bind_map, map_bind]
    exact congrArg _ (funext ih)

variable {P Q : σ → ℓ → σ → Prop}

@[simp] theorem along_nil (s : σ) : Along step P s [] := trivial

theorem along_cons : Along step P s (l :: ls) ↔ ∀ t, step s l = some t → P s l t ∧
    Along step P t ls := Iff.rfl

variable {step}

/-- A run that can be evaluated, and what follows from what it leads to. -/
theorem exists_of_exec (P : σ → Prop) [DecidablePred P] {Q : σ → Prop}
    (h : (exec step s ls).any (fun t ↦ decide (P t)) = true)
    (hQ : ∀ t, exec step s ls = some t → P t → Q t) : ∃ t, exec step s ls = some t ∧ Q t := by
  obtain ⟨t, hrun, ht⟩ := (any_eq_true _ _).1 h
  exact ⟨t, hrun, hQ t hrun (of_decide_eq_true ht)⟩

theorem along_cons_of_eq (h : step s l = some t) : Along step P s (l :: ls) ↔ P s l t ∧
    Along step P t ls := by
  simp [along_cons, h]

theorem Along.cons (h : step s l = some t) (hP : P s l t) (hrest : Along step P t ls) :
    Along step P s (l :: ls) :=
  (along_cons_of_eq h).2 ⟨hP, hrest⟩

theorem Along.and (hP : Along step P s ls) (hQ : Along step Q s ls) :
    Along step (fun s l t ↦ P s l t ∧ Q s l t) s ls := by
  induction ls generalizing s with
  | nil => trivial
  | cons _ _ ih => exact fun t ht ↦ ⟨⟨(hP t ht).1, (hQ t ht).1⟩, ih (hP t ht).2 (hQ t ht).2⟩

theorem along_of_forall_mem (h : ∀ l ∈ ls, ∀ s t, P s l t) : Along step P s ls := by
  induction ls generalizing s with
  | nil => trivial
  | cons l _ ih =>
    exact fun t _ ↦ ⟨h l mem_cons_self s t, ih fun m hm ↦ h m (mem_cons_of_mem l hm)⟩

/-- A decidable guard is decided by executing the run. -/
instance decidableAlong [∀ s l t, Decidable (P s l t)] :
    ∀ (s : σ) (ls : List ℓ), Decidable (Along step P s ls)
  | _, [] => .isTrue trivial
  | s, l :: ls =>
    match h : step s l with
    | none => .isTrue fun t ht ↦ by cases h.symm.trans ht
    | some t =>
      have := decidableAlong t ls
      decidable_of_iff' _ (along_cons_of_eq h)

theorem along_append (ht : exec step s ls = some t) :
    Along step P s (ls ++ ms) ↔ Along step P s ls ∧ Along step P t ms := by
  induction ls generalizing s with
  | nil =>
    obtain rfl : s = t := by simpa using ht
    simp
  | cons _ _ ih =>
    obtain ⟨u, hu, hrest⟩ := (exec_cons_eq_some_iff step).1 ht
    constructor
    · intro h
      obtain ⟨hP, hAlong⟩ := h u hu
      obtain ⟨h₁, h₂⟩ := (ih hrest).1 hAlong
      refine ⟨fun v hv ↦ ?_, h₂⟩
      obtain rfl : u = v := by simpa [hu] using hv
      exact ⟨hP, h₁⟩
    · rintro ⟨h₁, h₂⟩ v hv
      obtain rfl : u = v := by simpa [hu] using hv
      exact ⟨(h₁ u hu).1, (ih hrest).2 ⟨(h₁ u hu).2, h₂⟩⟩

/-- **The invariant rule.** What holds initially and is preserved by every guarded step holds at the
end of every guarded run. -/
theorem invariant_of_along
    (hstep : ∀ s l t, I s → step s l = some t → P s l t → I t) (h₀ : I s)
    (hrun : exec step s ls = some t) (hgrd : Along step P s ls) : I t := by
  induction ls generalizing s with
  | nil => exact (show s = t by simpa using hrun) ▸ h₀
  | cons l _ ih =>
    obtain ⟨u, hu, hrest⟩ := (exec_cons_eq_some_iff step).1 hrun
    obtain ⟨hP, hAlong⟩ := hgrd u hu
    exact ih (hstep s l u h₀ hu hP) hrest hAlong

theorem invariant_of_exec (hstep : ∀ s l t, I s → step s l = some t → I t) (h₀ : I s)
    (hrun : exec step s ls = some t) : I t := by
  have hgrd : Along step (fun _ _ _ ↦ True) s ls := along_of_forall_mem fun _ _ _ _ ↦ trivial
  exact invariant_of_along (fun s l t hI h _ ↦ hstep s l t hI h) h₀ hrun hgrd

/-- **The step rule.** A fact about steps that an invariant of the guarded run implies holds along
it. -/
theorem along_of_invariant
    (hstep : ∀ s l t, I s → step s l = some t → P s l t → I t)
    (hQ : ∀ s l t, I s → step s l = some t → P s l t → Q s l t) (h₀ : I s)
    (hgrd : Along step P s ls) :
    Along step Q s ls := by
  induction ls generalizing s with
  | nil => trivial
  | cons l _ ih =>
    intro t ht
    obtain ⟨hP, hAlong⟩ := hgrd t ht
    exact ⟨hQ s l t h₀ ht hP, ih (hstep s l t h₀ ht hP) hAlong⟩

theorem along_of_exec (hstep : ∀ s l t, I s → step s l = some t → I t)
    (hQ : ∀ s l t, I s → step s l = some t → Q s l t) (h₀ : I s) : Along step Q s ls := by
  have hgrd : Along step (fun _ _ _ ↦ True) s ls := along_of_forall_mem fun _ _ _ _ ↦ trivial
  exact along_of_invariant (fun s l t hI h _ ↦ hstep s l t hI h) (fun s l t hI h _ ↦
    hQ s l t hI h) h₀ hgrd

/-- Two step facts that agree wherever an invariant holds are the same fact about runs. -/
theorem along_congr_of_invariant
    (hstep : ∀ s l t, I s → step s l = some t → I t)
    (hPQ : ∀ s l t, I s → step s l = some t → (P s l t ↔ Q s l t)) (h₀ : I s) :
    Along step P s ls ↔ Along step Q s ls := by
  constructor
  · exact along_of_invariant (fun s l t hI h _ ↦ hstep s l t hI h)
      (fun s l t hI h hP ↦ (hPQ s l t hI h).1 hP) h₀
  · exact along_of_invariant (fun s l t hI h _ ↦ hstep s l t hI h)
      (fun s l t hI h hQ ↦ (hPQ s l t hI h).2 hQ) h₀

/-- Where something changes in a run, there is a step that changes it. -/
theorem exists_step_of_exec (hrun : exec step s ls = some t) (h₀ : ¬ I s) (ht : I t) :
    ∃ before l after u v, ls = before ++ l :: after ∧ exec step s before = some u ∧
      step u l = some v ∧ ¬ I u ∧ I v := by
  induction ls generalizing s with
  | nil => exact absurd ((show s = t by simpa using hrun) ▸ ht) h₀
  | cons l ls ih =>
    obtain ⟨v, hv, hrest⟩ := (exec_cons_eq_some_iff step).1 hrun
    by_cases hI : I v
    · exact ⟨[], l, ls, s, v, rfl, rfl, hv, h₀, hI⟩
    · obtain ⟨before, l', after, u, w, rfl, hu, hw, hIu, hIw⟩ := ih hrest hI
      exact ⟨l :: before, l', after, u, w, rfl, (exec_cons_eq_some_iff step).2 ⟨v, hv, hu⟩, hw,
        hIu, hIw⟩

end Transition
