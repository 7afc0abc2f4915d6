import WartungsRemote.Alerting.Engine

/-!
# No duplicate alerts

`OpenIfNotExists` is a `SELECT` and an `INSERT`, with no constraint of the table behind them, and
users change the alerts in between. **A device has still at most one open or acknowledged alert of a
rule**: only the pass opens alerts, and what users do to an alert never brings it back (`Row.Ages`),
so that what the `SELECT` has found holds until the `INSERT` (`UniqueInv`).
-/

namespace WartungsRemote.Alerting

open List
open Device (Listed)
open Transition

/-- **A device has at most one open or acknowledged alert of each rule.** -/
def NoDuplicates (e : Engine) : Prop :=
  ∀ deviceID, ∀ rule ∈ e.rules, e.liveAlerts deviceID rule.id ≤ 1

/-- **An alert that is resolved does not become open or acknowledged again.** -/
def StaysResolved (e t : Engine) : Prop :=
  ∀ a ∈ e.alerts, a.state = .resolved → ∀ a' ∈ t.alerts, a'.id = a.id → a'.live = false

/-- Between `SELECT` and `INSERT` there is no alert. -/
structure UniqueInv (e : Engine) : Prop where
  distinct : (e.alerts.map Row.id).Nodup
  unique : ∀ deviceID ruleID, e.liveAlerts deviceID ruleID ≤ 1
  insertion : ∀ rule d, e.phase.insertion = some (rule, d) → e.liveAlerts d.id rule.id = 0

variable {e t : Engine} {l : Label}

theorem staysResolved_of_ages (hdist : (e.alerts.map Row.id).Nodup)
    (h : ∀ a' ∈ t.alerts, (∃ a ∈ e.alerts, a.Ages a') ∨ a'.id ∉ e.alerts.map Row.id) :
    StaysResolved e t := by
  intro a ha hresolved a' ha' hid
  obtain ⟨_, ha₀, hages⟩ | hnew := h a' ha'
  · obtain rfl := inj_on_of_nodup_map hdist ha₀ ha (hages.id.symm.trans hid)
    rw [← Bool.not_eq_true]
    exact fun hlive ↦ by simpa [Row.live, hresolved] using hages.live hlive
  · exact absurd (hid ▸ mem_map_of_mem ha) hnew

/-- Rows that only age do not become more. -/
theorem UniqueInv.of_ages (he : UniqueInv e) {f : Row → Option Row}
    (hages : ∀ a a', f a = some a' → a.Ages a') (hals : t.alerts = e.alerts.filterMap f)
    (hph : ∀ rule d, t.phase.insertion = some (rule, d) → e.liveAlerts d.id rule.id = 0) :
    UniqueInv t ∧ StaysResolved e t := by
  have hle := liveAlerts_le hages hals
  have hdist : (t.alerts.map Row.id).Nodup := by
    rw [hals]
    refine pairwise_map.2 ((pairwise_map.1 he.distinct).filterMap f fun a a' hne b hb b' hb' ↦ ?_)
    rw [(hages a b hb).id, (hages a' b' hb').id]
    exact hne
  refine ⟨⟨hdist, fun d r ↦ (hle d r).trans (he.unique d r), fun rule d h ↦ ?_⟩,
    staysResolved_of_ages he.distinct fun a' ha' ↦ ?_⟩
  · exact Nat.eq_zero_of_le_zero ((hle d.id rule.id).trans_eq (hph rule d h))
  · obtain ⟨a, ha, hfa⟩ := mem_filterMap.1 (hals ▸ ha')
    exact .inl ⟨a, ha, hages a a' hfa⟩

/-- **An insert finds no live alert** of its rule and device, and nothing is resolved back. -/
theorem UniqueInv.step (he : UniqueInv e) (h : step e l = some t) :
    UniqueInv t ∧ StaysResolved e t := by
  cases moves_of_step h with
  | passed _ hins =>
    refine he.of_ages (f := some) (fun a a' ha ↦ Option.some.inj ha ▸ ages_refl a)
      filterMap_some.symm fun rule d hph ↦ ?_
    exact countP_eq_zero.2 (find?_eq_none.1 (hins rule d hph))
  | @opened id _ rule d _ _ hph hnew =>
    have hdist := he.distinct.concat hnew
    refine ⟨⟨by simpa using hdist, fun deviceID ruleID ↦ ?_, fun rule d h ↦ ?_⟩,
      staysResolved_of_ages he.distinct fun a ha ↦ ?_⟩
    · unfold Engine.liveAlerts
      rw [countP_append, countP_singleton]
      split
      next hof =>
        -- the new alert is the only one of its rule and device
        obtain ⟨rfl, rfl⟩ : d.id = deviceID ∧ rule.id = ruleID := by simpa [Row.of, Row.live]
          using hof
        exact Nat.add_le_add_right (he.insertion rule d hph).le 1
      · exact he.unique deviceID ruleID
    · rw [Phase.insertion_next] at h
      cases h
    · obtain ha | ha := mem_snoc.1 ha
      · exact .inl ⟨a, ha, ages_refl a⟩
      · exact .inr (ha ▸ hnew)
  | @resolved _ rule d =>
    refine he.of_ages (fun a a' ha ↦ ?_) (congrFun filterMap_eq_map _).symm fun rule d h ↦ ?_
    · cases ha
      exact ages_ite fun _ ↦ ages_resolved a e.now
    · rw [Phase.insertion_next] at h
      cases h
  | changed _ hages hals hph =>
    refine he.of_ages hages hals fun rule d h ↦ ?_
    obtain hph | hph := hph
    · exact he.insertion rule d (hph ▸ h)
    · rw [hph] at h
      cases h

/-- **No duplicate alerts, and resolved alerts stay resolved**, whatever users do between the
statements of the pass. -/
theorem noDuplicates (ls : List Label) :
    Along step (fun e _ t ↦ NoDuplicates e ∧ NoDuplicates t ∧ StaysResolved e t) .init ls := by
  have hnone : UniqueInv .init := ⟨nodup_nil, fun _ _ ↦ Nat.zero_le 1, fun _ _ _ ↦ rfl⟩
  refine along_of_exec (fun e l t he h ↦ (UniqueInv.step he h).1) (fun e l t he h ↦ ?_) hnone
  obtain ⟨ht, hstays⟩ := UniqueInv.step he h
  exact ⟨fun d rule _ ↦ he.unique d rule.id, fun d rule _ ↦ ht.unique d rule.id, hstays⟩

end WartungsRemote.Alerting
