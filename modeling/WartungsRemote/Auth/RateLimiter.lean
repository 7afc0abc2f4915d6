import WartungsRemote.Text.Splitting

/-!
# The rate limiter

`auth.RateLimiter`: for every key, the times of the calls that were allowed, as far as they lie in
the window. A call is allowed if there are fewer than the limit, and is then recorded. The method
holds a mutex, so a call is one step.
-/

namespace WartungsRemote.Auth

open List

structure RateLimiter where
  limit : ℕ
  window : ℕ
  hits : Text → List ℕ

namespace RateLimiter

variable (r : RateLimiter) (now : ℕ) (key : Text)

/-- `NewRateLimiter`. -/
def new (limit window : ℕ) : RateLimiter where
  limit := limit
  window := window
  hits _ := []

/-- The recorded times after `now - window`. -/
def kept : List ℕ :=
  (r.hits key).filter fun t ↦ now < t + r.window

/-- Whether `Allow` returns true. -/
def Allows : Prop :=
  (r.kept now key).length < r.limit
  deriving Decidable

/-- What `Allow` leaves behind. -/
def allow : RateLimiter :=
  { r with
    hits := Function.update r.hits key (if r.Allows now key then r.kept now key ++ [now]
      else r.kept now key) }


/-! ### Calls one after the other -/

/-- A call of `Allow`. -/
structure Call where
  time : ℕ
  key : Text
  deriving DecidableEq

section

variable (limit window : ℕ)

/-- The limiter after these calls, of which the last is the first of the list. -/
def after : List Call → RateLimiter
  | [] => new limit window
  | c :: past => (after past).allow c.time c.key

/-- The allowed calls. -/
def granted : List Call → List Call
  | [] => []
  | c :: past =>
    if (after limit window past).Allows c.time c.key then c :: granted past else granted past

end

/-- For this call, an earlier one of the same key counts that is less than the window ago. -/
def counts (window : ℕ) (c a : Call) : Bool :=
  a.key = c.key ∧ c.time < a.time + window

/-- The calls are made one after the other. -/
abbrev InOrder (past : List Call) : Prop :=
  past.Pairwise (·.time ≥ ·.time)

variable {r} {limit window : ℕ} {c d : Call} {past : List Call}

/-- Of what is recorded at a call, a later one keeps what counts for it. -/
theorem length_kept_allow (hle : c.time ≤ d.time) :
    ((r.allow c.time c.key).kept d.time d.key).length = (r.kept d.time d.key).length +
      if r.Allows c.time c.key ∧ counts r.window d c = true then 1 else 0 := by
  by_cases hkey : d.key = c.key
  · have hold : (r.kept c.time c.key).filter (fun t ↦ d.time < t + r.window) =
      r.kept d.time c.key := by
      rw [kept, filter_filter]
      refine filter_congr fun t _ ↦ ?_
      simp only [Bool.and_eq_left_iff_imp, decide_eq_true_eq]
      omega
    have hhits : (r.allow c.time c.key).hits d.key =
        if r.Allows c.time c.key then r.kept c.time c.key ++ [c.time] else r.kept c.time c.key := by
      rw [hkey]
      exact Function.update_self _ _ _
    rw [kept, hhits, hkey, ← hold]
    by_cases hallows : r.Allows c.time c.key <;> simp [hallows, allow, counts, hkey, filter_cons,
      apply_ite]
  · have hkept : (r.allow c.time c.key).kept d.time d.key = r.kept d.time d.key :=
      congrArg (filter _) (Function.update_of_ne hkey _ _)
    rw [hkept]
    simp [counts, Ne.symm hkey]

theorem after_limit (past : List Call) : (after limit window past).limit = limit ∧
    (after limit window past).window = window := by
  induction past with
  | nil => exact ⟨rfl, rfl⟩
  | cons _ _ ih => exact ih

/-- The limiter keeps what counts. -/
theorem length_kept_after (h : InOrder (c :: past)) :
    ((after limit window past).kept c.time c.key).length = (granted limit window past).countP
    (counts window c) := by
  induction past with
  | nil => rfl
  | cons a past ih =>
    obtain ⟨hc, hpast⟩ := pairwise_cons.1 h
    have hc' : InOrder (c :: past) :=
      pairwise_cons.2 ⟨fun b hb ↦ hc b (mem_cons_of_mem _ hb), hpast.of_cons⟩
    rw [after, length_kept_allow (hc a mem_cons_self), ih hc', granted, (after_limit past).2]
    by_cases hallows : (after limit window past).Allows a.time a.key <;> simp [hallows, countP_cons]

/-- The rule by which a call is allowed. -/
theorem allows_iff (h : InOrder (c :: past)) : (after limit window past).Allows c.time c.key ↔
    (granted limit window past).countP (counts window c) < limit := by
  rw [Allows, length_kept_after h, (after_limit past).1]

theorem granted_cons (h : InOrder (c :: past)) : granted limit window (c :: past) =
    if (granted limit window past).countP (counts window c) < limit then
      c :: granted limit window past
    else granted limit window past := by
  rw [granted]
  exact if_congr (allows_iff h) rfl rfl

/-- At times that are less than the window apart, the limit are allowed. -/
theorem countP_granted_le (h : InOrder past) (key : Text) {p : ℕ → Bool}
    (hp : ∀ t t', p t → p t' → t < t' + window) :
    (granted limit window past).countP (fun a ↦ a.key = key ∧ p a.time) ≤ limit := by
  induction past with
  | nil => exact Nat.zero_le _
  | cons c past ih =>
    have hpast := ih h.of_cons
    rw [granted_cons h]
    split_ifs with hcnt
    · rw [countP_cons]
      split_ifs with hc
      · simp only [decide_eq_true_eq] at hc
        refine (countP_mono_left fun a _ ha ↦ ?_).trans_lt hcnt
        simp only [decide_eq_true_eq] at ha
        simp [counts, ha.1, hc.1, hp _ _ hc.2 ha.2]
      · exact hpast
    · exact hpast

/-- The calls of a key, without the others. -/
theorem granted_filter (h : InOrder past) (key : Text) :
    granted limit window (past.filter (·.key = key)) = (granted limit window past).filter (·.key =
      key) := by
  induction past with
  | nil => rfl
  | cons c past ih =>
    have hpast := ih h.of_cons
    by_cases hkey : c.key = key
    · have hcnt : ((granted limit window past).filter (·.key = key)).countP (counts window c) =
          (granted limit window past).countP (counts window c) := by
        rw [countP_filter]
        refine countP_congr fun a _ ↦ ?_
        simp only [counts, hkey, Bool.and_eq_true, decide_eq_true_eq]
        tauto
      have hfilter := h.filter (·.key = key)
      rw [filter_cons_of_pos (by simpa using hkey)] at hfilter ⊢
      rw [granted_cons hfilter, hpast, hcnt, granted_cons h]
      split_ifs <;> simp [hkey]
    · rw [filter_cons_of_neg (by simpa using hkey), hpast, granted_cons h]
      split_ifs <;> simp [hkey]

/-- A denied call might as well not have been made. -/
theorem granted_of_denied {later : List Call} (h : InOrder (later ++ c :: past))
    (hc : ¬ (after limit window past).Allows c.time c.key) :
    granted limit window (later ++ c :: past) = granted limit window (later ++ past) := by
  induction later with
  | nil => exact if_neg hc
  | cons d later ih =>
    have hd : InOrder (d :: later ++ past) := h.sublist ((sublist_cons_self c past).append_left _)
    simp only [cons_append] at h hd ⊢
    rw [granted_cons h, granted_cons hd, ih h.of_cons]

/-- **The rate limiter**: a call is allowed exactly if fewer than the limit were allowed for its key
in the window before it. So at times less than the window apart no more than the limit are allowed,
and what is allowed for a key depends neither on other keys nor on the calls denied. -/
theorem allow_spec (limit window : ℕ) (past : List Call) (h : InOrder past) :
    (∀ c, InOrder (c :: past) → ((after limit window past).Allows c.time c.key ↔
      (granted limit window past).countP (counts window c) < limit)) ∧
    (∀ (key : Text) (p : ℕ → Bool), (∀ t t', p t → p t' → t < t' + window) →
      (granted limit window past).countP (fun a ↦ a.key = key ∧ p a.time) ≤ limit) ∧
    (∀ key, granted limit window (past.filter (·.key = key)) = (granted limit window past).filter
      (·.key = key)) ∧
    ∀ later c earlier, past = later ++ c :: earlier →
      ¬ (after limit window earlier).Allows c.time c.key →
        granted limit window past = granted limit window (later ++ earlier) := by
  refine ⟨fun _ hc ↦ allows_iff hc, fun key _ hp ↦ countP_granted_le h key hp, granted_filter h, ?_⟩
  rintro later c earlier rfl hc
  exact granted_of_denied h hc

/-- Of three calls in a window of 60 for two, the third is denied. -/
theorem allow_spec_third : granted 2 60 [⟨30, []⟩, ⟨20, []⟩, ⟨10, []⟩] = [⟨20, []⟩, ⟨10, []⟩] ∧
    granted 2 60 [⟨20, []⟩, ⟨10, []⟩] = [⟨20, []⟩, ⟨10, []⟩] :=
  ⟨by decide, ((allow_spec 2 60 [⟨30, []⟩, ⟨20, []⟩, ⟨10, []⟩] (by decide)).2.2.2 [] ⟨30, []⟩ _ rfl
    (by decide)).symm.trans (by decide)⟩

end RateLimiter

end WartungsRemote.Auth
