import Mathlib.Data.List.Basic
import Mathlib.Data.Option.Basic

/-!
# Rolling up samples into buckets

A table of **samples** and a table of **aggregates**, one for each key and bucket of time. Samples
are inserted at any time, late ones included. A **sweep** recomputes the aggregate of every closed
bucket that has samples, overwriting what is stored, and then deletes samples and aggregates that
are older than two cutoffs of its own.

An aggregate is **final** (`Final`) if it is the aggregate of all samples ever recorded for its
bucket. Sweeps recompute from the samples left. What is needed is that deletion takes a bucket **as
a whole**, after it was closed and rolled up (`Sweepable`), and that nothing is inserted into a
bucket with deletions (`Insertable`). Then every bucket is in one of two states (`Sound`): all its
samples are there, or none are and its aggregate is final.

The aggregate is an arbitrary partial function of the list of samples, in the order of the table, so
nothing is assumed about the arithmetic, and a value that cannot be stored fails the roll-up.
-/

namespace Rollup

open List

variable {α κ β : Type*}

/-- How samples are assigned to buckets and aggregated. -/
structure Scheme (α κ β : Type*) where
  key : α → κ
  time : α → ℕ
  /-- The width of a bucket. -/
  width : ℕ
  width_pos : 0 < width
  /-- The aggregate of a nonempty list of samples, if it can be stored. -/
  aggregate : List α → Option β

/-- The two tables, and their history. -/
structure Table (α κ β : Type*) where
  samples : List α
  rolled : κ → ℕ → Option β
  /-- History: every sample inserted. -/
  recorded : List α
  /-- History: the buckets whose aggregate was deleted. -/
  removed : κ → ℕ → Bool

/-- The inputs of a sweep: the clock at its statements, and the two retention windows. -/
structure Sweep where
  rollupAt : ℕ
  samplesAt : ℕ
  rolledAt : ℕ
  sampleRetention : ℕ
  rolledRetention : ℕ
  deriving DecidableEq

/-- Samples older than this are deleted. -/
def Sweep.sampleCutoff (w : Sweep) : ℕ :=
  w.samplesAt - w.sampleRetention

/-- Aggregates of buckets that start before this are deleted. -/
def Sweep.rolledCutoff (w : Sweep) : ℕ :=
  w.rolledAt - w.rolledRetention

def Table.empty : Table α κ β where
  samples := []
  rolled _ _ := none
  recorded := []
  removed _ _ := false

namespace Scheme

variable (S : Scheme α κ β)

/-- The bucket of a sample. -/
def bucket (x : α) : ℕ :=
  S.time x / S.width

/-- Insert a sample. -/
def insert (T : Table α κ β) (x : α) : Table α κ β :=
  { T with samples := T.samples ++ [x], recorded := T.recorded ++ [x] }

/-- Delete the samples before the cutoff. -/
def pruneSamples (T : Table α κ β) (cutoff : ℕ) : Table α κ β :=
  { T with samples := T.samples.filter fun x ↦ ¬ S.time x < cutoff }

/-- Delete the aggregates of buckets that start before the cutoff. -/
def pruneRolled (T : Table α κ β) (cutoff : ℕ) : Table α κ β :=
  { T with
    rolled := fun k b ↦ if b * S.width < cutoff then none else T.rolled k b
    removed := fun k b ↦ T.removed k b || ((T.rolled k b).isSome && b * S.width < cutoff) }

variable {b cutoff : ℕ} {k : κ} {x : α} {xs : List α}

theorem removed_of_pruneRolled {T : Table α κ β}
    (h : (S.pruneRolled T cutoff).removed k b = false) :
    T.removed k b = false ∧ (S.pruneRolled T cutoff).rolled k b = T.rolled k b := by
  simp only [pruneRolled, Bool.or_eq_false_iff, Bool.and_eq_false_iff, decide_eq_false_iff_not,
    Option.isSome_eq_false_iff, Option.isNone_iff_eq_none] at h ⊢
  refine ⟨h.1, ?_⟩
  split
  next hlt => exact (h.2.resolve_right (not_not.2 hlt)).symm
  · rfl

variable [DecidableEq κ]

/-- The samples of one key and bucket. -/
def group (k : κ) (b : ℕ) (xs : List α) : List α :=
  xs.filter fun x ↦ S.key x = k ∧ S.bucket x = b

/-- Recompute the aggregates of all groups of samples from before the current bucket. -/
def rollup (T : Table α κ β) (now : ℕ) : Option (Table α κ β) :=
  let closed := T.samples.filter fun x ↦ S.time x < now / S.width * S.width
  if ∀ x ∈ closed, (S.aggregate (S.group (S.key x) (S.bucket x) closed)).isSome then
    some { T with
      rolled := fun k b ↦
        match S.group k b closed with
        | [] => T.rolled k b
        | x :: xs => S.aggregate (x :: xs) }
  else none

/-- A roll-up and the two deletions. -/
def sweep (T : Table α κ β) (w : Sweep) : Option (Table α κ β) :=
  (S.rollup T w.rollupAt).map fun T' ↦
    S.pruneRolled (S.pruneSamples T' w.sampleCutoff) w.rolledCutoff

/-! ### Groups -/

theorem mem_group : x ∈ S.group k b xs ↔ x ∈ xs ∧ S.key x = k ∧ S.bucket x = b := by
  simp [group]

theorem group_append (k : κ) (b : ℕ) (xs ys : List α) :
    S.group k b (xs ++ ys) = S.group k b xs ++ S.group k b ys :=
  filter_append xs ys

theorem group_eq_nil_iff : S.group k b xs = [] ↔ ∀ x ∈ xs, S.key x = k → S.bucket x ≠ b := by
  simp [group]

theorem group_closed (k : κ) (b now : ℕ) (xs : List α) :
    S.group k b (xs.filter fun x ↦ S.time x < now / S.width * S.width) =
      if b < now / S.width then S.group k b xs else [] := by
  have hlt : ∀ x, S.time x < now / S.width * S.width ↔ S.bucket x < now / S.width := fun x ↦
    (Nat.div_lt_iff_lt_mul S.width_pos).symm
  split
  next hb =>
    unfold group
    rw [filter_filter]
    refine filter_congr fun x _ ↦ ?_
    by_cases hx : S.key x = k ∧ S.bucket x = b
    · simp [hx, hlt, hb]
    · simp [hx]
  next hb =>
    refine (S.group_eq_nil_iff).2 fun x hx _ hbx ↦ hb ?_
    obtain ⟨-, htime⟩ := mem_filter.1 hx
    exact hbx ▸ (hlt x).1 (of_decide_eq_true htime)

/-! ### What the operations do to a bucket -/

variable {S} {T T' : Table α κ β} {w : Sweep}

theorem rollup_eq_some (h : S.rollup T w.rollupAt = some T') :
    T'.samples = T.samples ∧ T'.recorded = T.recorded ∧ T'.removed = T.removed ∧
      ∀ k b, T'.rolled k b =
        if b < w.rollupAt / S.width ∧ S.group k b T.samples ≠ [] then
          S.aggregate (S.group k b T.samples)
        else T.rolled k b := by
  simp only [rollup] at h
  split at h
  · cases h
    refine ⟨rfl, rfl, rfl, fun k b ↦ ?_⟩
    dsimp only
    rw [group_closed]
    by_cases hb : b < w.rollupAt / S.width
    · rw [if_pos hb]
      cases S.group k b T.samples <;> simp [hb]
    · simp [hb]
  · cases h

theorem group_pruneSamples (T : Table α κ β) (cutoff : ℕ) (k : κ) (b : ℕ) :
    S.group k b (S.pruneSamples T cutoff).samples =
      (S.group k b T.samples).filter fun x ↦ ¬ S.time x < cutoff := by
  simp only [group, pruneSamples, filter_filter, Bool.and_comm]

/-- A bucket is deleted as a whole or not at all. -/
theorem group_pruneSamples_eq
    (h : ∀ x ∈ S.group k b T.samples, S.time x < cutoff →
      ∀ y ∈ S.group k b T.samples, S.time y < cutoff) :
    S.group k b (S.pruneSamples T cutoff).samples = S.group k b T.samples ∨
      S.group k b (S.pruneSamples T cutoff).samples = [] ∧
        ∃ x ∈ S.group k b T.samples, S.time x < cutoff := by
  rw [group_pruneSamples]
  by_cases hold : ∃ x ∈ S.group k b T.samples, S.time x < cutoff
  · obtain ⟨x, hx, hlt⟩ := hold
    refine .inr ⟨filter_eq_nil_iff.2 fun y hy ↦ ?_, x, hx, hlt⟩
    simpa using h x hx hlt y hy
  · refine .inl (filter_eq_self.2 fun x hx ↦ ?_)
    simpa using fun hlt ↦ hold ⟨x, hx, hlt⟩

/-! ### Final aggregates -/

/-- **Aggregates are final**: the aggregate of a bucket closed at this time and not deleted is that
of all its samples. -/
def Final (S : Scheme α κ β) (T : Table α κ β) (now : ℕ) : Prop :=
  ∀ k b, b < now / S.width → T.removed k b = false → S.group k b T.recorded ≠ [] →
    T.rolled k b = S.aggregate (S.group k b T.recorded)

/-- Nothing was deleted from the bucket of the sample, unless its aggregate was too. -/
def Insertable (S : Scheme α κ β) (T : Table α κ β) (x : α) : Prop :=
  T.removed (S.key x) (S.bucket x) = false →
    S.group (S.key x) (S.bucket x) T.samples = S.group (S.key x) (S.bucket x) T.recorded

/-- A sweep that deletes a sample rolls its bucket up before and deletes the whole bucket. -/
def Sweepable (S : Scheme α κ β) (T : Table α κ β) (w : Sweep) : Prop :=
  ∀ x ∈ T.samples, S.time x < w.sampleCutoff → T.removed (S.key x) (S.bucket x) = false →
    S.bucket x < w.rollupAt / S.width ∧
      ∀ y ∈ T.samples, S.key y = S.key x → S.bucket y = S.bucket x → S.time y < w.sampleCutoff

instance [DecidableEq α] (S : Scheme α κ β) (T : Table α κ β) (x : α) :
    Decidable (S.Insertable T x) :=
  inferInstanceAs (Decidable (_ → _))

instance (S : Scheme α κ β) (T : Table α κ β) (w : Sweep) : Decidable (S.Sweepable T w) :=
  inferInstanceAs (Decidable (∀ x ∈ T.samples, _))

/-- **The invariant**: a bucket has all its samples, or none and a final aggregate. -/
def Sound (S : Scheme α κ β) (T : Table α κ β) : Prop :=
  ∀ k b, T.removed k b = false →
    S.group k b T.samples = S.group k b T.recorded ∨
      S.group k b T.samples = [] ∧ T.rolled k b = S.aggregate (S.group k b T.recorded)

theorem sound_empty : S.Sound Table.empty :=
  fun _ _ _ ↦ .inl rfl

theorem Sound.insert (hT : S.Sound T) (hx : S.Insertable T x) : S.Sound (insert T x) := by
  intro k b hrem
  show S.group k b (T.samples ++ [x]) = S.group k b (T.recorded ++ [x]) ∨ _
  by_cases hkey : S.key x = k ∧ S.bucket x = b
  · obtain ⟨rfl, rfl⟩ := hkey
    left
    rw [group_append, group_append, hx hrem]
  · have hnil : S.group k b [x] = [] := by simp [group, hkey]
    obtain heq | ⟨hemp, hroll⟩ := hT k b hrem
    · left
      rw [group_append, group_append, heq]
    · right
      simp only [Scheme.insert, group_append, hnil, append_nil]
      exact ⟨hemp, hroll⟩

theorem Insertable.insert {y : α} (hy : S.Insertable T y) : S.Insertable (insert T x) y := by
  intro hrem
  simp only [Scheme.insert, group_append, hy hrem]

theorem Sound.rollup (hT : S.Sound T) (h : S.rollup T w.rollupAt = some T') :
    S.Sound T' ∧ S.Final T' w.rollupAt := by
  obtain ⟨hsmp, hrec, hremoved, hroll⟩ := rollup_eq_some h
  refine ⟨fun k b hrem ↦ ?_, fun k b hb hrem hne ↦ ?_⟩ <;> rw [hremoved] at hrem
    <;> rw [hroll, hrec]
  · obtain heq | ⟨hemp, hagg⟩ := hT k b hrem
    · left
      rw [hsmp, heq]
    · right
      rw [hsmp, hemp]
      exact ⟨rfl, by simp [hagg]⟩
  · rw [hrec] at hne
    obtain heq | ⟨hemp, hagg⟩ := hT k b hrem
    · rw [if_pos ⟨hb, heq ▸ hne⟩, heq]
    · simp [hemp, hagg]

theorem Sound.pruneSamples (hT : S.Sound T) (hfin : S.Final T w.rollupAt) (hw : S.Sweepable T w) :
    S.Sound (S.pruneSamples T w.sampleCutoff) := by
  intro k b hrem
  have hwhole : ∀ x ∈ S.group k b T.samples, S.time x < w.sampleCutoff →
      b < w.rollupAt / S.width ∧ ∀ y ∈ S.group k b T.samples, S.time y < w.sampleCutoff := by
    intro x hx hlt
    obtain ⟨hmem, rfl, rfl⟩ := S.mem_group.1 hx
    obtain ⟨hb, hall⟩ := hw x hmem hlt hrem
    refine ⟨hb, fun y hy ↦ ?_⟩
    obtain ⟨hmem', hkey, hbucket⟩ := S.mem_group.1 hy
    exact hall y hmem' hkey hbucket
  obtain heq | ⟨hnil, x, hx, hlt⟩ := group_pruneSamples_eq fun x hx hlt ↦ (hwhole x hx hlt).2
  · rw [heq]
    exact hT k b hrem
  · right
    refine ⟨hnil, ?_⟩
    obtain hall | ⟨hemp, -⟩ := hT k b hrem
    · exact hfin k b (hwhole x hx hlt).1 hrem (hall ▸ ne_nil_of_mem hx)
    · rw [hemp] at hx
      cases hx

/-- **A sweep of whole buckets keeps the invariant, and its aggregates are final.** -/
theorem Sound.sweep (hT : S.Sound T) (hw : S.Sweepable T w) (h : S.sweep T w = some T') :
    S.Sound T' ∧ S.Final T' w.rollupAt := by
  obtain ⟨R, hR, rfl⟩ := Option.map_eq_some_iff.1 h
  obtain ⟨hsnd, hfin⟩ := hT.rollup hR
  obtain ⟨hsmp, -, hremoved, -⟩ := rollup_eq_some hR
  have hw' : S.Sweepable R w := by
    unfold Sweepable
    rw [hsmp, hremoved]
    exact hw
  have hpruned := hsnd.pruneSamples hfin hw'
  refine ⟨fun k b hrem ↦ ?_, fun k b hb hrem hne ↦ ?_⟩
  · obtain ⟨hrem', hroll⟩ := S.removed_of_pruneRolled hrem
    rw [hroll]
    exact hpruned k b hrem'
  · obtain ⟨hrem', hroll⟩ := S.removed_of_pruneRolled hrem
    rw [hroll]
    exact hfin k b hb hrem' hne

end Scheme

end Rollup
