import WartungsRemote.Codec.Reading

/-!
# Versions of agents

`monitoring.IsOlderVersion` compares versions of up to three numbers. A version that is malformed is
older than none, and none is older than it. The numbers are `int`s, and nothing keeps a long row of
digits from wrapping around.
-/

namespace WartungsRemote.Monitoring

open Option List

inductive VersionError
  /-- "monitoring: version has too many components". -/
  | tooManyComponents (v : Text)
  /-- "monitoring: empty version component". -/
  | emptyComponent
  /-- "monitoring: invalid version component". -/
  | invalidComponent (s : Text)
  deriving DecidableEq

/-- The digits of a component, after the number read so far. -/
def readDigits (s : Text) : ℤ → Text → Except VersionError ℤ
  | n, [] => .ok n
  | n, c :: t =>
    if c < '0' ∨ '9' < c then .error (.invalidComponent s)
    else readDigits s (Reading.wrap (n * 10 + (c.toNat - 48 : ℕ))) t

def atoiStrict (s : Text) : Except VersionError ℤ :=
  if s = [] then .error .emptyComponent else readDigits s 0 s

/-- The components from the `idx`-th on. -/
def parseComponents (v : Text) : ℕ → List Text → Except VersionError (List ℤ)
  | _, [] => .ok []
  | idx, part :: parts =>
    if 2 < idx then .error (.tooManyComponents v)
    else do
      let n ← atoiStrict part
      let ns ← parseComponents v (idx + 1) parts
      .ok (n :: ns)

/-- `ParseVersion`: components that are missing are 0. -/
def parseVersion (v : Text) : Except VersionError (Fin 3 → ℤ) := do
  let ns ← parseComponents v 0 (v.splitOn '.')
  .ok fun i ↦ ns.getD i 0

def isOlderVersion (version minimum : Text) : Bool :=
  match parseVersion version, parseVersion minimum with
  | .ok vp, .ok mp =>
    if vp 0 ≠ mp 0 then vp 0 < mp 0
    else if vp 1 ≠ mp 1 then vp 1 < mp 1
    else if vp 2 ≠ mp 2 then vp 2 < mp 2
    else false
  | _, _ => false

/-! ### What is compared -/

/-- A run of digits. -/
def Digits (s : Text) : Prop :=
  s ≠ [] ∧ ∀ c ∈ s, ¬ (c < '0' ∨ '9' < c)

/-- One to three runs of digits, with dots between them. -/
def Numeric (v : Text) : Prop :=
  (v.splitOn '.').length ≤ 3 ∧ ∀ part ∈ v.splitOn '.', Digits part

/-- The number that digits stand for, after those read so far. -/
def valueFrom (n : ℕ) (s : Text) : ℕ :=
  s.foldl (fun n c ↦ n * 10 + (c.toNat - 48)) n

def values (v : Text) (i : Fin 3) : ℕ :=
  ((v.splitOn '.').map (valueFrom 0)).getD i 0

/-- The first difference decides. -/
def Before {α : Type} [LT α] (a b : Fin 3 → α) : Prop :=
  a 0 < b 0 ∨ a 0 = b 0 ∧ (a 1 < b 1 ∨ a 1 = b 1 ∧ a 2 < b 2)

instance (s : Text) : Decidable (Digits s) :=
  haveI := decidableBAll (fun c ↦ ¬ (c < '0' ∨ '9' < c)) s
  inferInstanceAs (Decidable (_ ∧ _))

instance (v : Text) : Decidable (Numeric v) :=
  inferInstanceAs (Decidable (_ ∧ _))

instance {α : Type} [LinearOrder α] (a b : Fin 3 → α) : Decidable (Before a b) :=
  inferInstanceAs (Decidable (_ ∨ _))

/-- What the components wrap to is in the same order as the components. -/
def OrderKept (v m : Text) : Prop :=
  Before (fun i ↦ Reading.wrap (values v i)) (fun i ↦ Reading.wrap (values m i)) ↔
    Before (values v) (values m)

/-- It makes no difference that every digit wraps. -/
theorem readDigits_eq_ok_iff {s t : Text} {n : ℕ} {k : ℤ} :
    readDigits s (Reading.wrap n) t = .ok k ↔ (∀ c ∈ t, ¬ (c < '0' ∨ '9' < c)) ∧
      Reading.wrap (valueFrom n t) = k := by
  induction t generalizing n with
  | nil => simp [readDigits, valueFrom]
  | cons c t ih =>
    have hwrap : Reading.wrap (Reading.wrap n * 10 + (c.toNat - 48 : ℕ)) =
        Reading.wrap (n * 10 + (c.toNat - 48) : ℕ) := by
      unfold Reading.wrap
      push_cast
      rw [← Int.bmod_add_bmod, Int.bmod_mul_bmod, Int.bmod_add_bmod]
    rw [readDigits, hwrap, forall_mem_cons]
    split_ifs with hc
    · exact ⟨nofun, fun h ↦ absurd hc h.1.1⟩
    · rw [ih, and_iff_right hc]
      rfl

theorem atoiStrict_eq_ok_iff {s : Text} {k : ℤ} :
    atoiStrict s = .ok k ↔ Digits s ∧ Reading.wrap (valueFrom 0 s) = k := by
  unfold atoiStrict Digits
  split_ifs with hs
  · exact ⟨nofun, fun h ↦ absurd hs h.1.1⟩
  · rw [and_iff_right hs]
    exact readDigits_eq_ok_iff (n := 0)

theorem bind_eq_ok_iff {ε α β : Type} {x : Except ε α} {f : α → Except ε β} {b : β} :
    x >>= f = .ok b ↔ ∃ a, x = .ok a ∧ f a = .ok b := by
  cases x <;> simp [bind, Except.bind]

theorem parseComponents_eq_ok_iff {v : Text} {parts : List Text} {idx : ℕ} {ns : List ℤ}
    (hidx : idx ≤ 3) :
    parseComponents v idx parts = .ok ns ↔ (idx + parts.length ≤ 3 ∧ ∀ part ∈ parts, Digits part) ∧
      parts.map (fun part ↦ Reading.wrap (valueFrom 0 part)) = ns := by
  induction parts generalizing idx ns with
  | nil => simp [parseComponents, hidx]
  | cons part parts ih =>
    rw [parseComponents, forall_mem_cons]
    split_ifs with hlt
    · refine ⟨nofun, fun h ↦ absurd h.1.1 ?_⟩
      simp only [length_cons]
      omega
    · simp only [bind_eq_ok_iff, atoiStrict_eq_ok_iff,
        ih (Nat.succ_le_of_lt (Nat.lt_succ_of_le (Nat.le_of_not_lt hlt))), Except.ok.injEq,
          map_cons, length_cons, Nat.add_right_comm idx 1, ← Nat.add_assoc]
      constructor
      · rintro ⟨_, ⟨hpart, rfl⟩, _, ⟨⟨hlen, hparts⟩, rfl⟩, heq⟩
        exact ⟨⟨hlen, hpart, hparts⟩, heq⟩
      · rintro ⟨⟨hlen, hpart, hparts⟩, heq⟩
        exact ⟨_, ⟨hpart, rfl⟩, _, ⟨⟨hlen, hparts⟩, rfl⟩, heq⟩

theorem parseVersion_eq_ok_iff {v : Text} {ns : Fin 3 → ℤ} :
    parseVersion v = .ok ns ↔ Numeric v ∧ (fun i ↦ Reading.wrap (values v i)) = ns := by
  have hvalues : (fun i : Fin 3 ↦ ((v.splitOn '.').map fun part ↦
      Reading.wrap (valueFrom 0 part)).getD i 0) = fun i ↦ Reading.wrap (values v i) := by
    funext i
    simp only [values, getD_eq_getElem?_getD, getElem?_map]
    cases (v.splitOn '.')[(i : ℕ)]? with
    | none =>
      rw [map_none, map_none, getD_none, getD_none, Nat.cast_zero]
      exact (Reading.wrap_eq_self (by norm_num) (by norm_num)).symm
    | some => rw [map_some, map_some, getD_some, getD_some]
  simp only [parseVersion, bind_eq_ok_iff, parseComponents_eq_ok_iff (Nat.zero_le 3),
    Except.ok.injEq, Nat.zero_add]
  constructor
  · rintro ⟨_, ⟨hnumeric, rfl⟩, rfl⟩
    exact ⟨hnumeric, hvalues.symm⟩
  · rintro ⟨hnumeric, rfl⟩
    exact ⟨_, ⟨hnumeric, rfl⟩, hvalues⟩

/-- Versions are compared by what their components wrap to. -/
theorem isOlderVersion_iff_before {v m : Text} (hv : Numeric v) (hm : Numeric m) :
    isOlderVersion v m = true ↔ Before (fun i ↦ Reading.wrap (values v i)) fun i ↦
      Reading.wrap (values m i) := by
  rw [isOlderVersion, parseVersion_eq_ok_iff.2 ⟨hv, rfl⟩, parseVersion_eq_ok_iff.2 ⟨hm, rfl⟩]
  simp only [Before]
  split_ifs with h₀ h₁ h₂ <;> simp_all

/-- **Version comparison**: what is parsed are one to three numbers, and versions are in their order
if all are below `2 ^ 63`, and otherwise exactly if wrapping happens to keep the order. -/
theorem isOlderVersion_iff_orderKept (v m : Text) : ((∃ ns, parseVersion v = .ok ns) ↔ Numeric v) ∧
    (Numeric v → Numeric m →
      ((∀ i, values v i < 2 ^ 63 ∧ values m i < 2 ^ 63) →
        (isOlderVersion v m = true ↔ Before (values v) (values m))) ∧
      ((isOlderVersion v m = true ↔ Before (values v) (values m)) ↔ OrderKept v m)) := by
  refine ⟨by simp [parseVersion_eq_ok_iff], fun hv hm ↦ ?_⟩
  rw [isOlderVersion_iff_before hv hm]
  refine ⟨fun hlt ↦ ?_, .rfl⟩
  have hself : ∀ {n : ℕ}, n < 2 ^ 63 → Reading.wrap n = n := fun h ↦
    Reading.wrap_eq_self (by omega) (by exact_mod_cast h)
  simp [Before, hself (hlt _).1, hself (hlt _).2]

/-- `2 ^ 63` is taken for a number below 1. -/
theorem not_orderKept_long : Numeric ("9223372036854775808".toList) ∧ Numeric ['1'] ∧
    isOlderVersion "9223372036854775808".toList ['1'] = true ∧
      ¬ Before (values "9223372036854775808".toList) (values ['1']) := by
  decide +kernel

end WartungsRemote.Monitoring
