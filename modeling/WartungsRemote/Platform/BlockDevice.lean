import WartungsRemote.AgentRelease.Sync

/-!
# The disk of a partition

`isRemovableDevice` of `internal/platform/linux/linux.go` looks up `/sys/block/<disk>/removable`,
where the name of the disk is that of the device without what matches `(p?\d+)$`. **One pattern
serves all naming schemes**: it also takes the number of a whole disk that is numbered, and the `p`
of a disk that is lettered (`base_eq_wholeDisk_iff`).
-/

namespace WartungsRemote.Platform

open List
open AgentRelease (trimStart trimSpace)

def digits (t : Text) : Bool :=
  t ≠ [] && t.all Char.isDigit

/-- The text as a whole matches `p?\d+`. -/
def partitionSuffix (t : Text) : Bool :=
  digits t || t.head? = some 'p' && digits t.tail

/-- `partitionSuffix.ReplaceAllString(name, "")`: the leftmost match goes up to the end. -/
def withoutSuffix : Text → Text
  | [] => []
  | c :: rest => if partitionSuffix (c :: rest) then [] else c :: withoutSuffix rest

def devDir : Text :=
  ['/', 'd', 'e', 'v', '/']

/-- The name looked up, if one is. -/
def base (devicePath : Text) : Option Text :=
  let name := trimStart devDir devicePath
  if name = [] ∨ name = devicePath then none else some (withoutSuffix name)

def isRemovableDevice (readFile : Text → Option Text) (devicePath : Text) : Bool :=
  match base devicePath with
  | none => false
  | some base =>
    match readFile ("/sys/block/".toList ++ base ++ "/removable".toList) with
    | none => false
    | some data => trimSpace data = ['1']

/-! ### The names of block devices -/

structure Letters where
  val : Text
  ne_nil : val ≠ []
  isAlpha : ∀ c ∈ val, c.isAlpha = true

inductive BlockDevice
  | sd (letters : Letters)
  | sdPart (letters : Letters) (n : ℕ)
  | nvme (c ns : ℕ)
  | nvmePart (c ns n : ℕ)
  | mmcblk (d : ℕ)
  | mmcblkPart (d n : ℕ)
  | sr (d : ℕ)

namespace BlockDevice

/-- The name without the partition. -/
def wholeDisk : BlockDevice → Text
  | .sd letters | .sdPart letters _ => ['s', 'd'] ++ letters.val
  | .nvme c ns | .nvmePart c ns _ =>
    ['n', 'v', 'm', 'e'] ++ Nat.toDigits 10 c ++ 'n' :: Nat.toDigits 10 ns
  | .mmcblk d | .mmcblkPart d _ => ['m', 'm', 'c', 'b', 'l'] ++ 'k' :: Nat.toDigits 10 d
  | .sr d => ['s'] ++ 'r' :: Nat.toDigits 10 d

def name (v : BlockDevice) : Text :=
  match v with
  | .sdPart _ n => v.wholeDisk ++ Nat.toDigits 10 n
  | .nvmePart _ _ n | .mmcblkPart _ n => v.wholeDisk ++ 'p' :: Nat.toDigits 10 n
  | .sd _ | .nvme _ _ | .mmcblk _ | .sr _ => v.wholeDisk

/-- A disk without a number whose partition is not taken for `p<n>`, or a partition `p<n>`. -/
def Separable : BlockDevice → Prop
  | .sd _ | .nvmePart _ _ _ | .mmcblkPart _ _ => True
  | .sdPart letters _ => letters.val.getLast? ≠ some 'p'
  | .nvme _ _ | .mmcblk _ | .sr _ => False

end BlockDevice

/-! ### What the pattern takes -/

variable {a b : Text} {c : Char}

theorem digits_toDigits (n : ℕ) : digits (Nat.toDigits 10 n) = true := by
  have hall : ∀ c ∈ Nat.toDigits 10 n, c.isDigit = true :=
    fun c hc ↦ Nat.isDigit_of_mem_toDigits (by decide) (by decide) hc
  simpa [digits, Nat.toDigits_ne_nil] using hall

theorem withoutSuffix_append (hc : c ∈ b) (hdigit : c.isDigit = false) :
    withoutSuffix (a ++ b) = a ++ withoutSuffix b := by
  induction a with
  | nil => rfl
  | cons x a ih =>
    have hrest : (a ++ b).all Char.isDigit = false :=
      all_eq_false.2 ⟨c, mem_append_right a hc, by simp [hdigit]⟩
    have hno : partitionSuffix (x :: (a ++ b)) = false := by
      simp only [partitionSuffix, digits, tail_cons, all_cons, hrest, Bool.and_false, Bool.or_false]
    rw [cons_append, withoutSuffix, hno, ih]
    rfl

/-- After a character that is no digit the pattern takes the number, and the character if it is a
`p`. -/
theorem withoutSuffix_number (hdigit : c.isDigit = false) (n : ℕ) :
    withoutSuffix (a ++ c :: Nat.toDigits 10 n) = a ++ if c = 'p' then [] else [c] := by
  have hn := digits_toDigits n
  have hrest : withoutSuffix (Nat.toDigits 10 n) = [] := by
    cases hd : Nat.toDigits 10 n with
    | nil => rfl
    | cons =>
      rw [hd] at hn
      simp [withoutSuffix, partitionSuffix, hn]
  have hall : digits (c :: Nat.toDigits 10 n) = false := by simp [digits, hdigit]
  have hsuffix : partitionSuffix (c :: Nat.toDigits 10 n) = decide (c = 'p') := by
    simp [partitionSuffix, hall, hn]
  rw [withoutSuffix_append mem_cons_self hdigit, withoutSuffix, hrest, hsuffix]
  simp only [decide_eq_true_eq]

theorem withoutSuffix_letter (hdigit : c.isDigit = false) :
    withoutSuffix (a ++ [c]) = a ++ [c] := by
  rw [withoutSuffix_append mem_cons_self hdigit]
  simp [withoutSuffix, partitionSuffix, digits, hdigit]

theorem base_devDir (h : a ≠ []) : base (devDir ++ a) = some (withoutSuffix a) := by
  have hname : trimStart devDir (devDir ++ a) = a := by
    rw [trimStart, if_pos (by simp), drop_left]
  have hne : a ≠ devDir ++ a := ne_of_apply_ne length (by rw [length_append]; simp [devDir])
  simp only [base, hname, h, hne, or_self, if_false]

/-- The number of a disk is taken away. -/
theorem withoutSuffix_number_ne (hdigit : c.isDigit = false) (hc : c ≠ 'p') (n : ℕ) :
    withoutSuffix (a ++ c :: Nat.toDigits 10 n) ≠ a ++ c :: Nat.toDigits 10 n := by
  rw [withoutSuffix_number hdigit, if_neg hc]
  intro h
  exact Nat.toDigits_ne_nil (cons.inj (append_cancel_left h)).2.symm

theorem Letters.eq_append_singleton (letters : Letters) :
    ∃ init last, letters.val = init ++ [last] ∧ last.isDigit = false := by
  refine ⟨_, _, (dropLast_append_getLast letters.ne_nil).symm, ?_⟩
  have halpha := letters.isAlpha _ (getLast_mem letters.ne_nil)
  unfold Char.isAlpha Char.isUpper Char.isLower at halpha
  grind [Char.isDigit]

namespace BlockDevice

theorem name_ne_nil (v : BlockDevice) : v.name ≠ [] := by
  cases v <;> simp [name, wholeDisk]

/-- **The disk is found exactly for the separable names.** -/
theorem base_eq_wholeDisk_iff (v : BlockDevice) :
    base (devDir ++ v.name) = some v.wholeDisk ↔ v.Separable := by
  rw [base_devDir v.name_ne_nil, Option.some.injEq]
  cases v with
  | sd letters =>
    obtain ⟨init, last, hval, hlast⟩ := letters.eq_append_singleton
    refine iff_of_true ?_ trivial
    rw [name, wholeDisk, hval, ← append_assoc]
    exact withoutSuffix_letter hlast
  | sdPart letters n =>
    obtain ⟨init, last, hval, hlast⟩ := letters.eq_append_singleton
    rw [name, wholeDisk, hval, ← append_assoc, append_assoc, singleton_append,
      withoutSuffix_number hlast, append_cancel_left_eq, Separable, hval, getLast?_concat]
    simp
  | nvmePart _ _ n | mmcblkPart _ n =>
    refine iff_of_true ?_ trivial
    exact (withoutSuffix_number rfl n).trans (append_nil _)
  | nvme _ n | mmcblk n | sr n =>
    exact iff_of_false (withoutSuffix_number_ne rfl (by decide) n) not_false

/-- Nothing is known of a memory card: its number is taken for a partition. -/
theorem base_mmcblk0 : ¬ ∀ v : BlockDevice, base (devDir ++ v.name) = some v.wholeDisk := by
  intro h
  exact absurd (h (.mmcblk 0)) (by decide)

end BlockDevice

end WartungsRemote.Platform
