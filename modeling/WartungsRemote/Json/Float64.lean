import Mathlib.Algebra.Order.Field.Power
import Mathlib.Data.Int.Log
import Mathlib.Data.Rat.Floor
import Mathlib.Tactic.Positivity
import WartungsRemote.Json.Syntax

/-!
# Numbers of double precision, and how they are written

A finite **double** is a rational number that rounds to itself. `nearest` rounds to the nearest
double, ties to the even one, and is undefined beyond the largest one; zero has no sign here.

A double is written with the fewest decimal digits that round back to it. They are found by trying
powers of ten from above: at each of them the neighbouring multiples of the power are the only
candidates (`digitsAt`). Every double is a multiple of `10 ^ -1074`, where the search ends. Whatever
is found rounds back (`nearest_shortest`), so that the written number has the double as its nearest
one (`nearest_value_format`).
-/

namespace Json

open List Option

/-! ### Rounding -/

/-- The nearest integer, the even one if there are two. -/
def roundEven (q : ℚ) : ℤ :=
  if q - ⌊q⌋ < 1 / 2 then ⌊q⌋
  else if 1 / 2 < q - ⌊q⌋ then ⌊q⌋ + 1
  else if ⌊q⌋ % 2 = 0 then ⌊q⌋ else ⌊q⌋ + 1

@[simp]
theorem roundEven_intCast (n : ℤ) : roundEven n = n := by
  simp [roundEven]

@[simp]
theorem roundEven_zero : roundEven 0 = 0 := by
  simpa using roundEven_intCast 0

theorem floor_le_roundEven (q : ℚ) : ⌊q⌋ ≤ roundEven q := by
  unfold roundEven
  split_ifs <;> omega

variable {q a v : ℚ} {d : ℕ}

theorem roundEven_le {n : ℤ} (h : q ≤ n) : roundEven q ≤ n := by
  rcases (Int.floor_le_iff.2 (h.trans_lt (by simp)) : ⌊q⌋ ≤ n).eq_or_lt with hfloor | hlt
  · have hq : q = n := le_antisymm h (hfloor ▸ Int.floor_le q)
    rw [hq, roundEven_intCast]
  · unfold roundEven
    split_ifs <;> omega

/-- The exponent of the unit in the last place. -/
def ulpExponent (a : ℚ) : ℤ :=
  max (Int.log 2 a - 52) (-1074)

/-- Round a nonnegative number to 53 significant bits, as far as the exponent allows. -/
def roundPos (a : ℚ) : ℚ :=
  roundEven (a / 2 ^ ulpExponent a) * 2 ^ ulpExponent a

/-- The nearest double. -/
def nearest (q : ℚ) : Option ℚ :=
  if roundPos |q| < 2 ^ 1024 then some (if q < 0 then -roundPos |q| else roundPos |q|) else none

theorem two_zpow_pos (e : ℤ) : (0 : ℚ) < 2 ^ e :=
  zpow_pos two_pos e

/-- A multiple of a unit that is not too fine for it is not rounded. -/
theorem roundPos_mul_zpow (m e : ℤ) (h : ulpExponent (m * 2 ^ e) ≤ e) :
    roundPos (m * 2 ^ e) = m * 2 ^ e := by
  unfold roundPos
  generalize ulpExponent (m * 2 ^ e) = u at h
  obtain ⟨k, rfl⟩ := Int.le.dest h
  have hquot : (m : ℚ) * 2 ^ (u + k) / 2 ^ u = ((m * 2 ^ k : ℤ) : ℚ) := by
    rw [div_eq_iff (two_zpow_pos _).ne', zpow_add₀ two_ne_zero, zpow_natCast]
    push_cast
    ring
  rw [hquot, roundEven_intCast, ← hquot, div_mul_cancel₀ _ (two_zpow_pos _).ne']

theorem neg_le_ulpExponent (a : ℚ) : -1074 ≤ ulpExponent a :=
  le_max_right _ _

theorem div_lt_of_ulpExponent (a : ℚ) : a / 2 ^ ulpExponent a < 2 ^ (53 : ℤ) := by
  rw [div_lt_iff₀ (two_zpow_pos _), ← zpow_add₀ two_ne_zero]
  refine (Int.lt_zpow_succ_log_self (b := 2) one_lt_two a).trans_le ?_
  have := le_max_left (Int.log 2 a - 52) (-1074)
  refine zpow_le_zpow_right₀ one_le_two ?_
  unfold ulpExponent
  omega

theorem ulpExponent_le {e : ℤ} (ha : 0 < a) (hlt : a < 2 ^ (e + 53)) (he : -1074 ≤ e) :
    ulpExponent a ≤ e := by
  have hlog : Int.log 2 a < e + 53 := (Int.lt_zpow_iff_log_lt one_lt_two ha).1 hlt
  exact max_le (by omega) he

theorem roundPos_nonneg (ha : 0 ≤ a) : 0 ≤ roundPos a := by
  have hquot : 0 ≤ a / 2 ^ ulpExponent a := div_nonneg ha (two_zpow_pos _).le
  have hround : 0 ≤ roundEven (a / 2 ^ ulpExponent a) :=
    (Int.floor_nonneg.2 hquot).trans (floor_le_roundEven _)
  exact mul_nonneg (by exact_mod_cast hround) (two_zpow_pos _).le

/-- A rounded number is not rounded again. The unit changes only if it was rounded up to the next
power of two. -/
theorem roundPos_roundPos (ha : 0 ≤ a) : roundPos (roundPos a) = roundPos a := by
  set e := ulpExponent a with he
  set m := roundEven (a / 2 ^ e) with hm
  have hround : roundPos a = m * 2 ^ e := rfl
  have hmle : m ≤ 2 ^ 53 := roundEven_le (by exact_mod_cast (div_lt_of_ulpExponent a).le)
  rcases (roundPos_nonneg ha).eq_or_lt with hzero | hpos
  · rw [← hzero]
    simpa using roundPos_mul_zpow 0 0 (by simp [ulpExponent])
  rcases hmle.eq_or_lt with htop | hlt
  · have hnext : roundPos a = ((2 ^ 52 : ℤ) : ℚ) * 2 ^ (e + 1) := by
      rw [hround, htop, zpow_add₀ two_ne_zero]
      push_cast
      ring
    rw [hnext] at hpos ⊢
    refine roundPos_mul_zpow _ _ (ulpExponent_le hpos ?_ (by have := neg_le_ulpExponent a; omega))
    rw [zpow_add₀ two_ne_zero (e + 1) 53, mul_comm]
    exact mul_lt_mul_of_pos_left (by norm_num) (two_zpow_pos _)
  · rw [hround] at hpos ⊢
    refine roundPos_mul_zpow _ _ (ulpExponent_le hpos ?_ (neg_le_ulpExponent a))
    rw [zpow_add₀ two_ne_zero e 53, mul_comm]
    refine mul_lt_mul_of_pos_left ?_ (two_zpow_pos _)
    exact_mod_cast hlt

theorem nearest_nearest (h : nearest q = some v) : nearest v = some v := by
  unfold nearest at h
  split_ifs at h with hlt hneg <;> cases h
  · have hnonneg := roundPos_nonneg (abs_nonneg q)
    unfold nearest
    rw [abs_neg, abs_of_nonneg hnonneg, roundPos_roundPos (abs_nonneg q), if_pos hlt]
    rcases hnonneg.eq_or_lt with hzero | hpos
    · simp [← hzero]
    · rw [if_pos (by linarith)]
  · have hnonneg := roundPos_nonneg (abs_nonneg q)
    unfold nearest
    rw [abs_of_nonneg hnonneg, roundPos_roundPos (abs_nonneg q), if_pos hlt,
      if_neg (not_lt.2 hnonneg)]

theorem nearest_neg (q : ℚ) : nearest (-q) = (nearest q).map Neg.neg := by
  unfold nearest
  rw [abs_neg]
  split_ifs with hlt hneg hpos hpos
  · linarith
  · simp
  · simp
  · obtain rfl : q = 0 := by linarith
    simp [roundPos]
  · rfl

/-- A finite number of double precision. -/
@[ext]
structure Float64 where
  val : ℚ
  spec : nearest val = some val

theorem Float64.nearest_abs (f : Float64) : nearest |f.val| = some |f.val| := by
  rcases abs_choice f.val with h | h
  · rw [h, f.spec]
  · rw [h, nearest_neg, f.spec]
    rfl

/-- The nearest double, as such. -/
def toFloat64 (q : ℚ) : Option Float64 :=
  (nearest q).attach.map fun v ↦ ⟨v.1, nearest_nearest v.2⟩

theorem toFloat64_eq_some_iff {f : Float64} : toFloat64 q = some f ↔ nearest q = some f.val := by
  simp only [toFloat64, map_eq_some_iff]
  constructor
  · rintro ⟨⟨v, hv⟩, -, rfl⟩
    exact hv
  · intro h
    exact ⟨⟨f.val, h⟩, by simpa [attach_eq_some_iff] using h, rfl⟩

/-- A positive double is a multiple of each power of ten that is not above its unit. -/
theorem exists_mul_ten_pow_eq (hv : 0 < v) (h : nearest v = some v) {p : ℕ}
    (hp : -(p : ℤ) ≤ ulpExponent v) : ∃ n : ℕ, v * 10 ^ p = n := by
  have hround : v = roundEven (v / 2 ^ ulpExponent v) * 2 ^ ulpExponent v := by
    unfold nearest at h
    split_ifs at h with hlt hneg
    · linarith
    · rw [abs_of_pos hv] at h
      exact (some.inj h).symm
  set m := roundEven (v / 2 ^ ulpExponent v)
  obtain ⟨k, hk⟩ := Int.le.dest hp
  have hint : v * 10 ^ p = ((m * 2 ^ k * 5 ^ p : ℤ) : ℚ) := by
    rw [hround, ← hk, zpow_add₀ two_ne_zero, zpow_neg, zpow_natCast, zpow_natCast,
      show (10 : ℚ) = 2 * 5 by norm_num, mul_pow]
    push_cast
    field_simp
  obtain ⟨n, hn⟩ : ∃ n : ℕ, m * 2 ^ k * 5 ^ p = n := by
    refine ⟨(m * 2 ^ k * 5 ^ p).toNat, (Int.toNat_of_nonneg ?_).symm⟩
    have hpos : (0 : ℚ) ≤ v * 10 ^ p := by positivity
    rw [hint] at hpos
    exact_mod_cast hpos
  exact ⟨n, by rw [hint, hn]; simp⟩

/-! ### The shortest digits -/

/-- The multiple of `10 ^ k` that rounds to `v`, if there is one; the nearest one of two. -/
def digitsAt (v : ℚ) (k : ℤ) : Option ℕ :=
  ([roundEven (v / 10 ^ k), ⌊v / 10 ^ k⌋, ⌈v / 10 ^ k⌉].find?
    fun n : ℤ ↦ nearest (n * 10 ^ k) = some v).map Int.toNat

/-- The digits and exponent of the shortest decimal rounding to `v`, from the exponent `n - 1074`
down. -/
def shortest (v : ℚ) : ℕ → ℕ × ℤ
  | 0 => (⌊v * 10 ^ 1074⌋.toNat, -1074)
  | n + 1 => match digitsAt v ((n + 1 : ℕ) - 1074) with
    | some d => (d, (n + 1 : ℕ) - 1074)
    | none => shortest v n

theorem shortest_zero (v : ℚ) : shortest v 0 = (⌊v * 10 ^ 1074⌋.toNat, -1074) :=
  rfl

theorem shortest_succ (v : ℚ) (n : ℕ) : shortest v (n + 1) =
      ((digitsAt v ((n + 1 : ℕ) - 1074)).map (·, ((n + 1 : ℕ) - 1074 : ℤ))).getD
      (shortest v n) := by
  show (match digitsAt v ((n + 1 : ℕ) - 1074) with
    | some d => (d, ((n + 1 : ℕ) - 1074 : ℤ))
    | none => shortest v n) = _
  cases digitsAt v ((n + 1 : ℕ) - 1074) with
  | none | some => rfl

theorem nearest_digitsAt {k : ℤ} (hv : 0 < v) (h : digitsAt v k = some d) :
    nearest (d * 10 ^ k) = some v := by
  obtain ⟨n, hfind, rfl⟩ := map_eq_some_iff.1 h
  have hquot : 0 ≤ v / 10 ^ k := by positivity
  have hn : 0 ≤ n := by
    have hmem := mem_of_find?_eq_some hfind
    simp only [mem_cons, not_mem_nil, or_false] at hmem
    rcases hmem with rfl | rfl | rfl
    · exact (Int.floor_nonneg.2 hquot).trans (floor_le_roundEven _)
    · exact Int.floor_nonneg.2 hquot
    · exact Int.ceil_nonneg hquot
  have hreads : nearest (n * 10 ^ k) = some v := by
    simpa using find?_some hfind
  rw [show ((n.toNat : ℕ) : ℚ) = (n : ℚ) by exact_mod_cast Int.toNat_of_nonneg hn]
  exact hreads

theorem nearest_shortest (hv : 0 < v) (h : nearest v = some v) (n : ℕ) :
    nearest ((shortest v n).1 * 10 ^ (shortest v n).2) = some v := by
  induction n with
  | zero =>
    obtain ⟨m, hm⟩ := exists_mul_ten_pow_eq hv h (neg_le_ulpExponent v)
    have hback : (m : ℚ) * 10 ^ (-1074 : ℤ) = v := by
      rw [← hm, mul_assoc, ← zpow_natCast, ← zpow_add₀ (by norm_num)]
      simp
    rw [shortest_zero, hm, Int.floor_natCast, Int.toNat_natCast, hback]
    exact h
  | succ n ih =>
    rw [shortest_succ]
    cases hdig : digitsAt v ((n + 1 : ℕ) - 1074) with
    | none => exact ih
    | some => exact nearest_digitsAt hv hdig

theorem shortest_pos (hv : 0 < v) (h : nearest v = some v) (n : ℕ) : 0 < (shortest v n).1 := by
  refine Nat.pos_of_ne_zero fun hzero ↦ ?_
  have hback := nearest_shortest hv h n
  rw [hzero] at hback
  simp [nearest, roundPos] at hback
  linarith

/-! ### Writing a double -/

/-- The decimal digits of a number. -/
abbrev digits (d : ℕ) : Text :=
  Nat.toDigits 10 d

theorem digits_spec (d : ℕ) : Digits (digits d) := fun _ hc ↦
  Nat.isDigit_of_mem_toDigits (by norm_num) (by norm_num) hc

theorem digits_replicate (n : ℕ) : Digits (replicate n '0') := fun c hc ↦ by
  obtain rfl := eq_of_mem_replicate hc
  decide

theorem Digits.append {t u : Text} (ht : Digits t) (hu : Digits u) : Digits (t ++ u) := fun c hc ↦
  (mem_append.1 hc).elim (ht c) (hu c)

theorem head?_digits (hd : 0 < d) : (digits d).head? ≠ some '0' := by
  induction d using Nat.strong_induction_on with
  | _ d ih =>
    rcases Nat.lt_or_ge d 10 with hlt | hge
    · have hdigit : ∀ d < 10, 0 < d → [Nat.digitChar d].head? ≠ some '0' := by decide
      rw [digits, Nat.toDigits_of_lt_base hlt]
      exact hdigit d hlt hd
    · rw [digits, Nat.toDigits_of_base_le (by norm_num) hge,
        head?_append_of_ne_nil _ Nat.toDigits_ne_nil]
      exact ih (d / 10) (by omega) (by omega)

/-- The place of the point among the digits of `d * 10 ^ k`. -/
def point (d : ℕ) (k : ℤ) : ℤ :=
  (digits d).length + k

/-- The number `d * 10 ^ k`, written without an exponent. -/
def fixedNumeral (negative : Bool) (d : ℕ) (k : ℤ) (hd : 0 < d) : Numeral :=
  if 0 ≤ k then
    { negative, int := digits d ++ replicate k.toNat '0', frac := [], exp := none,
      int_ne_nil := by simp [Nat.toDigits_ne_nil]
      int_spec := (digits_spec d).append (digits_replicate _)
      int_head := fun h ↦ by
        rw [head?_append_of_ne_nil _ Nat.toDigits_ne_nil] at h
        exact absurd h (head?_digits hd)
      frac_spec := by simp [Digits] }
  else if h : 0 < point d k then
    { negative, int := (digits d).take (point d k).toNat, frac := (digits d).drop (point d k).toNat,
      exp := none,
      int_ne_nil := by
        simp only [ne_eq, take_eq_nil_iff, not_or]
        exact ⟨by omega, Nat.toDigits_ne_nil⟩
      int_spec := fun c hc ↦ digits_spec d c (mem_of_mem_take hc)
      int_head := fun hhead ↦ by
        rw [head?_take, if_neg (by omega)] at hhead
        exact absurd hhead (head?_digits hd)
      frac_spec := fun c hc ↦ digits_spec d c (mem_of_mem_drop hc) }
  else
    { negative, int := ['0'], frac := replicate (-point d k).toNat '0' ++ digits d, exp := none,
      int_ne_nil := by simp
      int_spec := by decide
      int_head := fun _ ↦ rfl
      frac_spec := (digits_replicate _).append (digits_spec d) }

/-- The number `d * 10 ^ k`, written with one digit before the point and an exponent. -/
def scientificNumeral (negative : Bool) (d : ℕ) (k : ℤ) (hd : 0 < d) : Numeral where
  negative := negative
  int := (digits d).take 1
  frac := (digits d).drop 1
  exp := some
    { upper := false
      sign := some (point d k - 1 < 0)
      digits := digits (point d k - 1).natAbs
      digits_ne_nil := Nat.toDigits_ne_nil
      digits_spec := digits_spec _ }
  int_ne_nil := by simp [Nat.toDigits_ne_nil]
  int_spec := fun c hc ↦ digits_spec d c (mem_of_mem_take hc)
  int_head := fun h ↦ by
    rw [head?_take, if_neg one_ne_zero] at h
    exact absurd h (head?_digits hd)
  frac_spec := fun c hc ↦ digits_spec d c (mem_of_mem_drop hc)

/-- The sign of a number. -/
def signed (negative : Bool) (q : ℚ) : ℚ :=
  if negative then -q else q

theorem Numeral.value_eq_signed (n : Numeral) :
    n.value = signed n.negative ((Nat.ofDigitChars 10 (n.int ++ n.frac) 0 : ℚ) *
      10 ^ ((n.exp.elim 0 Exponent.value) - n.frac.length : ℤ)) := by
  cases hn : n.negative <;> simp [value, signed, hn]

theorem Float64.nearest_signed (f : Float64) (h : nearest q = some |f.val|) :
    nearest (signed (f.val < 0) q) = some f.val := by
  unfold signed
  by_cases hneg : f.val < 0
  · simp [hneg, nearest_neg, h, abs_of_neg hneg]
  · simp [hneg, h, abs_of_nonneg (not_lt.1 hneg)]

theorem value_fixedNumeral (negative : Bool) (d : ℕ) (k : ℤ) (hd : 0 < d) :
    (fixedNumeral negative d k hd).value = signed negative (d * 10 ^ k) := by
  unfold fixedNumeral
  split_ifs with hk hpoint
  · obtain ⟨n, rfl⟩ := Int.eq_ofNat_of_zero_le hk
    rw [Numeral.value_eq_signed]
    simp [Nat.ofDigitChars_append, Nat.ofDigitChars_replicate_zero, mul_comm]
  · rw [Numeral.value_eq_signed]
    simp only [take_append_drop, Nat.ofDigitChars_ten_toDigits, elim_none, length_drop]
    congr 3
    unfold point at hpoint ⊢
    omega
  · rw [Numeral.value_eq_signed]
    simp only [elim_none, length_append, length_replicate,
      Nat.ofDigitChars_append, Nat.ofDigitChars_replicate_zero]
    have hzero : Nat.ofDigitChars 10 ['0'] 0 = 0 := rfl
    rw [hzero, mul_zero, Nat.ofDigitChars_ten_toDigits]
    congr 3
    unfold point at hpoint ⊢
    omega

theorem value_scientificNumeral (negative : Bool) (d : ℕ) (k : ℤ) (hd : 0 < d) :
    (scientificNumeral negative d k hd).value = signed negative (d * 10 ^ k) := by
  have hlen : 0 < (digits d).length := Nat.length_toDigits_pos
  rw [Numeral.value_eq_signed]
  simp only [scientificNumeral, take_append_drop, Nat.ofDigitChars_ten_toDigits,
    elim_some, Exponent.value, length_drop]
  congr 3
  unfold point
  split_ifs with hneg
  · have : (digits d).length + k - 1 < 0 := by simpa using hneg
    omega
  · have : ¬ (digits d).length + k - 1 < 0 := by simpa using hneg
    omega

/-- The bound below which an exponent is written: the double nearest to `10 ^ -6`. -/
def smallBound : ℚ :=
  (nearest (1 / 10 ^ 6)).getD 0

/-- How a double is written: plain between `10 ^ -6` and `10 ^ 21`, with an exponent beyond. -/
def format (f : Float64) : Numeral :=
  if h : f.val = 0 then
    { negative := false, int := ['0'], frac := [], exp := none,
      int_ne_nil := by simp
      int_spec := by decide
      int_head := fun _ ↦ rfl
      frac_spec := by decide }
  else
    have hs : 0 < (shortest |f.val| 1383).1 := shortest_pos (abs_pos.2 h) f.nearest_abs 1383
    if |f.val| < smallBound ∨ 10 ^ 21 ≤ |f.val| then
      scientificNumeral (f.val < 0) (shortest |f.val| 1383).1 (shortest |f.val| 1383).2 hs
    else
      fixedNumeral (f.val < 0) (shortest |f.val| 1383).1 (shortest |f.val| 1383).2 hs

/-- The double that is written is the nearest one to what is written. -/
theorem nearest_value_format (f : Float64) : nearest (format f).value = some f.val := by
  unfold format
  split_ifs with hzero hexp
  · rw [hzero]
    simp [Numeral.value, Nat.ofDigitChars, nearest, roundPos]
  · rw [value_scientificNumeral]
    exact f.nearest_signed (nearest_shortest (abs_pos.2 hzero) f.nearest_abs 1383)
  · rw [value_fixedNumeral]
    exact f.nearest_signed (nearest_shortest (abs_pos.2 hzero) f.nearest_abs 1383)

theorem format_injective : Function.Injective format := by
  intro f g h
  ext
  exact some.inj (by rw [← nearest_value_format f, h, nearest_value_format g])

end Json
