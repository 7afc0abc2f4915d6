import WartungsRemote.Json.Float64

/-!
# Numbers, instants and durations read from a text

`strconv.Atoi`, `time.Parse` with the layout `time.RFC3339`, and `time.ParseDuration`. They are more
lenient than their names suggest. `Atoi` returns a number next to its error: the nearest `int` if
the number is too large, and nothing but 0 if the text is malformed. `Parse` takes an hour of one
digit, a comma before the fraction of a second, and a zone that is 24 hours and 60 minutes off.
`ParseDuration` adds up as many numbers with units as there are, computes with `float64` after a
decimal point, and checks each sum only after it has been taken modulo `2 ^ 64`.

An instant is a number of nanoseconds since 1970 in UTC, and a duration is a number of nanoseconds.
-/

namespace Reading

open List

/-! ### Digits -/

def IsDigit (b : UInt8) : Prop :=
  48 ≤ b ∧ b ≤ 57
  deriving Decidable

def digit (b : UInt8) : ℕ :=
  b.toNat - 48

/-! ### Integers -/

/-- The `int64` that a number wraps to. -/
def wrap (n : ℤ) : ℤ :=
  Int.bmod n 18446744073709551616

/-- How `strconv.ParseUint` ends. -/
inductive Parsed
  | number (n : ℕ)
  | malformed
  | outOfRange

/-- `strconv.ParseUint` with base 10, after its first digits. It stops at the first digit that is
too much. -/
def parseUint : ℕ → List UInt8 → Parsed
  | n, [] => .number n
  | n, b :: s =>
    if ¬ IsDigit b then .malformed
    else if 18446744073709551616 ≤ n * 10 + digit b then .outOfRange
    else parseUint (n * 10 + digit b) s

/-- The sign in front of a number, true for a minus, and the rest. -/
def sign : List UInt8 → Bool × List UInt8
  | 45 :: s => (true, s)
  | 43 :: s => (false, s)
  | s => (false, s)

/-- The number that `strconv.Atoi` returns, whatever its error. -/
def atoi (s : List UInt8) : ℤ :=
  match sign s with
  | (_, []) => 0
  | (negative, digits) =>
    match parseUint 0 digits, negative with
    | .malformed, _ => 0
    | .outOfRange, false => 9223372036854775807
    | .outOfRange, true => -9223372036854775808
    | .number n, false => min n 9223372036854775807
    | .number n, true => max (-n) (-9223372036854775808)

/-- What `strconv.Atoi` returns if it returns no error. -/
def parseInt (s : List UInt8) : Option ℤ :=
  match sign s with
  | (_, []) => none
  | (negative, digits) =>
    match parseUint 0 digits with
    | .number n =>
      if negative then if n ≤ 9223372036854775808 then some (-n) else none
      else if n < 9223372036854775808 then some n else none
    | _ => none

/-- `strconv.Itoa` of a number that is not negative. -/
def itoa (n : ℕ) : List UInt8 :=
  (Nat.toDigits 10 n).map fun c ↦ c.toNat.toUInt8

variable {n : ℕ} {s : List UInt8}

theorem parseUint_append_singleton {m : ℕ} (b : UInt8) (h : parseUint n s = .number m) :
    parseUint n (s ++ [b]) = parseUint m [b] := by
  induction s generalizing n with
  | nil =>
    cases h
    rfl
  | cons a s ih =>
    rw [parseUint] at h
    rw [cons_append, parseUint]
    split_ifs at h ⊢
    exact ih h

theorem parseUint_digitChar {d : ℕ} (hd : d < 10) (h : n * 10 + d < 18446744073709551616) :
    parseUint n [(Nat.digitChar d).toNat.toUInt8] = .number (n * 10 + d) := by
  have hdigit : IsDigit (Nat.digitChar d).toNat.toUInt8 ∧
      digit (Nat.digitChar d).toNat.toUInt8 = d := by
    clear h
    revert d
    decide
  simp [parseUint, hdigit, h]

theorem parseUint_itoa (h : n < 18446744073709551616) : parseUint 0 (itoa n) = .number n := by
  induction n using Nat.strongRecOn with
  | ind n ih =>
    unfold itoa at ih ⊢
    by_cases hlt : n < 10
    · rw [Nat.toDigits_of_lt_base hlt]
      simpa using parseUint_digitChar (n := 0) hlt (by omega)
    · rw [Nat.toDigits_of_base_le (by norm_num) (by omega), map_append, map_singleton,
        parseUint_append_singleton _ (ih (n / 10) (by omega) (by omega)),
        parseUint_digitChar (by omega) (by omega), Nat.div_add_mod']

theorem sign_of_parseUint {m : ℕ} (h : parseUint n s = .number m) : sign s = (false, s) := by
  unfold sign
  split
  · cases h
  · cases h
  · rfl

theorem parseInt_itoa (h : n < 9223372036854775808) : parseInt (itoa n) = some (n : ℤ) := by
  have hparse : parseUint 0 (itoa n) = .number n := parseUint_itoa (by omega)
  have hne : itoa n ≠ [] := by simp [itoa, Nat.toDigits_ne_nil]
  unfold parseInt
  rw [sign_of_parseUint hparse]
  split
  next heq => exact absurd (congrArg Prod.snd heq) hne
  next heq =>
    cases heq
    rw [hparse]
    simp [h]

theorem wrap_eq_self {n : ℤ} (hle : -9223372036854775808 ≤ n) (hlt : n < 9223372036854775808) :
    wrap n = n :=
  Int.bmod_eq_of_le_mul_two (by omega) (by omega)

theorem wrap_lt (n : ℤ) : wrap n < 9223372036854775808 := Int.bmod_lt (by norm_num)

theorem le_wrap (n : ℤ) : -9223372036854775808 ≤ wrap n := Int.le_bmod (by norm_num)

/-! ### Instants -/

/-- The days from 1970-01-01 to a day of the Gregorian calendar. Years begin in March: a leap day is
the last. -/
def daysSinceEpoch (year : ℤ) (month day : ℕ) : ℤ :=
  let y := if month ≤ 2 then year - 1 else year
  365 * y + y / 4 - y / 100 + y / 400 + (153 * ((month + 9) % 12) + 2) / 5 + day - 719469

/-- The first day of a month, with months counted on from March of the year 0. -/
def monthStart (n : ℤ) : ℤ :=
  365 * (n / 12) + n / 12 / 4 - n / 12 / 100 + n / 12 / 400 + (153 * (n % 12) + 2) / 5 - 719468

theorem monthStart_succ_le (n : ℤ) : monthStart (n + 1) ≤ monthStart n + 31 := by
  have hmonth : ∀ r : ℤ, 0 ≤ r → r < 11 → (153 * (r + 1) + 2) / 5 ≤ (153 * r + 2) / 5 + 31 := by
    omega
  rcases lt_or_ge (n % 12) 11 with hr | hr
  · have hyear : (n + 1) / 12 = n / 12 := by omega
    have hnext : (n + 1) % 12 = n % 12 + 1 := by omega
    have := hmonth (n % 12) (Int.emod_nonneg n (by norm_num)) hr
    rw [monthStart, monthStart, hyear, hnext]
    omega
  · -- February is the last month of its year, and the year after has at most 367 days
    have hlast : n % 12 = 11 := by omega
    have hyear : (n + 1) / 12 = n / 12 + 1 := by omega
    have hnext : (n + 1) % 12 = 0 := by omega
    rw [monthStart, monthStart, hyear, hnext, hlast]
    omega

theorem exists_monthStart_le (z : ℤ) : ∃ n, monthStart n ≤ z ∧ z < monthStart n + 31 := by
  have hbound : ∃ b, ∀ n, monthStart n ≤ z → n ≤ b := by
    refine ⟨12 * (|z| + 719469), fun n hn ↦ ?_⟩
    rw [monthStart] at hn
    have := le_abs_self z
    have := abs_nonneg z
    omega
  have hsome : ∃ n, monthStart n ≤ z := by
    refine ⟨12 * (-|z|), ?_⟩
    rw [monthStart]
    have := neg_abs_le z
    have := abs_nonneg z
    omega
  obtain ⟨n, hle, hgreatest⟩ := Int.exists_greatest_of_bdd hbound hsome
  refine ⟨n, hle, ?_⟩
  by_contra hge
  have hsucc := monthStart_succ_le n
  have := hgreatest (n + 1) (by omega)
  omega

theorem exists_daysSinceEpoch_eq (z : ℤ) :
    ∃ (year : ℤ) (month day : ℕ), month ≤ 12 ∧ day ≤ 31 ∧ daysSinceEpoch year month day = z := by
  obtain ⟨n, hle, hlt⟩ := exists_monthStart_le z
  rw [monthStart] at hle hlt
  -- the months from March on are of the same year, the other two of the next
  rcases lt_or_ge (n % 12) 10 with hr | hr
  · refine ⟨n / 12, (n % 12 + 3).toNat, (z - monthStart n + 1).toNat, ?_⟩
    rw [monthStart, daysSinceEpoch]
    omega
  · refine ⟨n / 12 + 1, (n % 12 - 9).toNat, (z - monthStart n + 1).toNat, ?_⟩
    rw [monthStart, daysSinceEpoch]
    omega

def IsLeap (year : ℕ) : Prop :=
  year % 4 = 0 ∧ (year % 100 ≠ 0 ∨ year % 400 = 0)
  deriving Decidable

def daysIn (month year : ℕ) : ℕ :=
  if month = 2 then (if IsLeap year then 29 else 28)
  else if month ∈ [4, 6, 9, 11] then 30 else 31

/-- `getnum`: two digits, or one if the number need not be padded. -/
def getnum (fixed : Bool) : List UInt8 → Option (ℕ × List UInt8)
  | [] => none
  | [a] => if IsDigit a ∧ fixed = false then some (digit a, []) else none
  | a :: b :: s =>
    if ¬ IsDigit a then none
    else if IsDigit b then some (digit a * 10 + digit b, s)
    else if fixed then none
    else some (digit a, b :: s)

/-- `skip` of one byte of the layout. -/
def skip (b : UInt8) : List UInt8 → Option (List UInt8)
  | [] => none
  | c :: s => if c = b then some s else none

/-- A year has four digits. -/
def getyear : List UInt8 → Option (ℕ × List UInt8)
  | a :: b :: c :: d :: s =>
    if [a, b, c, d].all (IsDigit ·) then
      some (((digit a * 10 + digit b) * 10 + digit c) * 10 + digit d, s)
    else none
  | _ => none

/-- A fraction of a second that the layout does not mention, in nanoseconds: a point or a comma and
some digits. Those after the ninth are dropped. -/
def getfraction : List UInt8 → ℕ × List UInt8
  | p :: a :: s =>
    if (p = 46 ∨ p = 44) ∧ IsDigit a then
      let digits := (a :: s).takeWhile (IsDigit ·)
      let first := digits.take 9
      (first.foldl (fun n b ↦ n * 10 + digit b) 0 * 10 ^ (9 - first.length),
        (a :: s).dropWhile (IsDigit ·))
    else (0, p :: a :: s)
  | s => (0, s)

/-- The zone, in seconds east of UTC: `Z`, or a sign, hours, a colon and minutes. -/
def getzone : List UInt8 → Option (ℤ × List UInt8)
  | 90 :: s => some (0, s)
  | c :: a :: b :: 58 :: d :: e :: s => do
    let (hours, _) ← getnum true [a, b]
    let (minutes, _) ← getnum true [d, e]
    if 24 < hours ∨ 60 < minutes then none
    else if c = 43 then some ((hours * 60 + minutes) * 60, s)
    else if c = 45 then some (-((hours * 60 + minutes) * 60), s)
    else none
  | _ => none

/-- `time.Parse` with the layout `time.RFC3339`. -/
def parseRFC3339 (s : List UInt8) : Option ℤ := do
  let (year, s) ← getyear s
  let s ← skip 45 s
  let (month, s) ← getnum true s
  guard (1 ≤ month ∧ month ≤ 12)
  let s ← skip 45 s
  let (day, s) ← getnum true s
  let s ← skip 84 s
  let (hour, s) ← getnum false s
  guard (hour < 24)
  let s ← skip 58 s
  let (minute, s) ← getnum true s
  guard (minute < 60)
  let s ← skip 58 s
  let (second, s) ← getnum true s
  guard (second < 60)
  let (nanoseconds, s) := getfraction s
  let (zone, s) ← getzone s
  guard (s = [] ∧ 1 ≤ day ∧ day ≤ daysIn month year)
  let seconds := ((daysSinceEpoch year month day * 24 + hour) * 60 + minute) * 60 + second - zone
  some (seconds * 1000000000 + nanoseconds)

/-- The zero value of `time.Time`: the first instant of the year 1. -/
def zeroTime : ℤ := -62135596800000000000

/-! ### Durations -/

/-- `unitMap`: the units in nanoseconds, with both ways to write a micro sign. -/
def unitMap (u : List UInt8) : Option ℕ :=
  if u = [110, 115] then some 1
  else if u ∈ [[117, 115], [194, 181, 115], [206, 188, 115]] then some 1000
  else if u = [109, 115] then some 1000000
  else if u = [115] then some 1000000000
  else if u = [109] then some 60000000000
  else if u = [104] then some 3600000000000
  else none

def leadingInt : ℕ → List UInt8 → Option (ℕ × List UInt8)
  | n, [] => some (n, [])
  | n, b :: s =>
    if IsDigit b then
      if 9223372036854775808 < n * 10 + digit b then none else leadingInt (n * 10 + digit b) s
    else some (n, b :: s)

/-- `leadingFraction`: the digits as a number, the power of ten to divide it by, and the rest. All
digits from the first that is too much are dropped. -/
def leadingFraction : Bool → ℕ → ℕ → List UInt8 → ℕ × ℕ × List UInt8
  | _, n, scale, [] => (n, scale, [])
  | overflow, n, scale, b :: s =>
    if IsDigit b then
      if overflow ∨ 922337203685477580 < n ∨ 9223372036854775808 < n * 10 + digit b then
        leadingFraction true n scale s
      else leadingFraction false (n * 10 + digit b) (scale * 10) s
    else (n, scale, b :: s)

/-- The digits after a point, if there is one: their number, its scale and the rest. -/
def pointFraction : List UInt8 → ℕ × ℕ × List UInt8
  | 46 :: s => leadingFraction false 0 1 s
  | s => (0, 1, s)

/-- `uint64(float64(f) * (float64(unit) / scale))`, and nothing if there is no fraction. -/
def fractionOf (f unit scale : ℕ) : Option ℕ :=
  if f = 0 then some 0
  else do
    let f ← Json.nearest f
    let ratio ← Json.nearest (unit / scale)
    let product ← Json.nearest (f * ratio)
    some ⌊product⌋.toNat

/-- A unit is all that stands before the next number. -/
def unitBytes (s : List UInt8) : List UInt8 :=
  s.takeWhile fun b ↦ b ≠ 46 ∧ ¬ IsDigit b

/-- One number with its unit, in nanoseconds. -/
def component (s : List UInt8) : Option (ℕ × List UInt8) := do
  let (v, afterInt) ← leadingInt 0 s
  let (f, scale, afterFraction) := pointFraction afterInt
  -- there is a digit before the point or after it
  guard (afterInt.length < s.length ∨ afterFraction.length + 1 < afterInt.length)
  guard (unitBytes afterFraction ≠ [])
  let unit ← unitMap (unitBytes afterFraction)
  guard (v ≤ 9223372036854775808 / unit)
  let part ← fractionOf f unit scale
  guard (v * unit + part ≤ 9223372036854775808)
  some (v * unit + part, afterFraction.drop (unitBytes afterFraction).length)

theorem length_leadingInt {m : ℕ} {t : List UInt8} (h : leadingInt n s = some (m, t)) :
    t.length ≤ s.length := by
  induction s generalizing n with
  | nil =>
    obtain ⟨-, rfl⟩ := Prod.mk.inj (Option.some.inj h)
    exact le_rfl
  | cons _ _ ih =>
    rw [leadingInt] at h
    split_ifs at h
    · exact (ih h).trans (Nat.le_succ _)
    · obtain ⟨-, rfl⟩ := Prod.mk.inj (Option.some.inj h)
      exact le_rfl

theorem length_leadingFraction (overflow : Bool) (n scale : ℕ) (s : List UInt8) :
    (leadingFraction overflow n scale s).2.2.length ≤ s.length := by
  induction s generalizing overflow n scale with
  | nil => exact le_rfl
  | cons _ _ ih =>
    rw [leadingFraction]
    split_ifs
    · exact (ih _ _ _).trans (Nat.le_succ _)
    · exact (ih _ _ _).trans (Nat.le_succ _)
    · exact le_rfl

theorem length_pointFraction (s : List UInt8) : (pointFraction s).2.2.length ≤ s.length := by
  rw [pointFraction.eq_def]
  split
  · exact (length_leadingFraction ..).trans (Nat.le_succ _)
  · exact le_rfl

theorem length_component {t : List UInt8} {v : ℕ} (h : component s = some (v, t)) :
    t.length < s.length := by
  simp only [component, Option.bind_eq_bind, Option.bind_eq_some_iff] at h
  obtain ⟨⟨_, afterInt⟩, hint, _, -, _, hunit, _, -, _, -, _, -, _, -, heq⟩ := h
  obtain ⟨-, rfl⟩ := Prod.mk.inj (Option.some.inj heq)
  have hfst := length_leadingInt hint
  have hsnd := length_pointFraction afterInt
  have hle : (unitBytes (pointFraction afterInt).2.2).length ≤
      (pointFraction afterInt).2.2.length :=
    (takeWhile_sublist _).length_le
  have hpos : 0 < (unitBytes (pointFraction afterInt).2.2).length := by
    refine length_pos_of_ne_nil fun hnil ↦ ?_
    simp [guard, hnil] at hunit
  show ((pointFraction afterInt).2.2.drop (unitBytes (pointFraction afterInt).2.2).length).length <
    _
  rw [length_drop]
  omega

/-- The sum of all numbers with units, modulo `2 ^ 64`. -/
def components (d : ℕ) (s : List UInt8) : Option ℕ :=
  if s = [] then some d
  else
    match h : component s with
    | none => none
    | some (v, t) =>
      let sum := (d + v) % 18446744073709551616
      if 9223372036854775808 < sum then none else components sum t
termination_by s.length
decreasing_by exact length_component h

def parseDuration (s : List UInt8) : Option ℤ :=
  match sign s with
  | (_, [48]) => some 0
  | (_, []) => none
  | (negative, s) => do
    let d ← components 0 s
    if negative then some (-d)
    else if 9223372036854775807 < d then none
    else some d

/-- `int(d.Hours())` of a duration that is not negative: the quotient in `float64`, truncated. -/
def hours (d : ℕ) : ℤ :=
  let part := (Json.nearest ((d % 3600000000000 : ℕ) / 3600000000000)).getD 0
  ⌊(Json.nearest ((d / 3600000000000 : ℕ) + part)).getD 0⌋

/-- A whole number of hours is not rounded. -/
theorem hours_mul (hpos : 0 < n) (h : n < 2 ^ 53) : hours (n * 3600000000000) = n := by
  have hq : (n : ℚ) < 2 ^ 53 := by exact_mod_cast h
  have hround : Json.roundPos n = n := by
    have hexp : Json.ulpExponent n ≤ 0 :=
      Json.ulpExponent_le (Nat.cast_pos.2 hpos) (by exact_mod_cast hq) (by norm_num)
    simpa using Json.roundPos_mul_zpow n 0 (by simpa using hexp)
  have hn : Json.nearest n = some (n : ℚ) := by
    simp only [Json.nearest, Nat.abs_cast, hround]
    rw [if_pos (hq.trans (pow_lt_pow_right₀ one_lt_two (by norm_num))), if_neg (by simp)]
  simp [hours, hn, show Json.nearest 0 = some 0 by simp [Json.nearest, Json.roundPos]]

end Reading
