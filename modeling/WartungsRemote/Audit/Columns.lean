import Mathlib.Data.List.DropRight
import WartungsRemote.Device.Registry
import WartungsRemote.Json.Float64

/-!
# The texts of audit columns

How the values of the columns of `audit_log` are written into the hash of an entry: a UUID
(`uuid.UUID.String`), a timestamp (`time.RFC3339Nano` of a UTC time with microseconds), and an
address (`host(source_ip)`, as Postgres prints it).

The texts have to be told apart again: a timestamp ends with its only `Z` and determines its fields
(`Timestamp.rfc3339Nano_append_inj`), a UUID has 36 characters and ends with twelve hexadecimal
digits (`uuidString_injective`), and an address has a dot or a colon close to its end
(`Inet.tail_host`).
-/

namespace WartungsRemote.Audit

open List

/-! ### UUIDs -/

/-- The last `w` hexadecimal digits of a number. -/
def hexFixed : ℕ → ℕ → Text
  | 0, _ => []
  | w + 1, n => hexFixed w (n / 16) ++ [Nat.digitChar (n % 16)]

/-- `uuid.UUID.String`. -/
def uuidString (u : UUID) : Text :=
  hexFixed 8 (u.toNat / 16 ^ 24) ++ '-' :: (hexFixed 4 (u.toNat / 16 ^ 20) ++ '-' ::
    (hexFixed 4 (u.toNat / 16 ^ 16) ++ '-' :: (hexFixed 4 (u.toNat / 16 ^ 12) ++ '-' ::
      hexFixed 12 u.toNat)))

@[simp]
theorem length_hexFixed (w n : ℕ) : (hexFixed w n).length = w := by
  induction w generalizing n with
  | zero => rfl
  | succ w ih => simp [hexFixed, ih]

/-- A lower-case hexadecimal digit. -/
def isHexChar (c : Char) : Bool :=
  c.isDigit || ('a' ≤ c && c ≤ 'f')

theorem isHexChar_digitChar {d : ℕ} (hd : d < 16) : isHexChar (Nat.digitChar d) = true := by
  have hall : ∀ d < 16, isHexChar (Nat.digitChar d) = true := by decide
  exact hall d hd

theorem isHexChar_of_mem_hexFixed {w n : ℕ} : ∀ c ∈ hexFixed w n, isHexChar c = true := by
  induction w generalizing n with
  | zero => simp [hexFixed]
  | succ w ih =>
    intro c hc
    rcases mem_append.1 hc with hfst | hlast
    · exact ih c hfst
    · obtain rfl := mem_singleton.1 hlast
      exact isHexChar_digitChar (Nat.mod_lt n (by norm_num))

theorem digitChar_inj {d e : ℕ} (hd : d < 16) (he : e < 16)
    (h : Nat.digitChar d = Nat.digitChar e) : d = e := by
  have hall : ∀ d < 16, ∀ e < 16, Nat.digitChar d = Nat.digitChar e → d = e := by decide
  exact hall d hd e he h

theorem mod_eq_of_hexFixed_eq {w n m : ℕ} (h : hexFixed w n = hexFixed w m) :
    n % 16 ^ w = m % 16 ^ w := by
  induction w generalizing n m with
  | zero => simp [Nat.mod_one]
  | succ w ih =>
    obtain ⟨hfst, hlast⟩ := append_inj' h rfl
    have hdigit : n % 16 = m % 16 := digitChar_inj (Nat.mod_lt _ (by norm_num))
      (Nat.mod_lt _ (by norm_num)) (singleton_inj.1 hlast)
    have hrest := ih hfst
    rw [pow_succ', Nat.mod_mul, Nat.mod_mul, hdigit, hrest]

@[simp]
theorem length_uuidString (u : UUID) : (uuidString u).length = 36 := by
  simp [uuidString]

theorem uuidString_injective : Function.Injective uuidString := by
  intro u v h
  obtain ⟨h₁, h⟩ := append_inj h (by simp)
  obtain ⟨h₂, h⟩ := append_inj (cons.inj h).2 (by simp)
  obtain ⟨h₃, h⟩ := append_inj (cons.inj h).2 (by simp)
  obtain ⟨h₄, h⟩ := append_inj (cons.inj h).2 (by simp)
  have e₁ := mod_eq_of_hexFixed_eq h₁
  have e₂ := mod_eq_of_hexFixed_eq h₂
  have e₃ := mod_eq_of_hexFixed_eq h₃
  have e₄ := mod_eq_of_hexFixed_eq h₄
  have e₅ := mod_eq_of_hexFixed_eq (cons.inj h).2
  have hu := u.isLt
  have hv := v.isLt
  refine BitVec.eq_of_toNat_eq ?_
  norm_num at e₁ e₂ e₃ e₄ e₅ hu hv
  omega

theorem uuidString_eq_append (u : UUID) : ∃ x, uuidString u = x ++ hexFixed 12 u.toNat := by
  refine ⟨hexFixed 8 (u.toNat / 16 ^ 24) ++ '-' :: (hexFixed 4 (u.toNat / 16 ^ 20) ++ '-' ::
    (hexFixed 4 (u.toNat / 16 ^ 16) ++ '-' :: (hexFixed 4 (u.toNat / 16 ^ 12) ++ ['-']))), ?_⟩
  simp [uuidString]

/-! ### Timestamps -/

/-- The fields of a point in time in UTC, to the microsecond. -/
structure Timestamp where
  year : ℤ
  month : ℕ
  day : ℕ
  hour : ℕ
  minute : ℕ
  second : ℕ
  micro : ℕ
  month_le : month ≤ 12
  day_le : day ≤ 31
  hour_lt : hour < 24
  minute_lt : minute < 60
  second_lt : second < 60
  micro_lt : micro < 10 ^ 6
  deriving DecidableEq

/-- `appendInt` of a number that is not negative: at least `w` digits. -/
def pad (w n : ℕ) : Text :=
  replicate (w - (Json.digits n).length) '0' ++ Json.digits n

def appendInt (x : ℤ) (w : ℕ) : Text :=
  if x < 0 then '-' :: pad w x.natAbs else pad w x.natAbs

namespace Timestamp

/-- `appendNano` with trailing zeros removed: nothing if there is no fraction of a second. -/
def fraction (micro : ℕ) : Text :=
  if micro = 0 then [] else '.' :: (pad 9 (micro * 1000)).rdropWhile (· = '0')

def date (t : Timestamp) : Text :=
  appendInt t.year 4 ++ ('-' :: pad 2 t.month ++ '-' :: pad 2 t.day)

def clock (t : Timestamp) : Text :=
  pad 2 t.hour ++ (':' :: (pad 2 t.minute ++ (':' :: (pad 2 t.second ++ fraction t.micro))))

/-- The timestamp without its zone. -/
def body (t : Timestamp) : Text :=
  t.date ++ 'T' :: t.clock

/-- `time.Time.Format` with `time.RFC3339Nano`, of a time in UTC. -/
def rfc3339Nano (t : Timestamp) : Text :=
  t.body ++ ['Z']

end Timestamp

theorem digits_pad (w n : ℕ) : Json.Digits (pad w n) :=
  (Json.digits_replicate _).append (Json.digits_spec n)

theorem ofDigitChars_pad (w n : ℕ) : Nat.ofDigitChars 10 (pad w n) 0 = n := by
  simp [pad, Nat.ofDigitChars_append, Nat.ofDigitChars_replicate_zero]

theorem pad_injective (w : ℕ) : Function.Injective (pad w) := fun n m h ↦ by
  rw [← ofDigitChars_pad w n, h, ofDigitChars_pad]

theorem length_pad {w n : ℕ} (hw : 0 < w) (hn : n < 10 ^ w) : (pad w n).length = w := by
  have hlen : (Json.digits n).length ≤ w := (Nat.length_toDigits_le_iff (by norm_num) hw).2 hn
  simp only [pad, length_append, length_replicate]
  omega

/-- The sign shows, since digits have none. -/
theorem appendInt_injective (w : ℕ) : Function.Injective (appendInt · w) := by
  intro x y h
  have hminus : ∀ n t, pad w n ≠ '-' :: t := by
    intro n t heq
    have := digits_pad w n '-' (by simp [heq])
    simp at this
  change appendInt x w = appendInt y w at h
  unfold appendInt at h
  split_ifs at h with hx hy hy
  · have := pad_injective w (cons.inj h).2
    omega
  · exact absurd h.symm (hminus _ _)
  · exact absurd h (hminus _ _)
  · have := pad_injective w h
    omega

/-- Texts of the same length are the same if they are without the zeros at their end. -/
theorem eq_of_rdropWhile_eq {t t' : Text} (hlen : t.length = t'.length)
    (h : t.rdropWhile (· = '0') = t'.rdropWhile (· = '0')) : t = t' := by
  have hzeros : ∀ t : Text, t.rtakeWhile (· = '0') = replicate (t.rtakeWhile (· = '0')).length
    '0' := fun t ↦ eq_replicate_of_mem fun c hc ↦ by simpa using mem_rtakeWhile_imp hc
  have ht := rdropWhile_append_rtakeWhile (p := (· = '0')) (l := t)
  have ht' := rdropWhile_append_rtakeWhile (p := (· = '0')) (l := t')
  have hcnt : (t.rtakeWhile (· = '0')).length = (t'.rtakeWhile (· = '0')).length := by
    have hsum := congrArg length ht
    have hsum' := congrArg length ht'
    rw [length_append] at hsum hsum'
    rw [h] at hsum
    omega
  rw [← ht, ← ht', h, hzeros t, hzeros t', hcnt]

namespace Timestamp

theorem fraction_inj {m m' : ℕ} (hm : m < 10 ^ 6) (hm' : m' < 10 ^ 6)
    (h : fraction m = fraction m') : m = m' := by
  have hlen : ∀ {m : ℕ}, m < 10 ^ 6 → (pad 9 (m * 1000)).length = 9 := fun h ↦
    length_pad (by norm_num) (by omega)
  unfold fraction at h
  split_ifs at h with hz hz' hz'
  · rw [hz, hz']
  · have hpad : pad 9 (m * 1000) = pad 9 (m' * 1000) :=
      eq_of_rdropWhile_eq ((hlen hm).trans (hlen hm').symm) (cons.inj h).2
    have := pad_injective 9 hpad
    omega

/-- A character of a date or of a clock. -/
def IsChar (c : Char) : Prop :=
  c.isDigit = true ∨ c ∈ ['-', ':', '.']

theorem isChar_pad {w n : ℕ} : ∀ c ∈ pad w n, IsChar c := fun c hc ↦
  Or.inl (digits_pad w n c hc)

theorem isChar_cons {d : Char} {x : Text} (hd : d ∈ ['-', ':', '.']) (hx : ∀ c ∈ x, IsChar c) :
    ∀ c ∈ d :: x, IsChar c := by
  intro c hc
  rcases mem_cons.1 hc with rfl | hmem
  · exact Or.inr hd
  · exact hx c hmem

theorem isChar_append {x y : Text} (hx : ∀ c ∈ x, IsChar c) (hy : ∀ c ∈ y, IsChar c) :
    ∀ c ∈ x ++ y, IsChar c := fun c hc ↦
  (mem_append.1 hc).elim (hx c) (hy c)

theorem isChar_date (t : Timestamp) : ∀ c ∈ t.date, IsChar c := by
  have hyear : ∀ c ∈ appendInt t.year 4, IsChar c := by
    unfold appendInt
    split_ifs
    · exact isChar_cons (by decide) isChar_pad
    · exact isChar_pad
  exact isChar_append hyear
    (isChar_append (isChar_cons (by decide) isChar_pad) (isChar_cons (by decide) isChar_pad))

theorem isChar_clock (t : Timestamp) : ∀ c ∈ t.clock, IsChar c := by
  have hfraction : ∀ c ∈ fraction t.micro, IsChar c := by
    unfold fraction
    split_ifs
    · simp
    · refine isChar_cons (by decide) fun c hc ↦ isChar_pad (w := 9) (n := t.micro * 1000) c ?_
      rw [← rdropWhile_append_rtakeWhile (p := (· = '0')) (l := pad 9 (t.micro * 1000))]
      exact mem_append_left _ hc
  exact isChar_append isChar_pad (isChar_cons (by decide) (isChar_append isChar_pad
    (isChar_cons (by decide) (isChar_append isChar_pad hfraction))))

theorem date_inj {t t' : Timestamp} (h : t.date = t'.date) :
    t.year = t'.year ∧ t.month = t'.month ∧ t.day = t'.day := by
  have hmonth : ∀ t : Timestamp, (pad 2 t.month).length = 2 := fun t ↦
    length_pad (by norm_num) (by have := t.month_le; omega)
  have hday : ∀ t : Timestamp, (pad 2 t.day).length = 2 := fun t ↦
    length_pad (by norm_num) (by have := t.day_le; omega)
  obtain ⟨hyear, hrest⟩ := append_inj' h (by simp [hmonth, hday])
  obtain ⟨hm, hd⟩ := append_inj hrest (by simp [hmonth])
  exact ⟨appendInt_injective 4 hyear, pad_injective 2 (cons.inj hm).2,
    pad_injective 2 (cons.inj hd).2⟩

theorem clock_inj {t t' : Timestamp} (h : t.clock = t'.clock) :
    t.hour = t'.hour ∧ t.minute = t'.minute ∧ t.second = t'.second ∧ t.micro = t'.micro := by
  have htwo : ∀ {n m : ℕ}, n < 60 → m < 60 → (pad 2 n).length = (pad 2 m).length := fun hn hm ↦
    (length_pad (by norm_num) (by omega)).trans (length_pad (by norm_num) (by omega)).symm
  have hh := t.hour_lt
  have hh' := t'.hour_lt
  obtain ⟨hhour, h⟩ := append_inj h (htwo (by omega) (by omega))
  obtain ⟨hminute, h⟩ := append_inj (cons.inj h).2 (htwo t.minute_lt t'.minute_lt)
  obtain ⟨hsnd, h⟩ := append_inj (cons.inj h).2 (htwo t.second_lt t'.second_lt)
  exact ⟨pad_injective 2 hhour, pad_injective 2 hminute, pad_injective 2 hsnd,
    fraction_inj t.micro_lt t'.micro_lt h⟩

/-- A timestamp ends with its first `Z` and determines its fields. -/
theorem rfc3339Nano_append_inj {t t' : Timestamp} {x x' : Text}
    (h : t.rfc3339Nano ++ x = t'.rfc3339Nano ++ x') : t = t' ∧ x = x' := by
  have hT : ¬ IsChar 'T' := by simp [IsChar]
  have hZ : ¬ (IsChar 'Z' ∨ 'Z' = 'T') := by simp [IsChar]
  have hbody : ∀ t : Timestamp, ∀ c ∈ t.body, IsChar c ∨ c = 'T' := by
    intro t c hc
    rcases mem_append.1 hc with hdate | hrest
    · exact Or.inl (t.isChar_date c hdate)
    · exact (mem_cons.1 hrest).symm.imp_left (t.isChar_clock c)
  rw [rfc3339Nano, rfc3339Nano, append_assoc, append_assoc] at h
  obtain ⟨hbodies, -, hx⟩ := Text.append_cons_inj_left (hbody t) (hbody t') hZ hZ h
  obtain ⟨hdate, -, hclock⟩ := Text.append_cons_inj_left t.isChar_date t'.isChar_date hT hT hbodies
  refine ⟨?_, hx⟩
  obtain ⟨hyear, hmonth, hday⟩ := date_inj hdate
  obtain ⟨hhour, hminute, hsnd, hmicro⟩ := clock_inj hclock
  cases t
  cases t'
  simp_all

end Timestamp

/-! ### Addresses -/

/-- A value of the type `inet`: an address and the length of its network mask. -/
inductive Inet
  | v4 (a b c d : UInt8) (bits : Fin 33)
  | v6 (words : Fin 8 → UInt16) (bits : Fin 129)
  deriving DecidableEq

namespace Inet

/-- Four bytes with dots between them. -/
def dotted (a b c d : ℕ) : Text :=
  Json.digits a ++ '.' :: (Json.digits b ++ '.' :: (Json.digits c ++ '.' :: Json.digits d))

/-- The better one of two runs of zero words, given by start and length: the longer one, or the
first of equal ones. -/
def betterRun : Option (ℕ × ℕ) → Option (ℕ × ℕ) → Option (ℕ × ℕ)
  | best, none => best
  | none, some cur => some cur
  | some best, some cur => if best.2 < cur.2 then some cur else some best

/-- The best run of zero words from the word `i` on, given the best one before and this one. -/
def findRun (i : ℕ) (best cur : Option (ℕ × ℕ)) : List UInt16 → Option (ℕ × ℕ)
  | [] => betterRun best cur
  | w :: ws =>
    if w = 0 then findRun (i + 1) best (some (cur.elim (i, 1) fun r ↦ (r.1, r.2 + 1))) ws
    else findRun (i + 1) (betterRun best cur) none ws

/-- The run of zero words that is left out, if one has at least two words. -/
def bestRun (words : Fin 8 → UInt16) : Option (ℕ × ℕ) :=
  (findRun 0 none none (ofFn words)).filter fun r ↦ 2 ≤ r.2

/-- The word `i` is in the run that is left out. -/
def inRun (words : Fin 8 → UInt16) (i : Fin 8) : Bool :=
  (bestRun words).elim false fun r ↦ r.1 ≤ i && (i : ℕ) < r.1 + r.2

/-- What is printed for the word `i`. -/
def piece (words : Fin 8 → UInt16) (i : Fin 8) : Text :=
  if inRun words i then (if (bestRun words).map Prod.fst = some i then [':'] else [])
  else (if i = 0 then [] else [':']) ++ Nat.toDigits 16 (words i).toNat

/-- The last two words are printed as an IPv4 address. -/
def encapsulated (words : Fin 8 → UInt16) : Bool :=
  !inRun words 6 && (bestRun words).elim false fun r ↦
    r.1 = 0 && (r.2 = 6 || (r.2 = 7 && words 7 ≠ 1) || (r.2 = 5 && words 5 = 0xffff))

/-- What is printed for the last word: a run that reaches it ends with a second colon. -/
def lastPiece (words : Fin 8 → UInt16) : Text :=
  piece words 7 ++ if inRun words 7 then [':'] else []

/-- `host`: the address without its mask. -/
def host : Inet → Text
  | v4 a b c d _ => dotted a.toNat b.toNat c.toNat d.toNat
  | v6 words _ =>
    if encapsulated words then
      ([0, 1, 2, 3, 4, 5].flatMap (piece words)) ++ ':' ::
        dotted ((words 6).toNat / 256) ((words 6).toNat % 256) ((words 7).toNat / 256)
          ((words 7).toNat % 256)
    else
      ([0, 1, 2, 3, 4, 5, 6].flatMap (piece words)) ++ lastPiece words

/-- A character of an address. -/
def IsChar (c : Char) : Prop :=
  isHexChar c = true ∨ c ∈ ['.', ':']

instance : DecidablePred IsChar := fun c ↦ by
  unfold IsChar
  infer_instance

theorem isChar_toDigits {b n : ℕ} (hb : 1 < b) (hle : b ≤ 16) :
    ∀ c ∈ Nat.toDigits b n, IsChar c := by
  induction n using Nat.strong_induction_on with
  | _ n ih =>
    rcases Nat.lt_or_ge n b with hlt | hge
    · rw [Nat.toDigits_of_lt_base hlt]
      intro c hc
      obtain rfl := mem_singleton.1 hc
      exact Or.inl (isHexChar_digitChar (by omega))
    · rw [Nat.toDigits_of_base_le hb hge]
      intro c hc
      rcases mem_append.1 hc with hfst | hlast
      · exact ih (n / b) (Nat.div_lt_self (by omega) hb) c hfst
      · obtain rfl := mem_singleton.1 hlast
        exact Or.inl (isHexChar_digitChar ((Nat.mod_lt n (by omega)).trans_le hle))

theorem isChar_dotted {a b c d : ℕ} : ∀ x ∈ dotted a b c d, IsChar x := by
  have hdig : ∀ {n : ℕ}, ∀ x ∈ Json.digits n, IsChar x :=
    isChar_toDigits (by norm_num) (by norm_num)
  have hdot : IsChar '.' := by decide
  intro x hx
  simp only [dotted, mem_append, mem_cons] at hx
  rcases hx with h | rfl | h | rfl | h | rfl | h
  · exact hdig x h
  · exact hdot
  · exact hdig x h
  · exact hdot
  · exact hdig x h
  · exact hdot
  · exact hdig x h

theorem isChar_piece {words : Fin 8 → UInt16} {i : Fin 8} : ∀ x ∈ piece words i, IsChar x := by
  have hcolon : ∀ x ∈ [':'], IsChar x := Text.forall_mem_of_all (by decide)
  intro x hx
  unfold piece at hx
  split_ifs at hx
  · exact hcolon x hx
  · simp at hx
  · exact isChar_toDigits (b := 16) (by norm_num) (by norm_num) x (by simpa using hx)
  · rcases mem_append.1 hx with h | h
    · exact hcolon x h
    · exact isChar_toDigits (by norm_num) (by norm_num) x h

theorem isChar_host : ∀ (ip : Inet), ∀ x ∈ ip.host, IsChar x
  | v4 .. => isChar_dotted
  | v6 words _ => by
    have hcolon : ∀ x ∈ [':'], IsChar x := Text.forall_mem_of_all (by decide)
    have hpieces : ∀ {l : List (Fin 8)}, ∀ x ∈ l.flatMap (piece words), IsChar x := by
      intro l x hx
      obtain ⟨i, -, hi⟩ := mem_flatMap.1 hx
      exact isChar_piece x hi
    have hlast : ∀ x ∈ lastPiece words, IsChar x := by
      intro x hx
      rcases mem_append.1 hx with h | h
      · exact isChar_piece x h
      · split_ifs at h
        · exact hcolon x h
        · simp at h
    intro x hx
    rw [host] at hx
    split_ifs at hx
    · rcases mem_append.1 hx with h | h
      · exact hpieces x h
      · rcases mem_cons.1 h with rfl | h
        · decide
        · exact isChar_dotted x h
    · exact (mem_append.1 hx).elim (hpieces x) (hlast x)

/-- The text ends with a dot or a colon and at most four characters. -/
def Tail (t : Text) : Prop :=
  ∃ x z y, t = x ++ z :: y ∧ z ∈ ['.', ':'] ∧ y.length ≤ 4

theorem Tail.append {t : Text} (h : Tail t) (u : Text) : Tail (u ++ t) := by
  obtain ⟨x, z, y, rfl, hz, hy⟩ := h
  exact ⟨u ++ x, z, y, (append_assoc u x _).symm, hz, hy⟩

theorem tail_dotted {a b c d : ℕ} (hd : d < 256) : Tail (dotted a b c d) := by
  have hlen : (Json.digits d).length ≤ 3 :=
    (Nat.length_toDigits_le_iff (by norm_num) (by norm_num)).2 (by omega)
  refine ⟨Json.digits a ++ '.' :: (Json.digits b ++ '.' :: Json.digits c), '.', Json.digits d,
    ?_, by decide, by omega⟩
  simp [dotted]

theorem tail_lastPiece (words : Fin 8 → UInt16) : Tail (lastPiece words) := by
  unfold lastPiece
  cases hrun : inRun words 7 with
  | true => exact ⟨piece words 7, ':', [], by simp, by decide, by simp⟩
  | false =>
    have hlen : (Nat.toDigits 16 (words 7).toNat).length ≤ 4 :=
      (Nat.length_toDigits_le_iff (by norm_num) (by norm_num)).2 (words 7).toNat_lt
    exact ⟨[], ':', _, by simp [piece, hrun], by decide, hlen⟩

/-- An address has a dot or a colon close to its end. -/
theorem tail_host : ∀ ip : Inet, Tail ip.host
  | v4 _ _ _ d _ => tail_dotted d.toNat_lt
  | v6 words _ => by
    rw [host]
    split_ifs
    · rw [append_cons]
      exact (tail_dotted (Nat.mod_lt _ (by norm_num))).append _
    · exact (tail_lastPiece words).append _

end Inet

end WartungsRemote.Audit
