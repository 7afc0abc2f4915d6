import Mathlib.Data.List.Sort
import WartungsRemote.Text.Splitting

/-!
# Queries over one table

What a `SELECT` with a condition, an order, an offset and a limit returns, and how it depends on
rows that are not meant to be seen. A table is the list of its rows. Rows that the order does not
tell apart stay in the order of the table (Postgres promises no order for them). Two tables
**agree** on some rows if these are the same and in the same order. If a condition holds of no other
rows, then tables that agree have the same answer (`Agree.select_eq`, `Agree.count_eq`).

A text that is a parameter of a statement has to be UTF-8 without the character 0 (`param`);
otherwise the statement fails. `ILIKE` is `LIKE` after both sides are put into lower case, character
by character.
-/

namespace Sql

open List

/-! ### Parameters -/

/-- The characters of bytes in UTF-8. The first three arguments are about the character being read:
how many bytes are missing, its bits so far, and the least character of so many bytes. -/
def decode : ℕ → ℕ → ℕ → List UInt8 → Option Text
  | 0, _, _, [] => some []
  | _ + 1, _, _, [] => none
  | 0, _, _, b :: s =>
    if b < 128 then (decode 0 0 0 s).map (Char.ofNat b.toNat :: ·)
    else if 192 ≤ b ∧ b < 224 then decode 1 (b.toNat % 32) 128 s
    else if 224 ≤ b ∧ b < 240 then decode 2 (b.toNat % 16) 2048 s
    else if 240 ≤ b ∧ b < 248 then decode 3 (b.toNat % 8) 65536 s
    else none
  | missing + 1, bits, least, b :: s =>
    let bits := bits * 64 + b.toNat % 64
    if b < 128 ∨ 192 ≤ b then none
    else if 0 < missing then decode missing bits least s
    else if least ≤ bits ∧ bits.isValidChar then (decode 0 0 0 s).map (Char.ofNat bits :: ·)
    else none

/-- The text of a parameter, if the statement accepts it. -/
def param (s : List UInt8) : Option Text :=
  (decode 0 0 0 s).filter fun t ↦ '\x00' ∉ t

/-! ### Patterns -/

/-- `LIKE`. A backslash makes the next character literal. Postgres rejects one at the end of a
pattern. -/
def like : Text → Text → Bool
  | [], t => t.isEmpty
  | '%' :: p, t => t.tails.any (like p)
  | '_' :: p, t =>
    match t with
    | [] => false
    | _ :: t => like p t
  | '\\' :: e :: p, t =>
    match t with
    | [] => false
    | c :: t => e == c && like p t
  | e :: p, t =>
    match t with
    | [] => false
    | c :: t => e == c && like p t

/-- What a pattern says when every wildcard stands for the least it can. -/
def literal : Text → Text
  | [] => []
  | '%' :: p => literal p
  | '_' :: p => '_' :: literal p
  | '\\' :: e :: p => e :: literal p
  | e :: p => e :: literal p

theorem like_literal (p : Text) : like p (literal p) = true := by
  fun_induction literal p with
  | case1 => rfl
  | case2 p ih =>
    refine any_eq_true.2 ⟨literal p, ?_, ih⟩
    exact (mem_tails _ _).2 suffix_rfl
  | case3 _ ih => exact ih
  | case4 _ _ ih => simp [like, ih]
  | case5 _ _ _ _ _ ih => simp [like, ih]

/-- How a database compares texts: the order of its collation, and lower case. -/
structure Collation where
  le : Text → Text → Bool
  lower : Char → Char
  lower_special : ∀ c, ∀ s ∈ ['%', '_', '\\'], lower c = s ↔ c = s

namespace Collation

variable (loc : Collation)

def ilike (p t : Text) : Bool :=
  like (p.map loc.lower) (t.map loc.lower)

theorem lower_of_special {s : Char} (hs : s ∈ ['%', '_', '\\']) : loc.lower s = s :=
  (loc.lower_special s s hs).2 rfl

theorem literal_map_lower (p : Text) : literal (p.map loc.lower) = (literal p).map loc.lower := by
  fun_induction literal p with
  | case1 => rfl
  | case2 _ ih =>
    rw [map_cons, loc.lower_of_special (by simp)]
    exact ih
  | case3 _ ih =>
    rw [map_cons, map_cons, loc.lower_of_special (by simp), ← ih]
    rfl
  | case4 _ _ ih =>
    rw [map_cons, map_cons, map_cons, loc.lower_of_special (by simp), ← ih]
    rfl
  | case5 e _ hpercent hunderscore hbackslash ih =>
    -- lower case makes no special character out of an ordinary one
    rw [map_cons, map_cons, literal, ih]
    · exact fun h ↦ hpercent ((loc.lower_special e _ (by simp)).1 h)
    · exact fun h ↦ hunderscore ((loc.lower_special e _ (by simp)).1 h)
    · intro e' p' h hp
      obtain ⟨c, q, rfl, -⟩ := map_eq_cons_iff.1 hp
      exact hbackslash c q ((loc.lower_special e _ (by simp)).1 h) rfl

theorem ilike_literal (p : Text) : loc.ilike p (literal p) = true := by
  rw [ilike, ← literal_map_lower]
  exact like_literal _

theorem toLower_eq_iff {s : Char} (hs : s ∈ ['%', '_', '\\']) (c : Char) :
    c.toLower = s ↔ c = s := by
  unfold Char.toLower
  split_ifs with hupper
  · -- neither an upper-case letter nor its lower-case letter is special
    have hnot : ∀ n : ℕ, 65 ≤ n ∧ n ≤ 90 ∨ 97 ≤ n ∧ n ≤ 122 → n ≠ s.toNat := by
      simp only [mem_cons, not_mem_nil, or_false] at hs
      rcases hs with rfl | rfl | rfl <;> simp <;> omega
    have hlow : 65 ≤ c.val.toNat := UInt32.le_iff_toNat_le.1 hupper.1
    have hhigh : c.val.toNat ≤ 90 := UInt32.le_iff_toNat_le.1 hupper.2
    constructor
    · intro heq
      refine absurd (congrArg Char.toNat heq) (hnot _ (.inr ?_))
      show 97 ≤ (c.val + 32).toNat ∧ (c.val + 32).toNat ≤ 122
      rw [UInt32.toNat_add, show (32 : UInt32).toNat = 32 from rfl]
      omega
    · intro heq
      exact absurd (congrArg Char.toNat heq) (hnot _ (.inl ⟨hlow, hhigh⟩))
  · rfl

/-- The collation `C`: texts are ordered by their characters; only Latin letters have cases. -/
def posix : Collation where
  le := fun t u ↦ !(u.map Char.toNat).lex (t.map Char.toNat) Nat.blt
  lower := Char.toLower
  lower_special := fun c _ hs ↦ toLower_eq_iff hs c

end Collation

/-! ### Rows -/

section Select

variable {α : Type*}

/-- `SELECT ... WHERE p ORDER BY le OFFSET offset LIMIT limit`. -/
def select (p : α → Bool) (le : α → α → Bool) (offset limit : ℕ) (rows : List α) : List α :=
  (((rows.filter p).insertionSort fun a b ↦ le a b).drop offset).take limit

/-- `SELECT count(*) ... WHERE p`. -/
def count (p : α → Bool) (rows : List α) : ℕ :=
  (rows.filter p).length

/-- Two tables have the same rows of the kind that is visible. -/
def Agree (visible : α → Bool) (rows rows' : List α) : Prop :=
  rows.filter visible = rows'.filter visible

instance [DecidableEq α] (visible : α → Bool) (rows rows' : List α) :
    Decidable (Agree visible rows rows') :=
  inferInstanceAs (Decidable (_ = _))

variable {visible p : α → Bool} {le : α → α → Bool} {offset limit : ℕ} {rows rows' : List α} {a : α}

theorem Agree.filter_eq (h : Agree visible rows rows') (hp : ∀ a, p a = true → visible a = true) :
    rows.filter p = rows'.filter p := by
  have hand : ∀ l : List α, l.filter p = (l.filter visible).filter p := by
    intro l
    rw [filter_filter]
    refine filter_congr fun a _ ↦ ?_
    by_cases hpa : p a = true
    · simp [hpa, hp a hpa]
    · simp [hpa]
  rw [hand rows, hand rows', h]

theorem Agree.select_eq (h : Agree visible rows rows') (hp : ∀ a, p a = true → visible a = true) :
    select p le offset limit rows = select p le offset limit rows' := by
  rw [select, select, h.filter_eq hp]

theorem Agree.count_eq (h : Agree visible rows rows') (hp : ∀ a, p a = true → visible a = true) :
    count p rows = count p rows' := by
  rw [count, count, h.filter_eq hp]

theorem mem_of_mem_select (h : a ∈ select p le offset limit rows) : a ∈ rows ∧ p a = true := by
  have hsort := mem_of_mem_drop (mem_of_mem_take h)
  exact mem_filter.1 ((perm_insertionSort _ _).mem_iff.1 hsort)

theorem le_of_head?_select [Std.Total fun a b ↦ le a b = true] [IsTrans α fun a b ↦ le a b = true]
    (h : (select p le 0 (limit + 1) rows).head? = some a) {b : α} (hb : b ∈ rows) (hp : p b = true)
    (hne : b ≠ a) : le a b = true := by
  have hsorted := pairwise_insertionSort (fun a b ↦ le a b = true) (rows.filter p)
  have hmem : b ∈ (rows.filter p).insertionSort fun a b ↦ le a b :=
    (perm_insertionSort _ _).mem_iff.2 (mem_filter.2 ⟨hb, hp⟩)
  rw [select, drop_zero] at h
  rcases hsort : (rows.filter p).insertionSort fun a b ↦ le a b with _ | ⟨c, _⟩
  · simp [hsort] at h
  · rw [hsort] at hsorted hmem h
    obtain rfl : c = a := by simpa using h
    exact rel_of_pairwise_cons hsorted (mem_of_ne_of_mem hne hmem)

theorem exists_head?_select (ha : a ∈ rows) (hp : p a = true) :
    ∃ b, (select p le 0 (limit + 1) rows).head? = some b := by
  have hmem : a ∈ (rows.filter p).insertionSort fun a b ↦ le a b :=
    (perm_insertionSort _ _).mem_iff.2 (mem_filter.2 ⟨ha, hp⟩)
  rw [select, drop_zero]
  rcases hsort : (rows.filter p).insertionSort fun a b ↦ le a b with _ | ⟨c, _⟩
  · rw [hsort] at hmem
    cases hmem
  · exact ⟨c, rfl⟩

theorem agree_nil_of_hidden (h : ∀ a ∈ rows, visible a = false) : Agree visible [] rows := by
  refine (filter_eq_nil_iff.2 fun a ha ↦ ?_).symm
  simp [h a ha]

theorem select_eq_nil (h : ∀ a ∈ rows, p a = false) : select p le offset limit rows = [] := by
  have hfilter : rows.filter p = [] := filter_eq_nil_iff.2 fun a ha ↦ by simp [h a ha]
  simp [select, hfilter]

theorem select_singleton (h : p a = true) : select p le 0 (limit + 1) [a] = [a] := by
  rw [select, filter_cons_of_pos h]
  simp

theorem count_singleton (h : p a = true) : count p [a] = 1 := by
  rw [count, filter_cons_of_pos h]
  rfl

end Select

end Sql
