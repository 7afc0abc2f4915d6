import Mathlib.Data.List.Infix
import Mathlib.Data.Set.Basic

/-!
# Splitting a concatenation back into its parts

When several texts are written one after the other, with nothing between them, the parts can be read
back only if each part says by itself where it ends. It may be a longest block of letters of one
kind (`span_append_inj`); it may be set off by a letter that the block next to it cannot contain,
read from the left (`append_cons_inj_left`) or from the right (`append_cons_inj_right`); or no
possible part is a proper suffix of another one (`SuffixFree`).

A text is a list of characters, and `utf8` are its bytes.
-/

/-- A text, as a list of Unicode scalar values. -/
abbrev Text : Type := List Char

namespace Text

open List

variable {α : Type*} {P : α → Prop} {a a' b b' x x' : List α} {z z' : α}

theorem forall_mem_of_all [DecidablePred P] (h : a.all (P ·) = true) : ∀ c ∈ a, P c := by
  simpa using h

/-! ### Blocks of one kind of letter -/

/-- The longest block of letters of one kind at the start of a list is determined by it. -/
theorem span_append_inj (ha : ∀ c ∈ a, P c) (ha' : ∀ c ∈ a', P c) (hx : ∀ c ∈ x.head?, ¬ P c)
    (hx' : ∀ c ∈ x'.head?, ¬ P c) (h : a ++ x = a' ++ x') : a = a' ∧ x = x' := by
  induction a generalizing a' with
  | nil =>
    cases a' with
    | nil => exact ⟨rfl, h⟩
    | cons d =>
      have hd : d ∈ x.head? := by
        rw [← nil_append x, h]
        simp
      exact absurd (ha' d (by simp)) (hx d hd)
  | cons c _ ih =>
    cases a' with
    | nil =>
      have hc : c ∈ x'.head? := by
        rw [← nil_append x', ← h]
        simp
      exact absurd (ha c (by simp)) (hx' c hc)
    | cons =>
      rw [cons_append, cons_append, cons.injEq] at h
      obtain ⟨rfl, htail⟩ := h
      obtain ⟨rfl, hrest⟩ := ih (fun c hc ↦ ha c (by simp [hc])) (fun c hc ↦
        ha' c (by simp [hc])) htail
      exact ⟨rfl, hrest⟩

/-- A block ends at the first letter that is not of its kind. -/
theorem append_cons_inj_left (ha : ∀ c ∈ a, P c) (ha' : ∀ c ∈ a', P c) (hz : ¬ P z) (hz' : ¬ P z')
    (h : a ++ z :: b = a' ++ z' :: b') : a = a' ∧ z = z' ∧ b = b' := by
  have hx : ∀ c ∈ (z :: b).head?, ¬ P c := by simpa using hz
  have hx' : ∀ c ∈ (z' :: b').head?, ¬ P c := by simpa using hz'
  obtain ⟨rfl, hrest⟩ := span_append_inj ha ha' hx hx' h
  rw [cons.injEq] at hrest
  exact ⟨rfl, hrest⟩

/-- A block at the end of a list starts after the last letter that is not of its kind. -/
theorem append_cons_inj_right (hb : ∀ c ∈ b, P c) (hb' : ∀ c ∈ b', P c) (hz : ¬ P z) (hz' : ¬ P z')
    (h : a ++ z :: b = a' ++ z' :: b') : a = a' ∧ z = z' ∧ b = b' := by
  have hrev : b.reverse ++ z :: a.reverse = b'.reverse ++ z' :: a'.reverse := by
    simpa using congrArg reverse h
  obtain ⟨hbb, hzz, haa⟩ :=
    append_cons_inj_left (by simpa using hb) (by simpa using hb') hz hz' hrev
  exact ⟨reverse_injective haa, hzz, reverse_injective hbb⟩

/-- A letter close to the end of a list is among its last ones, however they are split off. -/
theorem mem_of_append_cons_eq (h : x ++ a = x' ++ z :: b) (hlen : b.length < a.length) : z ∈ a := by
  have hsuf : z :: b <:+ a := by
    have hzb : z :: b <:+ x ++ a := h ▸ suffix_append x' (z :: b)
    exact suffix_of_suffix_length_le hzb (suffix_append x a) hlen
  exact hsuf.mem (by simp)

/-! ### Suffix-free sets -/

/-- No word of the set is a proper suffix of another one. -/
def SuffixFree (C : Set (List α)) : Prop :=
  ∀ u ∈ C, ∀ v ∈ C, u <:+ v → u = v

/-- A word of a suffix-free set can be read off the end of a list. -/
theorem SuffixFree.append_inj {C : Set (List α)} (hC : SuffixFree C) (ha : a ∈ C) (ha' : a' ∈ C)
    (h : x ++ a = x' ++ a') : x = x' ∧ a = a' := by
  have haa : a = a' := by
    have hsuf : a <:+ x' ++ a' := ⟨x, h⟩
    rcases Nat.le_total a.length a'.length with hle | hle
    · exact hC a ha a' ha' (suffix_of_suffix_length_le hsuf (suffix_append x' a') hle)
    · exact (hC a' ha' a ha (suffix_of_suffix_length_le (suffix_append x' a') hsuf hle)).symm
  subst haa
  exact ⟨append_cancel_right h, rfl⟩

/-! ### Bytes -/

/-- The UTF-8 encoding of a text. -/
def utf8 (t : Text) : List UInt8 :=
  t.flatMap String.utf8EncodeChar

theorem utf8_injective : Function.Injective utf8 := by
  intro t t' h
  have hbytes : (String.ofList t).toByteArray = (String.ofList t').toByteArray := by
    simp only [String.toByteArray_ofList, utf8Encode]
    unfold utf8 at h
    rw [h]
  simpa using congrArg String.toList (String.toByteArray_inj.1 hbytes)

end Text
