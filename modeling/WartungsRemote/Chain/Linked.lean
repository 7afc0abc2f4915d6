import Mathlib.Data.List.Nodup

/-!
# Linked lists of records

Every record has a **key** and names the key of another one. A list is linked from a key `k` if its
first record names `k` and every other record names the key of the record before it (`Linked`); a
further record would have to name `lastKey`. If the keys are distinct, a linked list that is made of
records of `l`, in any order and with any repetition, is the beginning of `l`
(`Linked.isPrefix_of_subset`).
-/

namespace Chain

open List

variable {α β κ : Type*} (key prev : α → κ)

/-- The first record names `k`, and every other one the key of the record before it. -/
def Linked : κ → List α → Prop
  | _, [] => True
  | k, a :: l => prev a = k ∧ Linked (key a) l

/-- The key that a record after the list has to name. -/
def lastKey (k : κ) (l : List α) : κ :=
  (l.getLast?.map key).getD k

@[simp]
theorem linked_nil (k : κ) : Linked key prev k [] := trivial

@[simp]
theorem linked_cons {k : κ} {a : α} {l : List α} :
    Linked key prev k (a :: l) ↔ prev a = k ∧ Linked key prev (key a) l := Iff.rfl

@[simp]
theorem lastKey_nil (k : κ) : lastKey key k [] = k := rfl

@[simp]
theorem lastKey_cons (k : κ) (a : α) (l : List α) :
    lastKey key k (a :: l) = lastKey key (key a) l := by
  cases l with
  | nil => rfl
  | cons => rw [lastKey, lastKey, getLast?_cons_cons, getLast?_cons]; rfl

theorem lastKey_concat (k : κ) (l : List α) (a : α) : lastKey key k (l ++ [a]) = key a := by
  simp [lastKey]

variable {key prev}

theorem linked_append {k : κ} {l m : List α} :
    Linked key prev k (l ++ m) ↔ Linked key prev k l ∧ Linked key prev (lastKey key k l) m := by
  induction l generalizing k with
  | nil => simp
  | cons _ _ ih => simp [ih, and_assoc]

theorem linked_concat {k : κ} {l : List α} {a : α} :
    Linked key prev k (l ++ [a]) ↔ Linked key prev k l ∧ prev a = lastKey key k l := by
  simp [linked_append]

theorem linked_map (f : β → α) {k : κ} {l : List β} :
    Linked key prev k (l.map f) ↔ Linked (key ∘ f) (prev ∘ f) k l := by
  induction l generalizing k with
  | nil => simp
  | cons _ _ ih => simp [ih]

/-! ### Distinct keys -/

variable (key) in
theorem lastKey_eq_getElem (k : κ) (l m : List α) :
    (k :: (l ++ m).map key)[l.length]? = some (lastKey key k l) := by
  induction l generalizing k with
  | nil => simp
  | cons a _ ih => simpa using ih (key a)

/-- With distinct keys, the last key shows where a list was cut. -/
theorem append_inj_of_lastKey {k : κ} {l l' m m' : List α} (h : l ++ m = l' ++ m')
    (hnd : (k :: (l ++ m).map key).Nodup) (hkey : lastKey key k l = lastKey key k l') :
    l = l' ∧ m = m' := by
  refine append_inj h ?_
  have hl := lastKey_eq_getElem key k l m
  have hl' := lastKey_eq_getElem key k l' m'
  rw [← h, ← hkey] at hl'
  have hlt : l.length < (k :: (l ++ m).map key).length := by
    simp only [length_cons, length_map, length_append]
    omega
  exact (getElem?_inj hlt hnd).1 (hl.trans hl'.symm)

/-- With distinct keys, only the record after a beginning of the list names its last key. -/
theorem Linked.eq_cons_of_prev {k : κ} {pre post : List α} {a : α}
    (hlink : Linked key prev k (pre ++ post)) (hnd : (k :: (pre ++ post).map key).Nodup)
    (hmem : a ∈ pre ++ post) (hprev : prev a = lastKey key k pre) : ∃ rest, post = a :: rest := by
  obtain ⟨before, rest, hsplit⟩ := append_of_mem hmem
  have hbef : prev a = lastKey key k before := by
    rw [hsplit, linked_append, linked_cons] at hlink
    exact hlink.2.1
  exact ⟨rest, (append_inj_of_lastKey hsplit hnd (hprev.symm.trans hbef)).2⟩

/-- **Records of a linked list with distinct keys are linked in their order only.** -/
theorem Linked.isPrefix_of_subset {k : κ} {l l' : List α} (hl : Linked key prev k l)
    (hnd : (k :: l.map key).Nodup) (hl' : Linked key prev k l') (hsub : l' ⊆ l) : l' <+: l := by
  suffices h : ∀ pre post, l = pre ++ post → Linked key prev (lastKey key k pre) l' →
    l' <+: post from h [] l rfl hl'
  clear hl'
  -- the records that are already placed are `pre`, and the next one has to be the first of `post`
  induction l' with
  | nil => exact fun _ _ _ _ ↦ nil_prefix
  | cons a l' ih =>
    rintro pre post rfl ⟨hprev, hrest⟩
    obtain ⟨rest, rfl⟩ := hl.eq_cons_of_prev hnd (hsub (by simp)) hprev
    have htail : l' <+: rest := by
      refine ih (fun b hb ↦ hsub (by simp [hb])) (pre ++ [a]) rest (by simp) ?_
      rwa [lastKey_concat]
    exact (prefix_cons_inj a).2 htail

end Chain
