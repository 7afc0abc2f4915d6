import Mathlib.Data.List.Basic
import Mathlib.Data.Option.Basic

/-!
# Names, files and open files

A small model of the part of a POSIX file system that **write to a temporary name, then rename**
relies on: names lead to files, files hold bytes, and an open file keeps its file and its own offset
whatever happens to the names. Two opens of one name share the file but not the offset, truncation
acts on the file, and a rename moves a name in one step.

The type of names is arbitrary. Failures are not part of the operations: a caller that models a
failing call leaves the state alone. Names are the only way to a file here — no links — and the
structure carries that as a field, so every operation has to keep it.

`Wrote fs p f bytes` is what a writer knows who opened `p` and has been alone with it. The rules
`wrote_openTrunc` and `Wrote.write` establish and extend it; the others say that operations on other
names keep it.
-/

namespace Posix

open Option

variable {π : Type*}

/-- The identity of a file: it was there at the start, under this name, or was created later. -/
inductive Inode (π : Type*)
  | initial (p : π)
  | created (n : ℕ)
  deriving DecidableEq

/-- A flat file system without links. -/
structure FileSystem (π : Type*) where
  dir : π → Option (Inode π)
  data : Inode π → List UInt8
  /-- How many files have been created. -/
  created : ℕ
  /-- A file has at most one name. -/
  dir_inj : ∀ p q i, dir p = some i → dir q = some i → p = q
  /-- A named file exists. -/
  dir_lt : ∀ p n, dir p = some (.created n) → n < created

/-- An open file description. -/
structure File (π : Type*) where
  inode : Inode π
  offset : ℕ
  deriving DecidableEq

/-- What a write of `bytes` at `offset` makes of a file; a hole reads as zeros. -/
def splice (old : List UInt8) (offset : ℕ) (bytes : List UInt8) : List UInt8 :=
  old.take offset ++ List.replicate (offset - old.length) 0 ++ bytes ++
    old.drop (offset + bytes.length)

theorem splice_length (old bytes : List UInt8) : splice old old.length bytes = old ++ bytes := by
  simp [splice]

namespace FileSystem

/-- The file system that holds exactly these files. -/
def ofFiles (files : π → Option (List UInt8)) : FileSystem π where
  dir p := (files p).map fun _ ↦ .initial p
  data
    | .initial p => (files p).getD []
    | .created _ => []
  created := 0
  dir_inj p q i hp hq := by
    obtain ⟨-, -, rfl⟩ := map_eq_some_iff.1 hp
    obtain ⟨-, -, h⟩ := map_eq_some_iff.1 hq
    exact (Inode.initial.inj h).symm
  dir_lt p n hp := by
    obtain ⟨-, -, h⟩ := map_eq_some_iff.1 hp
    cases h

/-- What a reader of `p` gets. -/
def content (fs : FileSystem π) (p : π) : Option (List UInt8) :=
  (fs.dir p).map fs.data

variable {fs : FileSystem π} {p : π}

theorem content_eq_none_iff : fs.content p = none ↔ fs.dir p = none :=
  map_eq_none_iff

@[simp] theorem content_ofFiles (files : π → Option (List UInt8)) (p : π) :
    (ofFiles files).content p = files p := by
  cases h : files p <;> simp [content, ofFiles, h]

/-- The open file that an open of `p` returns; `truncate` is its effect on the file. -/
def opened (fs : FileSystem π) (p : π) : File π where
  inode := (fs.dir p).getD (.created fs.created)
  offset := 0

theorem opened_inode_ne {q : π} (hqp : q ≠ p) {i : Inode π} (hq : fs.dir q = some i) :
    i ≠ (fs.opened p).inode := by
  rintro rfl
  cases hp : fs.dir p with
  | some j =>
    simp only [opened, hp, getD_some] at hq
    exact hqp (fs.dir_inj q p j hq hp)
  | none =>
    simp only [opened, hp, getD_none] at hq
    exact Nat.lt_irrefl _ (fs.dir_lt q _ hq)

/-- `f` is open on the file named `p`; the file holds `bytes`, and `f` is at their end. -/
structure Wrote (fs : FileSystem π) (p : π) (f : File π) (bytes : List UInt8) : Prop where
  dir : fs.dir p = some f.inode
  data : fs.data f.inode = bytes
  offset : f.offset = bytes.length

theorem Wrote.content {f : File π} {bytes : List UInt8} (h : fs.Wrote p f bytes) :
    fs.content p = some bytes := by
  rw [FileSystem.content, h.dir, map_some, h.data]

variable [DecidableEq π]

/-- Truncate the file named `p`, or create it. -/
def truncate (fs : FileSystem π) (p : π) : FileSystem π :=
  match hp : fs.dir p with
  | some i => { fs with data := Function.update fs.data i [] }
  | none =>
    { dir := Function.update fs.dir p (some (.created fs.created))
      data := Function.update fs.data (.created fs.created) []
      created := fs.created + 1
      dir_inj := fun q q' i hq hq' ↦ by
        have hnew : ∀ q, fs.dir q ≠ some (.created fs.created) := fun q h ↦
          Nat.lt_irrefl _ (fs.dir_lt q _ h)
        by_cases hqp : q = p <;> by_cases hqp' : q' = p
        · exact hqp.trans hqp'.symm
        · subst hqp
          simp only [Function.update_self, Function.update_of_ne hqp'] at hq hq'
          exact absurd (hq'.trans hq.symm) (hnew q')
        · subst hqp'
          simp only [Function.update_self, Function.update_of_ne hqp] at hq hq'
          exact absurd (hq.trans hq'.symm) (hnew q)
        · simp only [Function.update_of_ne hqp, Function.update_of_ne hqp'] at hq hq'
          exact fs.dir_inj q q' i hq hq'
      dir_lt := fun q n hq ↦ by
        by_cases hqp : q = p
        · subst hqp
          simp only [Function.update_self, some.injEq, Inode.created.injEq] at hq
          omega
        · simp only [Function.update_of_ne hqp] at hq
          exact Nat.lt_succ_of_lt (fs.dir_lt q n hq) }

/-- A write to an open file. -/
def write (fs : FileSystem π) (f : File π) (bytes : List UInt8) : FileSystem π :=
  { fs with data := Function.update fs.data f.inode (splice (fs.data f.inode) f.offset bytes) }

/-- Remove the name `p`. -/
def remove (fs : FileSystem π) (p : π) : FileSystem π :=
  { fs with
    dir := Function.update fs.dir p none
    dir_inj := fun q q' i hq hq' ↦ by
      rw [Function.update_apply] at hq hq'
      split_ifs at hq
      split at hq'
      · cases hq'
      exact fs.dir_inj q q' i hq hq'
    dir_lt := fun q n hq ↦ by
      rw [Function.update_apply] at hq
      split_ifs at hq
      exact fs.dir_lt q n hq }

/-- Move the file named `p` to the name `q` in one step. A file that had that name loses it. -/
def rename (fs : FileSystem π) (p q : π) : FileSystem π :=
  let unnamed := fs.remove p
  { unnamed with
    dir := Function.update unnamed.dir q (fs.dir p)
    dir_inj := fun r r' i hr hr' ↦ by
      -- after the removal no name but the new one leads to the file
      have hgone : ∀ r, unnamed.dir r ≠ none → unnamed.dir r ≠ fs.dir p := by
        intro r hsome heq
        simp only [unnamed, remove, Function.update_apply] at hsome heq
        split at hsome
        · exact hsome rfl
        next hrp =>
          obtain ⟨i, hi⟩ := ne_none_iff_exists'.1 hsome
          rw [if_neg hrp] at heq
          exact hrp (fs.dir_inj r p i hi (heq ▸ hi))
      rw [Function.update_apply] at hr hr'
      split at hr <;> split at hr'
      next h h' => exact h.trans h'.symm
      · exact absurd (hr'.trans hr.symm) (hgone r' (by simp [hr']))
      · exact absurd (hr.trans hr'.symm) (hgone r (by simp [hr]))
      · exact unnamed.dir_inj r r' i hr hr'
    dir_lt := fun r n hr ↦ by
      rw [Function.update_apply] at hr
      split at hr
      · exact fs.dir_lt p n hr
      · exact unnamed.dir_lt r n hr }

end FileSystem

/-- The open file after a write. -/
def File.advance (f : File π) (n : ℕ) : File π :=
  { f with offset := f.offset + n }

namespace FileSystem

variable [DecidableEq π] {fs : FileSystem π} {p q r : π} {f : File π} {bytes more : List UInt8}

/-! ### The file a name leads to -/

theorem truncate_dir_self (fs : FileSystem π) (p : π) :
    (fs.truncate p).dir p = some (fs.opened p).inode := by
  unfold truncate opened
  split <;> simp [*]

theorem truncate_dir_of_ne (h : q ≠ p) : (fs.truncate p).dir q = fs.dir q := by
  unfold truncate
  split <;> simp [h]

theorem truncate_data_self (fs : FileSystem π) (p : π) :
    (fs.truncate p).data (fs.opened p).inode = [] := by
  unfold truncate opened
  split <;> simp [*]

theorem truncate_data_of_ne {i : Inode π} (h : i ≠ (fs.opened p).inode) :
    (fs.truncate p).data i = fs.data i := by
  unfold truncate
  unfold opened at h
  split <;> simp_all

theorem remove_dir_of_ne (h : q ≠ p) : (fs.remove p).dir q = fs.dir q :=
  Function.update_of_ne h _ _

theorem rename_dir_of_ne (hp : r ≠ p) (hq : r ≠ q) : (fs.rename p q).dir r = fs.dir r := by
  simp [rename, remove, hp, hq]

/-! ### What readers see -/

theorem content_truncate_of_ne (h : q ≠ p) : (fs.truncate p).content q = fs.content q := by
  unfold content
  rw [truncate_dir_of_ne h]
  cases hq : fs.dir q with
  | none => rfl
  | some => exact congrArg some (truncate_data_of_ne (opened_inode_ne h hq))

theorem content_write_of_ne (hf : fs.dir p = some f.inode) (h : q ≠ p) :
    (fs.write f bytes).content q = fs.content q := by
  unfold content
  cases hq : fs.dir q with
  | none => simp [write, hq]
  | some i =>
    have hi : i ≠ f.inode := by
      rintro rfl
      exact h (fs.dir_inj q p _ hq hf)
    simp [write, hq, hi]

theorem content_remove_of_ne (h : q ≠ p) : (fs.remove p).content q = fs.content q := by
  unfold content
  rw [remove_dir_of_ne h]
  rfl

@[simp] theorem content_remove_self (fs : FileSystem π) (p : π) :
    (fs.remove p).content p = none := by
  simp [content, remove]

theorem content_rename_source (h : p ≠ q) : (fs.rename p q).content p = none := by
  simp [content, rename, remove, h]

theorem content_rename_self (fs : FileSystem π) (p q : π) :
    (fs.rename p q).content q = fs.content p := by
  simp [content, rename, remove]

theorem content_rename_of_ne (hp : r ≠ p) (hq : r ≠ q) :
    (fs.rename p q).content r = fs.content r := by
  unfold content
  rw [rename_dir_of_ne hp hq]
  rfl

/-! ### A writer alone with its file -/

theorem wrote_openTrunc (fs : FileSystem π) (p : π) : (fs.truncate p).Wrote p (fs.opened p) [] :=
  ⟨fs.truncate_dir_self p, fs.truncate_data_self p, rfl⟩

section

variable (h : fs.Wrote p f bytes)
include h

theorem Wrote.write : (fs.write f more).Wrote p (f.advance more.length) (bytes ++ more) where
  dir := h.dir
  data := by
    simp [FileSystem.write, File.advance, h.data, h.offset, splice_length]
  offset := by simp [File.advance, h.offset]

theorem Wrote.truncate_of_ne (hpq : p ≠ q) : (fs.truncate q).Wrote p f bytes :=
  ⟨(truncate_dir_of_ne hpq).trans h.dir,
    (truncate_data_of_ne (opened_inode_ne hpq h.dir)).trans h.data, h.offset⟩

theorem Wrote.write_of_ne {g : File π} (hg : fs.dir q = some g.inode) (hpq : p ≠ q) :
    (fs.write g more).Wrote p f bytes := by
  have hne : f.inode ≠ g.inode := fun heq ↦ hpq (fs.dir_inj p q _ (heq ▸ h.dir) hg)
  exact ⟨h.dir, by simp [FileSystem.write, hne, h.data], h.offset⟩

theorem Wrote.remove_of_ne (hpq : p ≠ q) : (fs.remove q).Wrote p f bytes :=
  ⟨(remove_dir_of_ne hpq).trans h.dir, h.data, h.offset⟩

theorem Wrote.rename_of_ne (hpq : p ≠ q) (hpr : p ≠ r) : (fs.rename q r).Wrote p f bytes :=
  ⟨(rename_dir_of_ne hpq hpr).trans h.dir, h.data, h.offset⟩

end

end FileSystem

end Posix
