import Mathlib.Data.List.Perm.Basic
import WartungsRemote.Text.Splitting

/-!
# Passwords of the support account

`GenerateSupportPassword` of `internal/platform/password.go` draws one character of each class,
fills up with characters of any class, and shuffles. **Whatever is drawn**, the result keeps to the
policy (`generateSupportPassword_policy`): the shuffle swaps characters and so loses none.
-/

namespace WartungsRemote.Platform

open List

def pwUpper : Text := "ABCDEFGHJKLMNPQRSTUVWXYZ".toList

def pwLower : Text := "abcdefghijkmnopqrstuvwxyz".toList

def pwDigits : Text := "23456789".toList

def pwSymbol : Text := "!@#$%^&*-_".toList

def pwClasses : List Text := [pwUpper, pwLower, pwDigits, pwSymbol]

/-- What the calls of `randomInt` give, by their number: a number below the bound, or an error. -/
abbrev Random : Type := ℕ → (max : ℕ) → Option (Fin max)

variable {rand : Random} {call i : ℕ} {charsets : List Text}

def randomChar (rand : Random) (call : ℕ) (charset : Text) : Option Char :=
  (rand call charset.length).map charset.get

/-- One character of each charset. -/
def fill (rand : Random) (call : ℕ) : List Text → Option Text
  | [] => some []
  | charset :: rest => do
    let c ← randomChar rand call charset
    let cs ← fill rand (call + 1) rest
    some (c :: cs)

/-- The loop of the shuffle, from the index `i` on down. An index out of range would panic. -/
def shuffle (rand : Random) (call : ℕ) : ℕ → Array Char → Option (Array Char)
  | 0, buf => some buf
  | i + 1, buf => do
    let j ← rand call (i + 2)
    if h : i + 1 < buf.size ∧ j < buf.size then
      shuffle rand (call + 1) i (buf.swap (i + 1) j h.1 h.2)
    else none

def generateSupportPassword (rand : Random) (length : ℤ) : Option Text := do
  let length := if length < 4 then 4 else length.toNat
  let guaranteed ← fill rand 0 pwClasses
  let rest ← fill rand 4 (replicate (length - 4) pwClasses.flatten)
  let buf ← shuffle rand length (length - 1) (guaranteed ++ rest).toArray
  some buf.toList

/-! ### The policy -/

structure Drawn (charsets : List Text) (cs : Text) : Prop where
  length_eq : cs.length = charsets.length
  mem : ∀ c ∈ cs, ∃ charset ∈ charsets, c ∈ charset
  covers : ∀ charset ∈ charsets, ∃ c ∈ cs, c ∈ charset

theorem drawn_of_fill {cs : Text} (h : fill rand call charsets = some cs) : Drawn charsets cs := by
  induction charsets generalizing call cs with
  | nil =>
    cases h
    exact ⟨rfl, nofun, nofun⟩
  | cons charset rest ih =>
    obtain ⟨c, hc, h⟩ := Option.bind_eq_some_iff.1 h
    obtain ⟨cs, hcs, h⟩ := Option.bind_eq_some_iff.1 h
    cases h
    obtain ⟨k, -, rfl⟩ := Option.map_eq_some_iff.1 hc
    have hmem := get_mem charset k
    have hrest := ih hcs
    refine ⟨congrArg (· + 1) hrest.length_eq,
      forall_mem_cons.2 ⟨⟨charset, mem_cons_self, hmem⟩, ?_⟩,
        forall_mem_cons.2 ⟨⟨_, mem_cons_self, hmem⟩, ?_⟩⟩
    · intro c hc
      obtain ⟨set, hset, hin⟩ := hrest.mem c hc
      exact ⟨set, mem_cons_of_mem _ hset, hin⟩
    · intro set hset
      obtain ⟨c, hc, hin⟩ := hrest.covers set hset
      exact ⟨c, mem_cons_of_mem _ hc, hin⟩

theorem perm_of_shuffle {buf buf' : Array Char} (h : shuffle rand call i buf = some buf') :
    buf'.Perm buf := by
  induction i generalizing call buf with
  | zero =>
    cases h
    exact .refl _
  | succ i ih =>
    obtain ⟨j, -, h⟩ := Option.bind_eq_some_iff.1 h
    split at h
    next hin => exact (ih h).trans (Array.swap_perm hin.1 hin.2)
    · cases h

/-- **Every password keeps to the policy**, and the shuffle only permutes. -/
theorem generateSupportPassword_policy (rand : Random) (length : ℤ) (pw : Text)
    (h : generateSupportPassword rand length = some pw) :
    (pw.length : ℤ) = max length 4 ∧ (∀ c ∈ pw, ∃ charset ∈ pwClasses, c ∈ charset) ∧
      (∀ charset ∈ pwClasses, ∃ c ∈ pw, c ∈ charset) ∧
      ∀ call i buf buf', shuffle rand call i buf = some buf' → buf'.Perm buf := by
  obtain ⟨guaranteed, hguaranteed, h⟩ := Option.bind_eq_some_iff.1 h
  obtain ⟨rest, hrest, h⟩ := Option.bind_eq_some_iff.1 h
  obtain ⟨buf, hbuf, h⟩ := Option.bind_eq_some_iff.1 h
  cases h
  have hfst := drawn_of_fill hguaranteed
  have hrest := drawn_of_fill hrest
  have hperm : buf.toList.Perm (guaranteed ++ rest) := (perm_of_shuffle hbuf).toList
  refine ⟨?_, fun c hc ↦ ?_, fun charset hset ↦ ?_, fun _ _ _ _ ↦ perm_of_shuffle⟩
  · rw [hperm.length_eq, length_append, hfst.length_eq, hrest.length_eq, length_replicate]
    have : pwClasses.length = 4 := rfl
    split <;> omega
  · obtain hc | hc := mem_append.1 (hperm.subset hc)
    · exact hfst.mem c hc
    · obtain ⟨charset, hset, hin⟩ := hrest.mem c hc
      rw [eq_of_mem_replicate hset] at hin
      exact mem_flatten.1 hin
  · obtain ⟨c, hc, hin⟩ := hfst.covers charset hset
    exact ⟨c, hperm.mem_iff.2 (mem_append_left rest hc), hin⟩

/-- The calls give different numbers. -/
def Random.cycle : Random
  | _, 0 => none
  | call, max + 1 => some (Fin.ofNat (max + 1) (5 * call))

/-- A password as long as the agent's. -/
theorem generateSupportPassword_policy_agent : ∃ pw, generateSupportPassword .cycle 14 = some pw ∧
    (pw.length : ℤ) = max 14 4 ∧ ∀ charset ∈ pwClasses, ∃ c ∈ pw, c ∈ charset := by
  obtain ⟨pw, hpw⟩ := Option.isSome_iff_exists.1
    (show (generateSupportPassword .cycle 14).isSome = true by decide +kernel)
  obtain ⟨hlen, -, hclasses, -⟩ := generateSupportPassword_policy .cycle 14 pw hpw
  exact ⟨pw, hpw, hlen, hclasses⟩

end WartungsRemote.Platform
