import WartungsRemote.Text.Splitting

/-!
# Hexadecimal texts

Go's `encoding/hex`: a byte is written as two digits in lower case, and read from two digits in
either case. Any other character is an error, and so is a digit left over.
-/

namespace Hex

/-- The digits in lower case. -/
def digit (n : ℕ) : Char :=
  Char.ofNat (if n < 10 then n + 48 else n + 87)

/-- The value of a digit, in either case. -/
def value (c : Char) : Option ℕ :=
  if '0' ≤ c ∧ c ≤ '9' then some (c.toNat - 48)
  else if 'a' ≤ c ∧ c ≤ 'f' then some (c.toNat - 87)
  else if 'A' ≤ c ∧ c ≤ 'F' then some (c.toNat - 55)
  else none

def encodeToString : List UInt8 → Text
  | [] => []
  | b :: bytes => digit (b.toNat / 16) :: digit (b.toNat % 16) :: encodeToString bytes

def decodeString : Text → Option (List UInt8)
  | [] => some []
  | [_] => none
  | c :: d :: t => do
    let high ← value c
    let low ← value d
    let bytes ← decodeString t
    some (UInt8.ofNat (high * 16 + low) :: bytes)

theorem value_digit {n : ℕ} (hn : n < 16) : value (digit n) = some n := by
  have hall : ∀ m : Fin 16, value (digit m) = some m.val := by decide
  exact hall ⟨n, hn⟩

theorem decodeString_encodeToString (bytes : List UInt8) :
    decodeString (encodeToString bytes) = some bytes := by
  induction bytes with
  | nil => rfl
  | cons b _ ih =>
    have hb : b.toNat < 256 := b.toNat_lt
    have hbyte : b.toNat / 16 * 16 + b.toNat % 16 = b.toNat := by omega
    rw [encodeToString, decodeString, value_digit (by omega), value_digit (by omega), ih]
    simp only [Option.bind_eq_bind, Option.bind_some, hbyte, UInt8.ofNat_toNat]

theorem mem_encodeToString {bytes : List UInt8} {c : Char} (hc : c ∈ encodeToString bytes) :
    ∃ n : Fin 16, c = digit n := by
  induction bytes with
  | nil => cases hc
  | cons b _ ih =>
    have hb : b.toNat < 256 := b.toNat_lt
    rw [encodeToString, List.mem_cons, List.mem_cons] at hc
    obtain rfl | rfl | hc := hc
    · exact ⟨⟨b.toNat / 16, by omega⟩, rfl⟩
    · exact ⟨⟨b.toNat % 16, by omega⟩, rfl⟩
    · exact ih hc

end Hex
