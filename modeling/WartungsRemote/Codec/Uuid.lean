import Mathlib.Algebra.Group.Nat.Defs
import WartungsRemote.Codec.Hex

/-!
# Texts that are read as a UUID

`uuid.Parse` of `github.com/google/uuid`, version 1.6.0. It decides by the **number of bytes**: 36
for the usual form, 45 with `urn:uuid:` in front, 38 with one byte on each side (meant for braces,
but the bytes are not looked at), and 32 for the digits alone, which are hexadecimal in either case.
So one UUID has many spellings. As bytes it has one form, with the highest byte first
(`fromBytes_toBytes`).
-/

namespace Uuid

open List

/-- The value of a hexadecimal digit, in either case. -/
def hexValue (b : UInt8) : Option ℕ :=
  if 48 ≤ b ∧ b ≤ 57 then some (b.toNat - 48)
  else if 97 ≤ b ∧ b ≤ 102 then some (b.toNat - 87)
  else if 65 ≤ b ∧ b ≤ 70 then some (b.toNat - 55)
  else none

/-- `xtob`: the byte that two digits make. -/
def xtob (s : List UInt8) (i : ℕ) : Option ℕ := do
  let high ← s[i]? >>= hexValue
  let low ← s[i + 1]? >>= hexValue
  some (high * 16 + low)

/-- The UUID of the bytes whose digits start at the given places. -/
def readAt (s : List UInt8) (places : List ℕ) : Option (BitVec 128) :=
  (places.mapM (xtob s)).map fun bytes ↦ BitVec.ofNat 128 (bytes.foldl (fun n b ↦ n * 256 + b) 0)

/-- A letter of the Latin alphabet in lower case. -/
def toLower (b : UInt8) : UInt8 :=
  if 65 ≤ b ∧ b ≤ 90 then b + 32 else b

/-- `urn:uuid:`. -/
def urnBytes : List UInt8 :=
  [117, 114, 110, 58, 117, 117, 105, 100, 58]

/-- The form with dashes, at the start of the bytes. -/
def readDashed (s : List UInt8) : Option (BitVec 128) :=
  if s[8]? = some 45 ∧ s[13]? = some 45 ∧ s[18]? = some 45 ∧ s[23]? = some 45 then
    readAt s [0, 2, 4, 6, 9, 11, 14, 16, 19, 21, 24, 26, 28, 30, 32, 34]
  else none

def parseBytes (s : List UInt8) : Option (BitVec 128) :=
  match s.length with
  | 36 => readDashed s
  | 45 => if (s.take 9).map toLower = urnBytes then readDashed (s.drop 9) else none
  | 38 => readDashed (s.drop 1)
  | 32 => readAt s [0, 2, 4, 6, 8, 10, 12, 14, 16, 18, 20, 22, 24, 26, 28, 30]
  | _ => none

def parse (t : Text) : Option (BitVec 128) :=
  parseBytes (Text.utf8 t)

/-! ### Bytes -/

/-- The last bytes of a number, the highest first. -/
def bytes : ℕ → ℕ → List UInt8
  | 0, _ => []
  | width + 1, n => bytes width (n / 256) ++ [UInt8.ofNat (n % 256)]

/-- The number that the bytes make. -/
def value (bs : List UInt8) : ℕ :=
  bs.foldl (fun n b ↦ n * 256 + b.toNat) 0

@[simp] theorem length_bytes (width n : ℕ) : (bytes width n).length = width := by
  induction width generalizing n with
  | zero => rfl
  | succ _ ih => rw [bytes, length_append, ih, length_singleton]

theorem value_append_singleton (bs : List UInt8) (b : UInt8) : value (bs ++ [b]) = value bs * 256 +
    b.toNat :=
  foldl_append

theorem value_bytes (width n : ℕ) : value (bytes width n) = n % 256 ^ width := by
  induction width generalizing n with
  | zero => rw [Nat.pow_zero, Nat.mod_one]; rfl
  | succ width ih =>
    have hlast : (UInt8.ofNat (n % 256)).toNat = n % 256 := by
      rw [UInt8.toNat_ofNat']
      exact Nat.mod_eq_of_lt (Nat.mod_lt n (by decide))
    rw [bytes, value_append_singleton, hlast, ih, Nat.pow_succ, Nat.mul_comm (256 ^ width) 256,
      Nat.mod_mul]
    omega

theorem bytes_value (bs : List UInt8) : bytes bs.length (value bs) = bs := by
  induction bs using reverseRecOn with
  | nil => rfl
  | append_singleton bs b ih =>
    have hb : b.toNat < 256 := b.toNat_lt
    have hdiv : (value bs * 256 + b.toNat) / 256 = value bs := by omega
    have hmod : (value bs * 256 + b.toNat) % 256 = b.toNat := by omega
    rw [value_append_singleton, length_append, length_singleton, bytes, hdiv, hmod, ih,
      UInt8.ofNat_toNat]

theorem value_lt (bs : List UInt8) : value bs < 256 ^ bs.length := by
  have h := value_bytes bs.length (value bs)
  rw [bytes_value] at h
  exact h ▸ Nat.mod_lt _ (Nat.pow_pos (by decide))

/-- The 16 bytes of a UUID. -/
def toBytes (id : BitVec 128) : List UInt8 :=
  bytes 16 id.toNat

/-- `UUID.String`: the digits in lower case, with dashes. -/
def string (id : BitVec 128) : Text :=
  let digits := Hex.encodeToString (toBytes id)
  digits.take 8 ++ '-' :: (digits.drop 8).take 4 ++ '-' :: (digits.drop 12).take 4 ++
    '-' :: (digits.drop 16).take 4 ++ '-' :: digits.drop 20

/-- `uuid.FromBytes`, of 16 bytes. -/
def fromBytes (bs : List UInt8) : BitVec 128 :=
  BitVec.ofNat 128 (value bs)

theorem fromBytes_toBytes (id : BitVec 128) : fromBytes (toBytes id) = id := by
  have hlt : id.toNat < 256 ^ 16 := id.isLt
  rw [fromBytes, toBytes, value_bytes, Nat.mod_eq_of_lt hlt, BitVec.ofNat_toNat, BitVec.setWidth_eq]

theorem toBytes_fromBytes {bs : List UInt8} (h : bs.length = 16) : toBytes (fromBytes bs) = bs := by
  have hlt : value bs < 256 ^ 16 := h ▸ value_lt bs
  rw [toBytes, fromBytes, BitVec.toNat_ofNat, Nat.mod_eq_of_lt (b := 2 ^ 128) hlt, ← h, bytes_value]

end Uuid
