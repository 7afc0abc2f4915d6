import Mathlib.Data.Fin.Basic
import WartungsRemote.Text.Splitting

/-!
# Base64

Three bytes are written as four digits, and what is left at the end as two or three. The decoders
are those of Go's `encoding/base64`: they skip line breaks, wherever they stand, and do not look at
the bits of the last digit that belong to no byte, so a text is not determined by the bytes that it
encodes. `StdEncoding` fills the last four digits up with `=` and insists on that.
-/

namespace Base64

open List Option

/-- The digits and how they are read back. -/
structure Alphabet where
  char : Fin 64 → Char
  value : Char → Option (Fin 64)
  value_char : ∀ d, value (char d) = some d
  char_ne_newline : ∀ d, char d ≠ '\n' ∧ char d ≠ '\r'

/-- The value of a letter or a decimal digit, with the two other digits given. -/
def alnumValue (c62 c63 c : Char) : Option (Fin 64) :=
  if 'A' ≤ c ∧ c ≤ 'Z' then some (Fin.ofNat 64 (c.toNat - 65))
  else if 'a' ≤ c ∧ c ≤ 'z' then some (Fin.ofNat 64 (c.toNat - 71))
  else if '0' ≤ c ∧ c ≤ '9' then some (Fin.ofNat 64 (c.toNat + 4))
  else if c = c62 then some 62
  else if c = c63 then some 63
  else none

/-- The letters and the decimal digits, with the two other digits given. -/
def alnumChar (c62 c63 : Char) (d : Fin 64) : Char :=
  if d.val < 26 then Char.ofNat (d.val + 65)
  else if d.val < 52 then Char.ofNat (d.val + 71)
  else if d.val < 62 then Char.ofNat (d.val - 4)
  else if d.val = 62 then c62
  else c63

/-- The alphabet of `URLEncoding`. -/
def urlAlphabet : Alphabet where
  char := alnumChar '-' '_'
  value := alnumValue '-' '_'
  value_char := by decide
  char_ne_newline := by decide

/-- The alphabet of `StdEncoding`. -/
def stdAlphabet : Alphabet where
  char := alnumChar '+' '/'
  value := alnumValue '+' '/'
  value_char := by decide
  char_ne_newline := by decide

/-! ### Digits and bytes -/

/-- The digits of the bytes. -/
def encode : List UInt8 → List (Fin 64)
  | x :: y :: z :: rest =>
    Fin.ofNat 64 (x.toNat / 4) :: Fin.ofNat 64 (x.toNat % 4 * 16 + y.toNat / 16) ::
      Fin.ofNat 64 (y.toNat % 16 * 4 + z.toNat / 64) :: Fin.ofNat 64 (z.toNat % 64) :: encode rest
  | [x, y] =>
    [Fin.ofNat 64 (x.toNat / 4), Fin.ofNat 64 (x.toNat % 4 * 16 + y.toNat / 16),
      Fin.ofNat 64 (y.toNat % 16 * 4)]
  | [x] => [Fin.ofNat 64 (x.toNat / 4), Fin.ofNat 64 (x.toNat % 4 * 16)]
  | [] => []

/-- The bytes of two, three or four digits. -/
def byte₁ (a b : Fin 64) : UInt8 := UInt8.ofNat (a.val * 4 + b.val / 16)

def byte₂ (b c : Fin 64) : UInt8 := UInt8.ofNat (b.val % 16 * 16 + c.val / 4)

def byte₃ (c d : Fin 64) : UInt8 := UInt8.ofNat (c.val % 4 * 64 + d.val)

/-- The bytes of the digits; a single digit at the end is an error. -/
def decode : List (Fin 64) → Option (List UInt8)
  | a :: b :: c :: d :: rest =>
    (decode rest).map fun bytes ↦ byte₁ a b :: byte₂ b c :: byte₃ c d :: bytes
  | [a, b, c] => some [byte₁ a b, byte₂ b c]
  | [a, b] => some [byte₁ a b]
  | [_] => none
  | [] => some []

theorem ofNat_eq_of_toNat {n : ℕ} {x : UInt8} (h : n = x.toNat) : UInt8.ofNat n = x := by
  rw [h, UInt8.ofNat_toNat]

section Bytes

variable (x y z : UInt8)

theorem byte₁_encode (n : ℕ) (hn : n < 16) :
    byte₁ (Fin.ofNat 64 (x.toNat / 4)) (Fin.ofNat 64 (x.toNat % 4 * 16 + n)) = x := by
  have hx := x.toNat_lt
  refine ofNat_eq_of_toNat ?_
  simp only [Fin.ofNat]
  omega

theorem byte₂_encode (n : ℕ) (hn : n < 4) :
    byte₂ (Fin.ofNat 64 (x.toNat % 4 * 16 + y.toNat / 16)) (Fin.ofNat 64 (y.toNat % 16 * 4 + n)) =
      y := by
  have hy := y.toNat_lt
  refine ofNat_eq_of_toNat ?_
  simp only [Fin.ofNat]
  omega

theorem byte₃_encode :
    byte₃ (Fin.ofNat 64 (y.toNat % 16 * 4 + z.toNat / 64)) (Fin.ofNat 64 (z.toNat % 64)) = z := by
  have hz := z.toNat_lt
  refine ofNat_eq_of_toNat ?_
  simp only [Fin.ofNat]
  omega

end Bytes

theorem decode_encode (bytes : List UInt8) : decode (encode bytes) = some bytes := by
  induction bytes using encode.induct with
  | case1 x y z _ ih =>
    have hy := y.toNat_lt
    have hz := z.toNat_lt
    rw [encode, decode, ih, map_some, byte₁_encode x _ (by omega),
      byte₂_encode x y _ (by omega), byte₃_encode]
  | case2 x y =>
    have hy := y.toNat_lt
    rw [encode, decode, byte₁_encode x _ (by omega)]
    simpa using byte₂_encode x y 0 (by omega)
  | case3 x =>
    rw [encode, decode]
    simpa using byte₁_encode x 0 (by omega)
  | case4 => rfl

/-! ### Texts -/

variable (alphabet : Alphabet)

def encodeToString (bytes : List UInt8) : Text :=
  (encode bytes).map alphabet.char

def decodeString (t : Text) : Option (List UInt8) :=
  ((t.filter fun c ↦ c ≠ '\n' ∧ c ≠ '\r').mapM alphabet.value).bind decode

theorem mapM_value_map_char (ds : List (Fin 64)) :
    (ds.map alphabet.char).mapM alphabet.value = some ds := by
  induction ds with
  | nil => rfl
  | cons _ _ ih => simp [mapM_cons, alphabet.value_char, ih]

theorem decodeString_encodeToString (bytes : List UInt8) :
    decodeString alphabet (encodeToString alphabet bytes) = some bytes := by
  have hfilter : (encodeToString alphabet bytes).filter (fun c ↦ c ≠ '\n' ∧ c ≠ '\r') =
      encodeToString alphabet bytes := by
    refine filter_eq_self.2 fun c hc ↦ ?_
    obtain ⟨d, -, rfl⟩ := mem_map.1 hc
    simpa using alphabet.char_ne_newline d
  rw [decodeString, hfilter, encodeToString, mapM_value_map_char, bind_some, decode_encode]

/-! ### Padding -/

namespace Std

/-- The bytes of up to four digits. -/
def decodeDigits (t : Text) : Option (List UInt8) :=
  (t.mapM stdAlphabet.value).bind decode

/-- Four characters at a time; only the last four may be padded. -/
def decodeQuanta : Text → Option (List UInt8)
  | c₁ :: c₂ :: c₃ :: c₄ :: rest =>
    if c₃ = '=' ∧ c₄ = '=' ∧ rest = [] then decodeDigits [c₁, c₂]
    else if c₄ = '=' ∧ rest = [] then decodeDigits [c₁, c₂, c₃]
    else do
      let bytes ← decodeDigits [c₁, c₂, c₃, c₄]
      let more ← decodeQuanta rest
      some (bytes ++ more)
  | [] => some []
  | _ => none

def decodeString (t : Text) : Option (List UInt8) :=
  decodeQuanta (t.filter fun c ↦ c ≠ '\n' ∧ c ≠ '\r')

def encodeToString : List UInt8 → Text
  | x :: y :: z :: rest => Base64.encodeToString stdAlphabet [x, y, z] ++ encodeToString rest
  | [x, y] => Base64.encodeToString stdAlphabet [x, y] ++ ['=']
  | [x] => Base64.encodeToString stdAlphabet [x] ++ ['=', '=']
  | [] => []

theorem char_ne_pad : ∀ d, stdAlphabet.char d ≠ '=' := by decide

theorem decodeDigits_encodeToString (bytes : List UInt8) :
    decodeDigits (Base64.encodeToString stdAlphabet bytes) = some bytes := by
  rw [decodeDigits, Base64.encodeToString, mapM_value_map_char, bind_some, decode_encode]

theorem decodeQuanta_encodeToString (bytes : List UInt8) :
    decodeQuanta (encodeToString bytes) = some bytes := by
  induction bytes using encodeToString.induct with
  | case1 x y z _ ih =>
    have hdig := decodeDigits_encodeToString [x, y, z]
    simp only [Base64.encodeToString, encode, map_cons, map_nil] at hdig
    simp only [encodeToString, Base64.encodeToString, encode, map_cons, map_nil, cons_append,
      nil_append]
    rw [decodeQuanta, if_neg fun h ↦ char_ne_pad _ h.2.1, if_neg fun h ↦ char_ne_pad _ h.1,
      hdig, ih]
    rfl
  | case2 x y =>
    have hdig := decodeDigits_encodeToString [x, y]
    simp only [Base64.encodeToString, encode, map_cons, map_nil] at hdig
    simp only [encodeToString, Base64.encodeToString, encode, map_cons, map_nil, cons_append,
      nil_append]
    rw [decodeQuanta, if_neg fun h ↦ char_ne_pad _ h.1, if_pos ⟨rfl, rfl⟩, hdig]
  | case3 x =>
    exact decodeDigits_encodeToString [x]
  | case4 => rfl

theorem mem_encodeToString {bytes : List UInt8} {c : Char} (hc : c ∈ encodeToString bytes) :
    c = '=' ∨ ∃ d, c = stdAlphabet.char d := by
  have hdigit : ∀ bytes, c ∈ Base64.encodeToString stdAlphabet bytes →
      ∃ d, c = stdAlphabet.char d := by
    intro bytes hc
    obtain ⟨d, -, rfl⟩ := mem_map.1 hc
    exact ⟨d, rfl⟩
  induction bytes using encodeToString.induct with
  | case1 _ _ _ _ ih => exact (mem_append.1 hc).elim (fun h ↦ .inr (hdigit _ h)) ih
  | case2 | case3 =>
    exact (mem_append.1 hc).elim (fun h ↦ .inr (hdigit _ h)) fun h ↦ .inl (by simpa using h)
  | case4 => cases hc

theorem ne_newline_of_mem_encodeToString {bytes : List UInt8} {c : Char}
    (hc : c ∈ encodeToString bytes) : c ≠ '\n' ∧ c ≠ '\r' := by
  obtain rfl | ⟨d, rfl⟩ := mem_encodeToString hc
  · decide
  · exact stdAlphabet.char_ne_newline d

theorem decodeString_encodeToString (bytes : List UInt8) :
    decodeString (encodeToString bytes) = some bytes := by
  have hfilter :
      (encodeToString bytes).filter (fun c ↦ c ≠ '\n' ∧ c ≠ '\r') = encodeToString bytes := by
    refine filter_eq_self.2 fun c hc ↦ ?_
    simpa using ne_newline_of_mem_encodeToString hc
  rw [decodeString, hfilter, decodeQuanta_encodeToString]

end Std

end Base64
