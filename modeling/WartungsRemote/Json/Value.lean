import Mathlib.Data.Char
import WartungsRemote.Json.Float64

/-!
# What JSON texts mean, and two ways of changing them

A `Value` is what a JSON text means: strings are texts, and an object is a finite map, represented
by its members in ascending order of their keys. The numbers are a parameter.

A **store** keeps the value of a text with exact numbers (`Tree.toValue`): of members with the same
key the last one counts, and strings that do not decode, or contain the null character, are
rejected. A **program** reads what is stored into numbers of double precision (`decode`) and writes
it again (`Value.toTree`), in the order of the keys, with its own choice of escapes and the shortest
digits.

The written text determines the value (`marshal_injective`). Conversely, only those texts come back
as they were that the program could have written (`decode_toTree_iff_writable`).
-/

namespace Json

open List Option

/-! ### Strings -/

/-- The value of a hexadecimal digit. -/
def HexDigit.val (h : HexDigit) : ℕ :=
  if h.1.isDigit then h.1.toNat - '0'.toNat
  else if 'a' ≤ h.1 then h.1.toNat - 'a'.toNat + 10 else h.1.toNat - 'A'.toNat + 10

/-- The code unit of an escape with four digits. -/
def codeUnit (d₁ d₂ d₃ d₄ : HexDigit) : ℕ :=
  ((d₁.val * 16 + d₂.val) * 16 + d₃.val) * 16 + d₄.val

/-- The first half of a pair of code units. -/
def isHighSurrogate (u : ℕ) : Bool :=
  0xD800 ≤ u && u < 0xDC00

/-- The second half of a pair of code units. -/
def isLowSurrogate (u : ℕ) : Bool :=
  0xDC00 ≤ u && u < 0xE000

/-- The text of a string. `high` is the first half of a pair just read, to be followed by the second
half. The null character is not accepted. -/
def decodeStr : Option ℕ → List StrChar → Option Text
  | none, [] => some []
  | some _, [] => none
  | none, .plain c _ :: s => (decodeStr none s).map (c :: ·)
  | none, .short e :: s => (decodeStr none s).map (e.char :: ·)
  | some _, .plain _ _ :: _ => none
  | some _, .short _ :: _ => none
  | none, .unicode d₁ d₂ d₃ d₄ :: s =>
    let u := codeUnit d₁ d₂ d₃ d₄
    if isHighSurrogate u then decodeStr (some u) s
    else if isLowSurrogate u || u = 0 then none
    else (decodeStr none s).map (Char.ofNat u :: ·)
  | some h, .unicode d₁ d₂ d₃ d₄ :: s =>
    let u := codeUnit d₁ d₂ d₃ d₄
    if isLowSurrogate u then
      (decodeStr none s).map (Char.ofNat (0x10000 + (h - 0xD800) * 0x400 + (u - 0xDC00)) :: ·)
    else none

/-- A digit of a number in hexadecimal, in lower case. -/
def hexDigit (n : ℕ) : HexDigit :=
  ⟨Nat.digitChar (n % 16), by
    have hall : ∀ d < 16, isHexDigit (Nat.digitChar d) = true := by decide
    exact hall _ (Nat.mod_lt n (by norm_num))⟩

theorem hexDigit_val (n : ℕ) : (hexDigit n).val = n % 16 := by
  have hall : ∀ d < 16, (hexDigit d).val = d := by decide
  have := hall (n % 16) (Nat.mod_lt n (by norm_num))
  simpa [hexDigit] using this

/-- The escape with four digits. -/
def unicodeEscape (n : ℕ) : StrChar :=
  .unicode (hexDigit (n / 4096)) (hexDigit (n / 256)) (hexDigit (n / 16)) (hexDigit n)

theorem codeUnit_hexDigit {n : ℕ} (hn : n < 65536) :
    codeUnit (hexDigit (n / 4096)) (hexDigit (n / 256)) (hexDigit (n / 16)) (hexDigit n) = n := by
  simp only [codeUnit, hexDigit_val]
  omega

/-- How the program writes a character: some by an escape of one letter; control characters, those
that mean something in HTML, and two line separators with four digits. -/
def quoteChar (c : Char) : StrChar :=
  if c = '\x08' then .short .backspace
  else if c = '\x0c' then .short .formFeed
  else if c = '\n' then .short .lineFeed
  else if c = '\r' then .short .carriageReturn
  else if c = '\t' then .short .tab
  else if hq : c = '"' then .short .quotationMark
  else if hb : c = '\\' then .short .reverseSolidus
  else if h : c.toNat < 0x20 ∨ c ∈ ['<', '>', '&', '\u2028', '\u2029'] then unicodeEscape c.toNat
  else .plain c ⟨not_lt.1 fun hlt ↦ h (Or.inl hlt), hq, hb⟩

/-- A character written with four digits is not half of a pair. -/
theorem decodeStr_unicodeEscape {c : Char} (hc : c.toNat < 0xD800) (hz : c.toNat ≠ 0)
    (s : List StrChar) :
    decodeStr none (unicodeEscape c.toNat :: s) = (decodeStr none s).map (c :: ·) := by
  have hunit := codeUnit_hexDigit (hc.trans (by norm_num))
  have hhigh : isHighSurrogate c.toNat = false := by simp [isHighSurrogate, hc]
  have hlow : isLowSurrogate c.toNat = false := by
    simp [isLowSurrogate, hc.trans (by norm_num : 0xD800 < 0xDC00)]
  rw [unicodeEscape, decodeStr]
  simp only [hunit, hhigh, hlow, hz, Char.ofNat_toNat]
  simp

theorem toNat_lt_of_escaped {c : Char}
    (h : c.toNat < 0x20 ∨ c ∈ ['<', '>', '&', '\u2028', '\u2029']) : c.toNat < 0xD800 := by
  have hall : ∀ c ∈ ['<', '>', '&', '\u2028', '\u2029'], c.toNat < 0xD800 :=
    Text.forall_mem_of_all (by decide)
  exact h.elim (fun hlt ↦ hlt.trans (by norm_num)) (hall c)

theorem quoteChar_char {e : Escape} (he : e ≠ .solidus) : quoteChar e.char = .short e := by
  cases e with
  | solidus => exact absurd rfl he
  | _ => rfl

theorem quoteChar_of_ne {c : Char} (hne : ∀ e : Escape, e ≠ .solidus → c ≠ e.char) :
    (c.toNat < 0xD800 ∧ quoteChar c = unicodeEscape c.toNat) ∨ ∃ h, quoteChar c = .plain c h := by
  have h₁ : c ≠ '\x08' := hne .backspace (by decide)
  have h₂ : c ≠ '\x0c' := hne .formFeed (by decide)
  have h₃ : c ≠ '\n' := hne .lineFeed (by decide)
  have h₄ : c ≠ '\r' := hne .carriageReturn (by decide)
  have h₅ : c ≠ '\t' := hne .tab (by decide)
  have hq : c ≠ '"' := hne .quotationMark (by decide)
  have hb : c ≠ '\\' := hne .reverseSolidus (by decide)
  rw [quoteChar, if_neg h₁, if_neg h₂, if_neg h₃, if_neg h₄, if_neg h₅, dif_neg hq, dif_neg hb]
  by_cases h : c.toNat < 0x20 ∨ c ∈ ['<', '>', '&', '\u2028', '\u2029']
  · exact .inl ⟨toNat_lt_of_escaped h, dif_pos h⟩
  · exact .inr ⟨_, dif_neg h⟩

theorem decodeStr_quoteChar {c : Char} (hc : c ≠ '\x00') (s : List StrChar) :
    decodeStr none (quoteChar c :: s) = (decodeStr none s).map (c :: ·) := by
  have hz : c.toNat ≠ 0 := fun h ↦ hc (by rw [← Char.ofNat_toNat c, h])
  by_cases hshort : ∃ e : Escape, e ≠ .solidus ∧ c = e.char
  · obtain ⟨e, he, rfl⟩ := hshort
    rw [quoteChar_char he, decodeStr]
  · obtain ⟨hlt, hescape⟩ | ⟨hplain, hc⟩ := quoteChar_of_ne fun e he hce ↦ hshort ⟨e, he, hce⟩
    · rw [hescape, decodeStr_unicodeEscape hlt hz]
    · rw [hc, decodeStr]

/-- A written string is read back, if it can be read at all. -/
theorem eq_of_decodeStr_quote {t u : Text} (h : decodeStr none (t.map quoteChar) = some u) :
    u = t := by
  induction t generalizing u with
  | nil => exact (some.inj h).symm
  | cons c _ ih =>
    rw [map_cons] at h
    rcases eq_or_ne c '\x00' with rfl | hc
    · cases h
    · rw [decodeStr_quoteChar hc] at h
      obtain ⟨w, hw, rfl⟩ := map_eq_some_iff.1 h
      rw [ih hw]

/-- The character that is meant by a written one that is not half of a pair. -/
def StrChar.char : StrChar → Char
  | .plain c _ => c
  | .short e => e.char
  | .unicode d₁ d₂ d₃ d₄ => Char.ofNat (codeUnit d₁ d₂ d₃ d₄)

theorem char_quoteChar (c : Char) : (quoteChar c).char = c := by
  by_cases hshort : ∃ e : Escape, e ≠ .solidus ∧ c = e.char
  · obtain ⟨e, he, rfl⟩ := hshort
    rw [quoteChar_char he, StrChar.char]
  · obtain ⟨hlt, hescape⟩ | ⟨hplain, hc⟩ := quoteChar_of_ne fun e he hce ↦ hshort ⟨e, he, hce⟩
    · rw [hescape, unicodeEscape, StrChar.char, codeUnit_hexDigit (hlt.trans (by norm_num)),
        Char.ofNat_toNat]
    · rw [hc, StrChar.char]

theorem quoteChar_injective : Function.Injective quoteChar :=
  Function.LeftInverse.injective char_quoteChar

/-! ### Values -/

/-- What a JSON text means, over a type of numbers. -/
inductive Value (ν : Type)
  | null
  | bool (b : Bool)
  | num (n : ν)
  | str (s : Text)
  | arr (elements : List (Value ν))
  | obj (members : List (Text × Value ν))

variable {ν μ : Type}

mutual

/-- In every object the members are in strictly ascending order of their keys. -/
def Value.Sorted : Value ν → Prop
  | .arr vs => sortedElements vs
  | .obj ms => (ms.map Prod.fst).Pairwise (· < ·) ∧ sortedMembers ms
  | _ => True

def sortedElements : List (Value ν) → Prop
  | [] => True
  | v :: vs => v.Sorted ∧ sortedElements vs

def sortedMembers : List (Text × Value ν) → Prop
  | [] => True
  | (_, v) :: ms => v.Sorted ∧ sortedMembers ms

end

mutual

/-- How deep arrays and objects are nested. -/
def Value.depth : Value ν → ℕ
  | .arr vs => depthElements vs + 1
  | .obj ms => depthMembers ms + 1
  | _ => 0

def depthElements : List (Value ν) → ℕ
  | [] => 0
  | v :: vs => max v.depth (depthElements vs)

def depthMembers : List (Text × Value ν) → ℕ
  | [] => 0
  | (_, v) :: ms => max v.depth (depthMembers ms)

end

mutual

/-- Replace the numbers, if all of them can be replaced. -/
def Value.mapNum (f : ν → Option μ) : Value ν → Option (Value μ)
  | .null => some .null
  | .bool b => some (.bool b)
  | .num n => (f n).map .num
  | .str s => some (.str s)
  | .arr vs => (mapNumElements f vs).map .arr
  | .obj ms => (mapNumMembers f ms).map .obj

def mapNumElements (f : ν → Option μ) : List (Value ν) → Option (List (Value μ))
  | [] => some []
  | v :: vs => do
    let w ← v.mapNum f
    let ws ← mapNumElements f vs
    some (w :: ws)

def mapNumMembers (f : ν → Option μ) : List (Text × Value ν) → Option (List (Text × Value μ))
  | [] => some []
  | (k, v) :: ms => do
    let w ← v.mapNum f
    let ns ← mapNumMembers f ms
    some ((k, w) :: ns)

end

mutual

/-- Replacing numbers changes neither the order of members nor the depth. -/
theorem Value.mapNum_spec (f : ν → Option μ) : ∀ (v : Value ν) (w : Value μ), v.mapNum f = some w →
    (v.Sorted → w.Sorted) ∧ w.depth = v.depth
  | .null, w, h => by
    cases h
    exact ⟨id, rfl⟩
  | .bool b, w, h => by
    cases h
    exact ⟨id, rfl⟩
  | .num n, w, h => by
    obtain ⟨m, -, rfl⟩ := map_eq_some_iff.1 h
    exact ⟨fun _ ↦ trivial, rfl⟩
  | .str s, w, h => by
    cases h
    exact ⟨id, rfl⟩
  | .arr vs, w, h => by
    obtain ⟨ws, hws, rfl⟩ := map_eq_some_iff.1 h
    obtain ⟨hsort, hdepth⟩ := mapNumElements_spec f vs ws hws
    exact ⟨hsort, congrArg (· + 1) hdepth⟩
  | .obj ms, w, h => by
    obtain ⟨ns, hns, rfl⟩ := map_eq_some_iff.1 h
    obtain ⟨hkeys, hsort, hdepth⟩ := mapNumMembers_spec f ms ns hns
    exact ⟨fun hs ↦ ⟨hkeys ▸ hs.1, hsort hs.2⟩, congrArg (· + 1) hdepth⟩

theorem mapNumElements_spec (f : ν → Option μ) : ∀ (vs : List (Value ν)) (ws : List (Value μ)),
    mapNumElements f vs = some ws →
      (sortedElements vs → sortedElements ws) ∧ depthElements ws = depthElements vs
  | [], ws, h => by
    cases h
    exact ⟨id, rfl⟩
  | v :: vs, ws, h => by
    simp only [mapNumElements, bind_eq_bind, bind_eq_some_iff, some.injEq] at h
    obtain ⟨w, hw, us, hus, rfl⟩ := h
    obtain ⟨hsort, hdepth⟩ := Value.mapNum_spec f v w hw
    obtain ⟨hrest, hdepths⟩ := mapNumElements_spec f vs us hus
    exact ⟨fun hs ↦ ⟨hsort hs.1, hrest hs.2⟩, congrArg₂ max hdepth hdepths⟩

theorem mapNumMembers_spec (f : ν → Option μ) : ∀ (ms : List (Text × Value ν))
    (ns : List (Text × Value μ)), mapNumMembers f ms = some ns →
      ns.map Prod.fst = ms.map Prod.fst ∧ (sortedMembers ms → sortedMembers ns) ∧
        depthMembers ns = depthMembers ms
  | [], ns, h => by
    cases h
    exact ⟨rfl, id, rfl⟩
  | (k, v) :: ms, ns, h => by
    simp only [mapNumMembers, bind_eq_bind, bind_eq_some_iff, some.injEq] at h
    obtain ⟨w, hw, us, hus, rfl⟩ := h
    obtain ⟨hsort, hdepth⟩ := Value.mapNum_spec f v w hw
    obtain ⟨hkeys, hrest, hdepths⟩ := mapNumMembers_spec f ms us hus
    exact ⟨congrArg (k :: ·) hkeys, fun hs ↦ ⟨hsort hs.1, hrest hs.2⟩, congrArg₂ max hdepth hdepths⟩

end

/-! ### Storing a text -/

/-- Add a member at its place. If there is one with the same key already, it stays. -/
def insertMember (k : Text) (v : Value ν) : List (Text × Value ν) → List (Text × Value ν)
  | [] => [(k, v)]
  | (l, w) :: ms =>
    if k < l then (k, v) :: (l, w) :: ms
    else if k = l then (l, w) :: ms
    else (l, w) :: insertMember k v ms

mutual

/-- The value of a text, with exact numbers, if the store accepts it. -/
def Tree.toValue : Tree → Option (Value ℚ)
  | .null => some .null
  | .bool b => some (.bool b)
  | .num n => some (.num n.value)
  | .str s => (decodeStr none s).map .str
  | .arr ts => (valueElements ts).map .arr
  | .obj ms => (valueMembers ms).map .obj

def valueElements : List Tree → Option (List (Value ℚ))
  | [] => some []
  | t :: ts => do
    let v ← t.toValue
    let vs ← valueElements ts
    some (v :: vs)

/-- The members of an object. Those that come later are added first, so that they stay. -/
def valueMembers : List (List StrChar × Tree) → Option (List (Text × Value ℚ))
  | [] => some []
  | (k, t) :: ms => do
    let key ← decodeStr none k
    let v ← t.toValue
    let vs ← valueMembers ms
    some (insertMember key v vs)

end

section InsertMember

variable {k : Text} {v : Value ν} {ms : List (Text × Value ν)}

theorem mem_keys_insertMember {l : Text} (h : l ∈ (insertMember k v ms).map Prod.fst) :
    l = k ∨ l ∈ ms.map Prod.fst := by
  induction ms with
  | nil => simpa [insertMember] using h
  | cons _ _ ih =>
    unfold insertMember at h
    split_ifs at h
    · simpa using h
    · exact Or.inr h
    · rw [map_cons, mem_cons] at h ⊢
      rcases h with rfl | h
      · exact Or.inr (Or.inl rfl)
      · exact (ih h).imp_right Or.inr

theorem pairwise_insertMember (h : (ms.map Prod.fst).Pairwise (· < ·)) :
    ((insertMember k v ms).map Prod.fst).Pairwise (· < ·) := by
  induction ms with
  | nil => simp [insertMember]
  | cons _ _ ih =>
    rw [map_cons, pairwise_cons] at h
    unfold insertMember
    split_ifs with hlt heq
    · refine pairwise_cons.2 ⟨fun l hl ↦ ?_, pairwise_cons.2 h⟩
      rcases mem_cons.1 hl with rfl | hmem
      · exact hlt
      · exact hlt.trans (h.1 l hmem)
    · exact pairwise_cons.2 h
    · refine pairwise_cons.2 ⟨fun l hl ↦ ?_, ih h.2⟩
      rcases mem_keys_insertMember hl with rfl | hmem
      · exact lt_of_le_of_ne (not_lt.1 hlt) (Ne.symm heq)
      · exact h.1 l hmem

theorem sortedMembers_insertMember (hv : v.Sorted) (h : sortedMembers ms) :
    sortedMembers (insertMember k v ms) := by
  induction ms with
  | nil => exact ⟨hv, trivial⟩
  | cons _ _ ih =>
    unfold insertMember
    split_ifs
    · exact ⟨hv, h⟩
    · exact h
    · exact ⟨h.1, ih h.2⟩

theorem insertMember_of_lt (h : ∀ l ∈ ms.map Prod.fst, k < l) :
    insertMember k v ms = (k, v) :: ms := by
  cases ms with
  | nil => rfl
  | cons m => rw [insertMember, if_pos (h m.1 (by simp))]

end InsertMember

mutual

theorem Tree.sorted_of_toValue : ∀ (t : Tree) (v : Value ℚ), t.toValue = some v → v.Sorted
  | .null, v, h => by
    cases h
    trivial
  | .bool b, v, h => by
    cases h
    trivial
  | .num n, v, h => by
    cases h
    trivial
  | .str s, v, h => by
    obtain ⟨t, -, rfl⟩ := map_eq_some_iff.1 h
    trivial
  | .arr ts, v, h => by
    obtain ⟨vs, hvs, rfl⟩ := map_eq_some_iff.1 h
    exact sorted_of_valueElements ts vs hvs
  | .obj ms, v, h => by
    obtain ⟨vs, hvs, rfl⟩ := map_eq_some_iff.1 h
    exact sorted_of_valueMembers ms vs hvs

theorem sorted_of_valueElements : ∀ (ts : List Tree) (vs : List (Value ℚ)),
    valueElements ts = some vs → sortedElements vs
  | [], vs, h => by
    cases h
    trivial
  | t :: ts, vs, h => by
    simp only [valueElements, bind_eq_bind, bind_eq_some_iff, some.injEq] at h
    obtain ⟨v, hv, us, hus, rfl⟩ := h
    exact ⟨t.sorted_of_toValue v hv, sorted_of_valueElements ts us hus⟩

theorem sorted_of_valueMembers : ∀ (ms : List (List StrChar × Tree)) (vs : List (Text × Value ℚ)),
    valueMembers ms = some vs → (vs.map Prod.fst).Pairwise (· < ·) ∧ sortedMembers vs
  | [], vs, h => by
    cases h
    exact ⟨Pairwise.nil, trivial⟩
  | (k, t) :: ms, vs, h => by
    simp only [valueMembers, bind_eq_bind, bind_eq_some_iff, some.injEq] at h
    obtain ⟨key, -, v, hv, us, hus, rfl⟩ := h
    obtain ⟨hkeys, hsort⟩ := sorted_of_valueMembers ms us hus
    exact ⟨pairwise_insertMember hkeys, sortedMembers_insertMember (t.sorted_of_toValue v hv) hsort⟩

end

/-! ### Writing a value -/

mutual

/-- How the program writes a value. -/
def Value.toTree : Value Float64 → Tree
  | .null => .null
  | .bool b => .bool b
  | .num f => .num (format f)
  | .str s => .str (s.map quoteChar)
  | .arr vs => .arr (treeElements vs)
  | .obj ms => .obj (treeMembers ms)

def treeElements : List (Value Float64) → List Tree
  | [] => []
  | v :: vs => v.toTree :: treeElements vs

def treeMembers : List (Text × Value Float64) → List (List StrChar × Tree)
  | [] => []
  | (k, v) :: ms => (k.map quoteChar, v.toTree) :: treeMembers ms

end

/-- The text the program writes. -/
def marshal (a : Value Float64) : Text :=
  a.toTree.render

mutual

theorem Value.toTree_inj : ∀ a b : Value Float64, a.toTree = b.toTree → a = b
  | .null, b, h => by cases b <;> first | rfl | cases h
  | .bool c, b, h => by
    cases b with
    | bool =>
      cases h
      rfl
    | _ => cases h
  | .num f, b, h => by
    cases b with
    | num => rw [format_injective (Tree.num.inj h)]
    | _ => cases h
  | .str s, b, h => by
    cases b with
    | str => rw [map_injective_iff.2 quoteChar_injective (Tree.str.inj h)]
    | _ => cases h
  | .arr vs, b, h => by
    cases b with
    | arr ws => rw [treeElements_inj vs ws (Tree.arr.inj h)]
    | _ => cases h
  | .obj ms, b, h => by
    cases b with
    | obj ns => rw [treeMembers_inj ms ns (Tree.obj.inj h)]
    | _ => cases h

theorem treeElements_inj : ∀ vs ws : List (Value Float64), treeElements vs = treeElements ws →
    vs = ws
  | [], [], _ => rfl
  | [], w :: ws, h => by cases h
  | v :: vs, [], h => by cases h
  | v :: vs, w :: ws, h => by
    obtain ⟨hv, hvs⟩ := cons.inj h
    rw [Value.toTree_inj v w hv, treeElements_inj vs ws hvs]

theorem treeMembers_inj : ∀ ms ns : List (Text × Value Float64), treeMembers ms = treeMembers ns →
    ms = ns
  | [], [], _ => rfl
  | [], n :: ns, h => by cases h
  | m :: ms, [], h => by cases h
  | (k, v) :: ms, (l, w) :: ns, h => by
    obtain ⟨hm, hms⟩ := cons.inj h
    obtain ⟨hk, hv⟩ := Prod.mk.inj hm
    rw [map_injective_iff.2 quoteChar_injective hk, Value.toTree_inj v w hv,
      treeMembers_inj ms ns hms]

end

theorem marshal_injective : Function.Injective marshal := fun a b h ↦
  a.toTree_inj b (Tree.render_injective h)

/-! ### Reading back what was written -/

mutual

/-- What the program writes, the store keeps such that it is the same value again. -/
theorem Value.mapNum_toValue_toTree : ∀ (a : Value Float64) (v : Value ℚ), a.Sorted →
    a.toTree.toValue = some v → v.mapNum toFloat64 = some a
  | .null, v, _, h => by
    cases h
    rfl
  | .bool b, v, _, h => by
    cases h
    rfl
  | .num f, v, _, h => by
    cases h
    rw [Value.mapNum, toFloat64_eq_some_iff.2 (nearest_value_format f)]
    rfl
  | .str s, v, _, h => by
    obtain ⟨t, ht, rfl⟩ := map_eq_some_iff.1 h
    rw [eq_of_decodeStr_quote ht]
    rfl
  | .arr vs, v, hs, h => by
    obtain ⟨ws, hws, rfl⟩ := map_eq_some_iff.1 h
    rw [Value.mapNum, mapNum_valueElements vs ws hs hws]
    rfl
  | .obj ms, v, hs, h => by
    obtain ⟨ns, hns, rfl⟩ := map_eq_some_iff.1 h
    rw [Value.mapNum, mapNum_valueMembers ms ns hs.1 hs.2 hns]
    rfl

theorem mapNum_valueElements : ∀ (vs : List (Value Float64)) (ws : List (Value ℚ)),
    sortedElements vs → valueElements (treeElements vs) = some ws →
      mapNumElements toFloat64 ws = some vs
  | [], ws, _, h => by
    cases h
    rfl
  | v :: vs, ws, hs, h => by
    simp only [treeElements, valueElements, bind_eq_bind, bind_eq_some_iff, some.injEq] at h
    obtain ⟨w, hw, us, hus, rfl⟩ := h
    simp [mapNumElements, v.mapNum_toValue_toTree w hs.1 hw, mapNum_valueElements vs us hs.2 hus]

theorem mapNum_valueMembers : ∀ (ms : List (Text × Value Float64)) (ns : List (Text × Value ℚ)),
    (ms.map Prod.fst).Pairwise (· < ·) → sortedMembers ms →
      valueMembers (treeMembers ms) = some ns → mapNumMembers toFloat64 ns = some ms
  | [], ns, _, _, h => by
    cases h
    rfl
  | (k, v) :: ms, ns, hkeys, hs, h => by
    simp only [treeMembers, valueMembers, bind_eq_bind, bind_eq_some_iff, some.injEq] at h
    obtain ⟨key, hkey, w, hw, us, hus, rfl⟩ := h
    obtain rfl := eq_of_decodeStr_quote hkey
    obtain ⟨hfst, hrest⟩ := pairwise_cons.1 hkeys
    have hms := mapNum_valueMembers ms us hrest hs.2 hus
    -- The members stored before have the keys of the others, so this one goes first.
    rw [insertMember_of_lt fun l hl ↦ hfst l ((mapNumMembers_spec toFloat64 us ms hms).1 ▸ hl)]
    simp [mapNumMembers, v.mapNum_toValue_toTree w hs.1 hw, hms]

end

/-- How deep the program reads. -/
def maxNestingDepth : ℕ := 10000

/-- What the program makes of a stored value: numbers become doubles. -/
def decode (v : Value ℚ) : Option (Value Float64) :=
  if v.depth ≤ maxNestingDepth then v.mapNum toFloat64 else none

/-- The program could have written the text itself, of a value that it can read. -/
def Writable (t : Tree) : Prop :=
  ∃ a : Value Float64, a.Sorted ∧ a.depth ≤ maxNestingDepth ∧ a.toTree = t

/-- A text comes back from the store as it was exactly if the program could have written it. -/
theorem decode_toTree_iff_writable {t : Tree} {v : Value ℚ} (h : t.toValue = some v) :
    (∃ a, decode v = some a ∧ a.toTree = t) ↔ Writable t := by
  constructor
  · rintro ⟨a, ha, htree⟩
    unfold decode at ha
    split_ifs at ha with hdepth
    obtain ⟨hsort, hsame⟩ := v.mapNum_spec toFloat64 a ha
    exact ⟨a, hsort (t.sorted_of_toValue v h), hsame ▸ hdepth, htree⟩
  · rintro ⟨a, hsort, hdepth, rfl⟩
    have hnum := a.mapNum_toValue_toTree v hsort h
    refine ⟨a, ?_, rfl⟩
    rw [decode, if_pos ((v.mapNum_spec toFloat64 a hnum).2 ▸ hdepth), hnum]

end Json
