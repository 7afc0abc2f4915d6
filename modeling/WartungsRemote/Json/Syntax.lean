import Mathlib.Data.Fintype.Option
import Mathlib.Algebra.Order.Field.Rat
import WartungsRemote.Text.Splitting

/-!
# JSON texts

A JSON text without white space, as a **syntax tree**: numbers and strings are kept as they are
written, members in the order in which they are written. The text determines the tree
(`Json.render_injective`). The proof reads a text from the left: whatever follows a value does not
continue a number (`Ends`), and then the value and what follows it can be told apart
(`Json.render_append_inj`).
-/

namespace Json

open List

/-! ### Numbers -/

/-- The text consists of decimal digits. -/
def Digits (t : Text) : Prop :=
  ∀ c ∈ t, c.isDigit = true

instance : DecidablePred Digits := fun t ↦
  decidable_of_iff (t.all Char.isDigit = true) all_eq_true

/-- The start of an exponent: a letter, maybe capital, and the sign if any; `true` is a minus. -/
def exponentMark (upper : Bool) (sign : Option Bool) : Text :=
  (if upper then 'E' else 'e') :: sign.elim [] (fun minus ↦ if minus then ['-'] else ['+'])

/-- The exponent part of a number. -/
structure Exponent where
  upper : Bool
  sign : Option Bool
  digits : Text
  digits_ne_nil : digits ≠ []
  digits_spec : Digits digits

def Exponent.text (e : Exponent) : Text :=
  exponentMark e.upper e.sign ++ e.digits

def Exponent.value (e : Exponent) : ℤ :=
  if e.sign = some true then -(Nat.ofDigitChars 10 e.digits 0 : ℤ)
  else Nat.ofDigitChars 10 e.digits 0

/-- A number as it is written. -/
structure Numeral where
  negative : Bool
  int : Text
  /-- The digits after the point; there is no point if there are none. -/
  frac : Text
  exp : Option Exponent
  int_ne_nil : int ≠ []
  int_spec : Digits int
  /-- There is no leading zero. -/
  int_head : int.head? = some '0' → int = ['0']
  frac_spec : Digits frac

namespace Numeral

/-- The point and the digits after it. -/
def fracText : Text → Text
  | [] => []
  | c :: f => '.' :: c :: f

def expText : Option Exponent → Text
  | none => []
  | some e => e.text

/-- The number without its sign. -/
def unsigned (n : Numeral) : Text :=
  n.int ++ (fracText n.frac ++ expText n.exp)

def text (n : Numeral) : Text :=
  if n.negative then '-' :: n.unsigned else n.unsigned

/-- The value of the number. -/
def value (n : Numeral) : ℚ :=
  (if n.negative then -1 else 1) * (Nat.ofDigitChars 10 (n.int ++ n.frac) 0 : ℚ) *
    (10 : ℚ) ^ ((n.exp.elim 0 Exponent.value) - n.frac.length : ℤ)

end Numeral

/-- A character that occurs in numbers. -/
def NumberChar (c : Char) : Prop :=
  c.isDigit = true ∨ c ∈ ['-', '+', '.', 'e', 'E']

instance : DecidablePred NumberChar := fun c ↦ by
  unfold NumberChar
  infer_instance

theorem not_isDigit_exponentMark (upper : Bool) (sign : Option Bool) :
    ∀ c ∈ exponentMark upper sign, ¬ c.isDigit = true :=
  Text.forall_mem_of_all (by revert upper sign; decide)

theorem numberChar_exponentMark (upper : Bool) (sign : Option Bool) :
    ∀ c ∈ exponentMark upper sign, NumberChar c :=
  Text.forall_mem_of_all (by revert upper sign; decide)

theorem exponentMark_inj :
    ∀ upper sign upper' sign', exponentMark upper sign = exponentMark upper' sign' →
      upper = upper' ∧ sign = sign' := by
  decide

/-- The letter and the sign end at the first digit. -/
theorem Exponent.text_injective : Function.Injective Exponent.text := by
  rintro ⟨u, s, d, hd, hdig⟩ ⟨u', s', d', hd', hdig'⟩ h
  have hhead : ∀ {t : Text}, Digits t → ∀ c ∈ t.head?, ¬ ¬ c.isDigit = true := fun ht c hc ↦
    not_not.2 (ht c (mem_of_mem_head? hc))
  obtain ⟨hmark, rfl⟩ := Text.span_append_inj (not_isDigit_exponentMark u s)
    (not_isDigit_exponentMark u' s') (hhead hdig) (hhead hdig') h
  obtain ⟨rfl, rfl⟩ := exponentMark_inj u s u' s' hmark
  rfl

namespace Numeral

variable {f f' : Text} {e e' : Option Exponent}

theorem expText_head : ∀ (e : Option Exponent), ∀ c ∈ (expText e).head?, c = 'e' ∨ c = 'E'
  | none => by simp [expText]
  | some e => by cases hu : e.upper <;> simp [expText, Exponent.text, exponentMark, hu]

theorem expText_injective : Function.Injective expText := by
  intro e e' h
  cases e with
  | none =>
    cases e' with
    | none => rfl
    | some => simp [expText, Exponent.text, exponentMark] at h
  | some =>
    cases e' with
    | none => simp [expText, Exponent.text, exponentMark] at h
    | some => rw [Exponent.text_injective h]

theorem fracText_append_head (f : Text) (e : Option Exponent) :
    ∀ c ∈ (fracText f ++ expText e).head?, ¬ c.isDigit = true := by
  cases f with
  | nil =>
    intro c hc
    rcases expText_head e c (by simpa [fracText] using hc) with rfl | rfl <;> decide
  | cons => simp [fracText]

theorem fracText_append_inj (hf : Digits f) (hf' : Digits f')
    (h : fracText f ++ expText e = fracText f' ++ expText e') : f = f' ∧ e = e' := by
  have hexp : ∀ e : Option Exponent, ∀ c ∈ (expText e).head?, ¬ c.isDigit = true := by
    intro e c hc
    rcases expText_head e c hc with rfl | rfl <;> decide
  have hpoint : ∀ (t : Text) (e : Option Exponent), expText e ≠ '.' :: t := by
    intro t e heq
    have := expText_head e '.' (by simp [heq])
    simp at this
  cases f with
  | nil =>
    cases f' with
    | nil => exact ⟨rfl, expText_injective h⟩
    | cons => exact absurd h (hpoint _ e)
  | cons =>
    cases f' with
    | nil => exact absurd h.symm (hpoint _ e')
    | cons =>
      obtain ⟨hdig, hrest⟩ :=
        Text.span_append_inj hf hf' (hexp e) (hexp e') (cons.inj h).2
      exact ⟨hdig, expText_injective hrest⟩

theorem unsigned_ne_nil (n : Numeral) : n.unsigned ≠ [] := by
  simp [unsigned, n.int_ne_nil]

theorem unsigned_head (n : Numeral) : ∀ c ∈ n.unsigned.head?, c.isDigit = true := by
  intro c hc
  cases hint : n.int with
  | nil => exact absurd hint n.int_ne_nil
  | cons d =>
    have hd : d = c := by simpa [unsigned, hint] using hc
    exact hd ▸ n.int_spec d (by simp [hint])

theorem text_injective : Function.Injective text := by
  intro n n' h
  have hminus : ∀ n n' : Numeral, n.unsigned ≠ '-' :: n'.unsigned := by
    intro n n' heq
    have := n.unsigned_head '-' (by simp [heq])
    simp at this
  have hboth : n.negative = n'.negative ∧ n.unsigned = n'.unsigned := by
    unfold text at h
    cases hn : n.negative <;> cases hn' : n'.negative <;> simp only [hn, hn'] at h
    · exact ⟨rfl, h⟩
    · exact absurd h (hminus n n')
    · exact absurd h.symm (hminus n' n)
    · exact ⟨rfl, (cons.inj h).2⟩
  obtain ⟨hneg, hun⟩ := hboth
  obtain ⟨hint, hrest⟩ := Text.span_append_inj n.int_spec n'.int_spec
    (fracText_append_head n.frac n.exp) (fracText_append_head n'.frac n'.exp) hun
  obtain ⟨hfrac, hexp⟩ := fracText_append_inj n.frac_spec n'.frac_spec hrest
  cases n
  cases n'
  simp_all

theorem numberChar_of_mem_text (n : Numeral) : ∀ c ∈ n.text, NumberChar c := by
  have hexp : ∀ e : Option Exponent, ∀ c ∈ expText e, NumberChar c := by
    rintro (_ | e) c hc
    · simp [expText] at hc
    · rcases mem_append.1 hc with hmark | hdig
      · exact numberChar_exponentMark _ _ c hmark
      · exact Or.inl (e.digits_spec c hdig)
  have hfrac : ∀ f : Text, Digits f → ∀ c ∈ fracText f, NumberChar c := by
    rintro (_ | ⟨d, f⟩) hf c hc
    · simp [fracText] at hc
    · rcases mem_cons.1 hc with rfl | hmem
      · decide
      · exact Or.inl (hf c hmem)
  have hun : ∀ c ∈ n.unsigned, NumberChar c := by
    intro c hc
    rcases mem_append.1 hc with hint | hrest
    · exact Or.inl (n.int_spec c hint)
    · exact (mem_append.1 hrest).elim (hfrac _ n.frac_spec c) (hexp _ c)
  intro c hc
  unfold text at hc
  split at hc
  · rcases mem_cons.1 hc with rfl | hmem
    · decide
    · exact hun c hmem
  · exact hun c hc

theorem text_eq_cons (n : Numeral) : ∃ c t, n.text = c :: t ∧ (c = '-' ∨ c.isDigit = true) := by
  unfold text
  split
  · exact ⟨'-', n.unsigned, rfl, Or.inl rfl⟩
  · cases hun : n.unsigned with
    | nil => exact absurd hun n.unsigned_ne_nil
    | cons c t => exact ⟨c, t, rfl, Or.inr (n.unsigned_head c (by simp [hun]))⟩

end Numeral

/-! ### Strings -/

/-- The escapes of one letter. -/
inductive Escape
  | quotationMark | reverseSolidus | solidus | backspace | formFeed | lineFeed | carriageReturn
  | tab deriving DecidableEq

namespace Escape

/-- The letter after the backslash. -/
def letter : Escape → Char
  | quotationMark => '"'
  | reverseSolidus => '\\'
  | solidus => '/'
  | backspace => 'b'
  | formFeed => 'f'
  | lineFeed => 'n'
  | carriageReturn => 'r'
  | tab => 't'

/-- The character that is meant. -/
def char : Escape → Char
  | quotationMark => '"'
  | reverseSolidus => '\\'
  | solidus => '/'
  | backspace => '\x08'
  | formFeed => '\x0c'
  | lineFeed => '\n'
  | carriageReturn => '\r'
  | tab => '\t'

theorem letter_injective : Function.Injective letter := by
  intro e e' h
  cases e <;> cases e' <;> first | rfl | exact absurd h (by decide)

theorem letter_ne_u (e : Escape) : e.letter ≠ 'u' := by
  cases e <;> decide

end Escape

/-- A hexadecimal digit, of either case. -/
def isHexDigit (c : Char) : Bool :=
  c.isDigit || ('a' ≤ c && c ≤ 'f') || ('A' ≤ c && c ≤ 'F')

abbrev HexDigit : Type := { c : Char // isHexDigit c = true }

/-- A character may stand in a string as it is. -/
def Unescaped (c : Char) : Prop :=
  0x20 ≤ c.toNat ∧ c ≠ '"' ∧ c ≠ '\\'

instance : DecidablePred Unescaped := fun c ↦ by
  unfold Unescaped
  infer_instance

/-- A character of a string, as it is written. -/
inductive StrChar
  | plain (c : Char) (h : Unescaped c)
  | short (e : Escape)
  | unicode (d₁ d₂ d₃ d₄ : HexDigit)

def StrChar.text : StrChar → Text
  | plain c _ => [c]
  | short e => ['\\', e.letter]
  | unicode d₁ d₂ d₃ d₄ => ['\\', 'u', d₁, d₂, d₃, d₄]

/-- The rest of a string, up to and including its closing quotation mark. -/
def strText : List StrChar → Text
  | [] => ['"']
  | p :: s => p.text ++ strText s

/-- A written character is recognised by its first letters. -/
theorem StrChar.text_append_inj {p p' : StrChar} {x x' : Text} (h : p.text ++ x = p'.text ++ x') :
    p = p' ∧ x = x' := by
  cases p with
  | plain _ hc =>
    cases p' with
    | plain =>
      obtain ⟨rfl, hx⟩ := cons.inj h
      exact ⟨rfl, hx⟩
    | short | unicode => exact absurd (cons.inj h).1 hc.2.2
  | short e =>
    cases p' with
    | plain _ hc' => exact absurd (cons.inj h).1.symm hc'.2.2
    | short =>
      obtain ⟨hletter, hx⟩ := cons.inj (cons.inj h).2
      exact ⟨congrArg short (Escape.letter_injective hletter), hx⟩
    | unicode => exact absurd (cons.inj (cons.inj h).2).1 e.letter_ne_u
  | unicode =>
    cases p' with
    | plain _ hc' => exact absurd (cons.inj h).1.symm hc'.2.2
    | short e' => exact absurd (cons.inj (cons.inj h).2).1.symm e'.letter_ne_u
    | unicode =>
      simp only [text, cons_append, nil_append, cons.injEq, true_and, Subtype.coe_inj] at h
      obtain ⟨rfl, rfl, rfl, rfl, hx⟩ := h
      exact ⟨rfl, hx⟩

theorem StrChar.text_append_ne (p : StrChar) (x y : Text) : p.text ++ x ≠ '"' :: y := by
  intro h
  cases p with
  | plain _ hc => exact hc.2.1 (cons.inj h).1
  | short | unicode => exact absurd (cons.inj h).1 (by decide)

/-- A string ends at its closing quotation mark. -/
theorem strText_append_inj {s s' : List StrChar} {x x' : Text}
    (h : strText s ++ x = strText s' ++ x') : s = s' ∧ x = x' := by
  induction s generalizing s' with
  | nil =>
    cases s' with
    | nil => exact ⟨rfl, (cons.inj h).2⟩
    | cons p' =>
      rw [strText, strText, append_assoc] at h
      exact absurd h.symm (p'.text_append_ne _ _)
  | cons p _ ih =>
    rw [strText, append_assoc] at h
    cases s' with
    | nil => exact absurd h (p.text_append_ne _ _)
    | cons =>
      rw [strText, append_assoc] at h
      obtain ⟨rfl, hrest⟩ := StrChar.text_append_inj h
      obtain ⟨rfl, hx⟩ := ih hrest
      exact ⟨rfl, hx⟩

/-! ### Values -/

/-- A JSON value as it is written. -/
inductive Tree
  | null
  | bool (b : Bool)
  | num (n : Numeral)
  | str (s : List StrChar)
  | arr (elements : List Tree)
  | obj (members : List (List StrChar × Tree))

/-- The comma before every element and member but the first one. -/
def comma (first : Bool) : Text :=
  if first then [] else [',']

mutual

/-- The text of a value. -/
def Tree.render : Tree → Text
  | .null => ['n', 'u', 'l', 'l']
  | .bool true => ['t', 'r', 'u', 'e']
  | .bool false => ['f', 'a', 'l', 's', 'e']
  | .num n => n.text
  | .str s => '"' :: strText s
  | .arr ts => '[' :: renderElements true ts
  | .obj ms => '{' :: renderMembers true ms

/-- The elements of an array and its closing bracket. -/
def renderElements (first : Bool) : List Tree → Text
  | [] => [']']
  | t :: ts => comma first ++ (t.render ++ renderElements false ts)

/-- The members of an object and its closing brace. -/
def renderMembers (first : Bool) : List (List StrChar × Tree) → Text
  | [] => ['}']
  | (k, t) :: ms =>
    comma first ++ ('"' :: (strText k ++ ':' :: (t.render ++ renderMembers false ms)))

end

/-- What follows a value does not continue a number. -/
def Ends (x : Text) : Prop :=
  ∀ c ∈ x.head?, ¬ NumberChar c

/-- The kind of value that starts with a character; `0` if there is none. -/
def leadKind (c : Char) : ℕ :=
  if c = 'n' then 1 else if c = 't' ∨ c = 'f' then 2 else if c = '-' ∨ c.isDigit = true then 3
  else if c = '"' then 4 else if c = '[' then 5 else if c = '{' then 6 else 0

/-- The kind of a value, as its first character shows it. -/
def Tree.kind : Tree → ℕ
  | .null => 1
  | .bool _ => 2
  | .num _ => 3
  | .str _ => 4
  | .arr _ => 5
  | .obj _ => 6

namespace Tree

theorem render_eq_cons : ∀ t : Tree, ∃ c x, t.render = c :: x ∧ leadKind c = t.kind
  | .null => ⟨_, _, rfl, rfl⟩
  | .bool true => ⟨_, _, rfl, rfl⟩
  | .bool false => ⟨_, _, rfl, rfl⟩
  | .num n => by
    obtain ⟨c, x, htext, hc⟩ := n.text_eq_cons
    refine ⟨c, x, by rw [render, htext], ?_⟩
    have hne : c ≠ 'n' ∧ c ≠ 't' ∧ c ≠ 'f' := by
      rcases hc with rfl | hc
      · decide
      · refine ⟨?_, ?_, ?_⟩ <;> rintro rfl <;> exact absurd hc (by decide)
    simp [leadKind, kind, hne, hc]
  | .str s => ⟨_, _, rfl, rfl⟩
  | .arr ts => ⟨_, _, rfl, rfl⟩
  | .obj ms => ⟨_, _, rfl, rfl⟩

variable {t t' : Tree} {x x' : Text}

theorem kind_eq_of_render (h : t.render ++ x = t'.render ++ x') : t.kind = t'.kind := by
  obtain ⟨c, y, ht, hc⟩ := t.render_eq_cons
  obtain ⟨_, _, ht', hc'⟩ := t'.render_eq_cons
  rw [ht, ht'] at h
  rw [← hc, ← hc', (cons.inj h).1]

theorem render_append_ne (t : Tree) {x y : Text} {c : Char} (hc : leadKind c = 0) :
    t.render ++ x ≠ c :: y := by
  intro h
  obtain ⟨d, z, ht, hd⟩ := t.render_eq_cons
  rw [ht] at h
  have hkind : t.kind = 0 := by rw [← hd, (cons.inj h).1, hc]
  cases t <;> simp [kind] at hkind

end Tree

theorem ends_renderElements (ts : List Tree) (x : Text) : Ends (renderElements false ts ++ x) := by
  cases ts with
  | nil => simp [Ends, renderElements, NumberChar]
  | cons => simp [Ends, renderElements, comma, NumberChar]

theorem ends_renderMembers (ms : List (List StrChar × Tree)) (x : Text) :
    Ends (renderMembers false ms ++ x) := by
  cases ms with
  | nil => simp [Ends, renderMembers, NumberChar]
  | cons => simp [Ends, renderMembers, comma, NumberChar]

/-! ### The text determines the value -/

mutual

/-- A value and what follows it can be told apart. -/
theorem Tree.render_append_inj : ∀ (t t' : Tree) (x x' : Text), Ends x → Ends x' →
    t.render ++ x = t'.render ++ x' → t = t' ∧ x = x'
  | .null, t', x, x', _, _, h => by
    have hkind := Tree.kind_eq_of_render h
    cases t' with
    | null => exact ⟨rfl, append_cancel_left h⟩
    | _ => simp [Tree.kind] at hkind
  | .bool b, t', x, x', _, _, h => by
    have hkind := Tree.kind_eq_of_render h
    cases t' with
    | bool b' =>
      cases b <;> cases b' <;> simp [Tree.render] at h ⊢ <;> exact h
    | _ => simp [Tree.kind] at hkind
  | .num n, t', x, x', hx, hx', h => by
    have hkind := Tree.kind_eq_of_render h
    cases t' with
    | num n' =>
      obtain ⟨htext, hrest⟩ := Text.span_append_inj n.numberChar_of_mem_text
        n'.numberChar_of_mem_text hx hx' h
      exact ⟨congrArg Tree.num (Numeral.text_injective htext), hrest⟩
    | _ => simp [Tree.kind] at hkind
  | .str s, t', x, x', _, _, h => by
    have hkind := Tree.kind_eq_of_render h
    cases t' with
    | str =>
      obtain ⟨hs, hrest⟩ := strText_append_inj (cons.inj h).2
      exact ⟨congrArg Tree.str hs, hrest⟩
    | _ => simp [Tree.kind] at hkind
  | .arr ts, t', x, x', _, _, h => by
    have hkind := Tree.kind_eq_of_render h
    cases t' with
    | arr ts' =>
      obtain ⟨hts, hrest⟩ := renderElements_append_inj true ts ts' x x' (cons.inj h).2
      exact ⟨congrArg Tree.arr hts, hrest⟩
    | _ => simp [Tree.kind] at hkind
  | .obj ms, t', x, x', _, _, h => by
    have hkind := Tree.kind_eq_of_render h
    cases t' with
    | obj ms' =>
      obtain ⟨hms, hrest⟩ := renderMembers_append_inj true ms ms' x x' (cons.inj h).2
      exact ⟨congrArg Tree.obj hms, hrest⟩
    | _ => simp [Tree.kind] at hkind

theorem renderElements_append_inj : ∀ (first : Bool) (ts ts' : List Tree) (x x' : Text),
    renderElements first ts ++ x = renderElements first ts' ++ x' → ts = ts' ∧ x = x'
  | first, [], [], x, x', h => ⟨rfl, (cons.inj h).2⟩
  | first, [], t' :: ts', x, x', h => by
    cases first with
    | true =>
      simp only [renderElements, comma, if_true, nil_append, append_assoc] at h
      exact absurd h.symm (t'.render_append_ne (by decide))
    | false => simp [renderElements, comma] at h
  | first, t :: ts, [], x, x', h => by
    cases first with
    | true =>
      simp only [renderElements, comma, if_true, nil_append, append_assoc] at h
      exact absurd h (t.render_append_ne (by decide))
    | false => simp [renderElements, comma] at h
  | first, t :: ts, t' :: ts', x, x', h => by
    simp only [renderElements, append_assoc] at h
    obtain ⟨rfl, hrest⟩ := Tree.render_append_inj t t' _ _ (ends_renderElements ts x)
      (ends_renderElements ts' x') (append_cancel_left h)
    obtain ⟨rfl, hx⟩ := renderElements_append_inj false ts ts' x x' hrest
    exact ⟨rfl, hx⟩

theorem renderMembers_append_inj : ∀ (first : Bool) (ms ms' : List (List StrChar × Tree))
    (x x' : Text), renderMembers first ms ++ x = renderMembers first ms' ++ x' → ms = ms' ∧ x = x'
  | first, [], [], x, x', h => ⟨rfl, (cons.inj h).2⟩
  | first, [], (k', t') :: ms', x, x', h => by cases first <;> simp [renderMembers, comma] at h
  | first, (k, t) :: ms, [], x, x', h => by cases first <;> simp [renderMembers, comma] at h
  | first, (k, t) :: ms, (k', t') :: ms', x, x', h => by
    simp only [renderMembers, append_assoc, cons_append] at h
    obtain ⟨rfl, hvalue⟩ := strText_append_inj (cons.inj (append_cancel_left h)).2
    obtain ⟨rfl, hrest⟩ := Tree.render_append_inj t t' _ _ (ends_renderMembers ms x)
      (ends_renderMembers ms' x') (cons.inj hvalue).2
    obtain ⟨rfl, hx⟩ := renderMembers_append_inj false ms ms' x x' hrest
    exact ⟨rfl, hx⟩

end

theorem Tree.render_injective : Function.Injective render := by
  intro t t' h
  have hends : Ends [] := by simp [Ends]
  exact (render_append_inj t t' [] [] hends hends (by simpa using h)).1

end Json
