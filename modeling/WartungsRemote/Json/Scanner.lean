import WartungsRemote.Json.Syntax
import WartungsRemote.Transition.Run

/-!
# JSON objects read from the right

The text of an object is not a proper suffix of the text of another one: whatever is written before
an object, the object can be told apart from it (`suffixFree_objectText`).

The argument follows a scanner that knows, at each character, whether it is inside a string and how
many braces are open. If the text of an object ends with the text of another one, consider the state
of the scanner where the second one begins. Inside a string, the second text would end inside a
string, since it has as many quotation marks before each character the other way round, and a
backslash outside of strings occurs in no text. Outside of strings, it would end at the depth at
which it begins; but only at both ends is an object's text at depth zero.
-/

namespace Json

open List Transition

/-- Where a scanner is. -/
inductive Mode
  | out
  | quoted
  /-- In a string, after a backslash. -/
  | escaped
  deriving DecidableEq

/-- The mode, and the number of open braces. -/
abbrev ScanState : Type := Mode × ℕ

/-- A closing brace outside of strings. -/
def closeBrace : ℕ → Option ScanState
  | 0 => none
  | d + 1 => some (.out, d)

/-- One character: undefined at an unmatched closing brace, and at a backslash outside strings. -/
def scanStep : ScanState → Char → Option ScanState
  | (.out, d), c =>
    if c = '"' then some (.quoted, d)
    else if c = '\\' then none
    else if c = '{' then some (.out, d + 1)
    else if c = '}' then closeBrace d
    else some (.out, d)
  | (.quoted, d), c =>
    if c = '"' then some (.out, d)
    else if c = '\\' then some (.escaped, d)
    else some (.quoted, d)
  | (.escaped, d), _ => some (.quoted, d)

/-- Scan a text. -/
abbrev scan (s : ScanState) (t : Text) : Option ScanState :=
  exec scanStep s t

theorem scan_cons (s : ScanState) (c : Char) (t : Text) :
    scan s (c :: t) = (scanStep s c).bind fun u ↦ scan u t := rfl

theorem scan_append (s : ScanState) (t u : Text) : scan s (t ++ u) = (scan s t).bind fun v ↦
    scan v u :=
  exec_append scanStep s t u

/-- The text leaves the scanner as it was outside strings; within a string, it ends within one. -/
structure Balanced (t : Text) : Prop where
  out : ∀ d, scan (.out, d) t = some (.out, d)
  quoted : ∀ d s, scan (.quoted, d) t = some s → s.1 = .quoted

/-- A character that the scanner ignores outside of strings. -/
def Ordinary (c : Char) : Prop :=
  c ∉ ['"', '\\', '{', '}']

instance : DecidablePred Ordinary := fun c ↦ by
  unfold Ordinary
  infer_instance

theorem NumberChar.ordinary {c : Char} (hc : NumberChar c) : Ordinary c := by
  have hspecial : ∀ c ∈ ['"', '\\', '{', '}'], ¬ NumberChar c :=
    Text.forall_mem_of_all (by decide)
  exact fun hmem ↦ hspecial c hmem hc

theorem scanStep_out {c : Char} (hc : Ordinary c) (d : ℕ) :
    scanStep (.out, d) c = some (.out, d) := by
  simp only [Ordinary, mem_cons, not_mem_nil, or_false, not_or] at hc
  simp [scanStep, hc]

theorem scanStep_quoted {c : Char} (hq : c ≠ '"') (hb : c ≠ '\\') (d : ℕ) :
    scanStep (.quoted, d) c = some (.quoted, d) := by
  simp [scanStep, hq, hb]

namespace Balanced

variable {t u : Text}

theorem nil : Balanced [] :=
  ⟨fun _ ↦ rfl, fun d s hs ↦ by
    obtain rfl : (Mode.quoted, d) = s := by simpa using hs
    rfl⟩

theorem append (ht : Balanced t) (hu : Balanced u) : Balanced (t ++ u) := by
  refine ⟨fun d ↦ ?_, fun d s hs ↦ ?_⟩
  · rw [scan_append, ht.out d]
    exact hu.out d
  · obtain ⟨⟨m, e⟩, hfst, hsnd⟩ := (exec_append_eq_some_iff scanStep).1 hs
    obtain rfl : m = .quoted := ht.quoted d _ hfst
    exact hu.quoted e s hsnd

theorem singleton {c : Char} (hc : Ordinary c) : Balanced [c] := by
  have hne : c ≠ '"' ∧ c ≠ '\\' := by
    simp only [Ordinary, mem_cons, not_mem_nil, or_false, not_or] at hc
    exact ⟨hc.1, hc.2.1⟩
  refine ⟨fun d ↦ by simp [scan_cons, scanStep_out hc], fun d s hs ↦ ?_⟩
  obtain rfl : (Mode.quoted, d) = s := by
    simpa [scan_cons, scanStep_quoted hne.1 hne.2] using hs
  rfl

theorem cons {c : Char} (hc : Ordinary c) (ht : Balanced t) : Balanced (c :: t) :=
  (singleton hc).append ht

theorem of_ordinary (ht : ∀ c ∈ t, Ordinary c) : Balanced t := by
  induction t with
  | nil => exact nil
  | cons c _ ih => exact cons (ht c (by simp)) (ih fun d hd ↦ ht d (by simp [hd]))

theorem braces (ht : Balanced t) : Balanced ('{' :: (t ++ ['}'])) := by
  refine ⟨fun d ↦ ?_, fun d s hs ↦ ?_⟩
  · change scan (.out, d + 1) (t ++ ['}']) = some (.out, d)
    rw [scan_append, ht.out (d + 1)]
    rfl
  · obtain ⟨⟨m, e⟩, hmid, hlast⟩ := (exec_append_eq_some_iff scanStep).1
      (show scan (.quoted, d) (t ++ ['}']) = some s from hs)
    obtain rfl : m = .quoted := ht.quoted d _ hmid
    obtain rfl : (Mode.quoted, e) = s := by simpa [scan_cons, scanStep] using hlast
    rfl

end Balanced

theorem balanced_comma (first : Bool) : Balanced (comma first) := by
  cases first
  · exact .singleton (by decide)
  · exact .nil

/-! ### Strings -/

theorem scan_strText : ∀ (s : List StrChar) (d : ℕ), scan (.quoted, d) (strText s) = some (.out, d)
  | [], d => rfl
  | .plain c hc :: s, d => by
    rw [strText, StrChar.text, singleton_append, scan_cons, scanStep_quoted hc.2.1 hc.2.2]
    exact scan_strText s d
  | .short e :: s, d => scan_strText s d
  | .unicode d₁ d₂ d₃ d₄ :: s, d => by
    have hhex : ∀ h : HexDigit, (h : Char) ≠ '"' ∧ (h : Char) ≠ '\\' := by
      rintro ⟨h, hh⟩
      refine ⟨?_, ?_⟩ <;> rintro rfl <;> exact absurd hh (by decide)
    have hstep : ∀ (h : HexDigit) (t : Text), scan (.quoted, d) (h :: t) = scan (.quoted, d) t := by
      intro h t
      rw [scan_cons, scanStep_quoted (hhex h).1 (hhex h).2]
      rfl
    change scan (.quoted, d) (d₁ :: d₂ :: d₃ :: d₄ :: strText s) = some (.out, d)
    rw [hstep, hstep, hstep, hstep]
    exact scan_strText s d

/-- A string taken for what is outside of strings ends where the next one begins. -/
theorem scan_strText_out : ∀ (s : List StrChar) (d : ℕ) (u : ScanState),
    scan (.out, d) (strText s) = some u → u.1 = .quoted
  | [], d, u, h => by
    obtain rfl : (Mode.quoted, d) = u := by simpa [scan_cons, scanStep, strText] using h
    rfl
  | .plain c hc :: s, d, u, h => by
    obtain ⟨⟨m, e⟩, hstep, hrest⟩ := (exec_cons_eq_some_iff scanStep).1 h
    have hm : m = .out := by
      rw [scanStep, if_neg hc.2.1, if_neg hc.2.2] at hstep
      cases d with
      | zero | succ => split_ifs at hstep <;> cases hstep <;> rfl
    subst hm
    exact scan_strText_out s e u hrest
  | .short e :: s, d, u, h => by cases h
  | .unicode d₁ d₂ d₃ d₄ :: s, d, u, h => by cases h

theorem balanced_string (s : List StrChar) : Balanced ('"' :: strText s) :=
  ⟨fun d ↦ scan_strText s d, fun d u h ↦ scan_strText_out s d u h⟩

/-! ### Values -/

mutual

theorem Tree.balanced_render : ∀ t : Tree, Balanced t.render
  | .null => .of_ordinary (Text.forall_mem_of_all (by decide))
  | .bool true => .of_ordinary (Text.forall_mem_of_all (by decide))
  | .bool false => .of_ordinary (Text.forall_mem_of_all (by decide))
  | .num n => .of_ordinary fun c hc ↦ (n.numberChar_of_mem_text c hc).ordinary
  | .str s => balanced_string s
  | .arr ts => .cons (by decide) (balanced_renderElements true ts)
  | .obj ms => by
    obtain ⟨mid, hmid, heq⟩ := balanced_renderMembers true ms
    rw [Tree.render, heq]
    exact hmid.braces

theorem balanced_renderElements : ∀ (first : Bool) (ts : List Tree),
    Balanced (renderElements first ts)
  | _, [] => .singleton (by decide)
  | first, t :: ts =>
    (balanced_comma first).append (t.balanced_render.append (balanced_renderElements false ts))

theorem balanced_renderMembers : ∀ (first : Bool) (ms : List (List StrChar × Tree)),
    ∃ mid, Balanced mid ∧ renderMembers first ms = mid ++ ['}']
  | _, [] => ⟨[], .nil, rfl⟩
  | first, (k, t) :: ms => by
    obtain ⟨mid, hmid, heq⟩ := balanced_renderMembers false ms
    refine ⟨comma first ++ (('"' :: strText k) ++ ':' :: (t.render ++ mid)), ?_, ?_⟩
    · exact (balanced_comma first).append ((balanced_string k).append
        (.cons (by decide) (t.balanced_render.append hmid)))
    · simp [renderMembers, heq]

end

/-! ### Reading an object from the right -/

/-- One more open brace around a text makes no difference to it. -/
theorem scan_lift {t : Text} {m m' : Mode} {d d' : ℕ} (h : scan (m, d) t = some (m', d')) :
    scan (m, d + 1) t = some (m', d' + 1) := by
  induction t generalizing m d with
  | nil =>
    cases h
    rfl
  | cons c _ ih =>
    obtain ⟨⟨n, e⟩, hstep, hrest⟩ := (exec_cons_eq_some_iff scanStep).1 h
    have hlift : scanStep (m, d + 1) c = some (n, e + 1) := by
      cases m with
      | escaped =>
        cases hstep
        rfl
      | quoted =>
        rw [scanStep] at hstep ⊢
        split_ifs at hstep ⊢ <;> cases hstep <;> rfl
      | out =>
        rw [scanStep] at hstep ⊢
        cases d with
        | zero | succ => split_ifs at hstep ⊢ <;> cases hstep <;> rfl
    rw [scan_cons, hlift]
    exact ih hrest

/-- Inside the braces of an object the scanner never is where it was before them. -/
theorem scan_ne_of_braces {mid x y : Text} (hmid : Balanced mid) (h : mid ++ ['}'] = x ++ y)
    (hy : y ≠ []) : scan (.out, 1) x ≠ some (.out, 0) := by
  intro hscan
  obtain ⟨z, rfl⟩ : ∃ z, mid = x ++ z := by
    rcases append_eq_append_iff.1 h with ⟨w, rfl, hlast⟩ | ⟨w, rfl, -⟩
    · cases w with
      | nil => exact ⟨[], by simp⟩
      | cons =>
        obtain ⟨-, hw⟩ := cons.inj hlast
        obtain ⟨rfl, rfl⟩ := append_eq_nil_iff.1 hw.symm
        exact absurd rfl hy
    · exact ⟨w, rfl⟩
  obtain ⟨⟨m, e⟩, hx, -⟩ := (exec_append_eq_some_iff scanStep).1 (hmid.out 0)
  have hlift : scan (.out, 1) x = some (m, e + 1) := scan_lift hx
  rw [hscan] at hlift
  cases hlift

theorem scan_obj_ne_out (ms : List (List StrChar × Tree)) (m : Mode) (hm : m ≠ .out) (d e : ℕ) :
    scan (m, d) (Tree.obj ms).render ≠ some (.out, e) := by
  intro h
  have hquoted : scan (.quoted, d) (Tree.obj ms).render = some (.out, e) := by
    cases m with
    | out => exact absurd rfl hm
    | quoted | escaped => exact h
  cases (Tree.obj ms).balanced_render.quoted d _ hquoted

/-- The text of an object is not a proper suffix of the text of another one. -/
theorem eq_of_obj_suffix {ms ms' : List (List StrChar × Tree)}
    (h : (Tree.obj ms).render <:+ (Tree.obj ms').render) :
    (Tree.obj ms).render = (Tree.obj ms').render := by
  obtain ⟨x, hx⟩ := h
  obtain ⟨⟨m, d⟩, hfst, hsnd⟩ := (exec_append_eq_some_iff scanStep).1
    (hx ▸ (Tree.obj ms').balanced_render.out 0)
  obtain rfl : m = .out := not_not.1 fun hm ↦ scan_obj_ne_out ms m hm d 0 hsnd
  obtain rfl : d = 0 := by
    have hsame : scan (.out, d) (Tree.obj ms).render = some (.out, d) :=
      (Tree.obj ms).balanced_render.out d
    have := hsame.symm.trans hsnd
    simpa using this
  cases x with
  | nil => simpa using hx
  | cons c x =>
    obtain ⟨mid, hmid, hms⟩ := balanced_renderMembers true ms'
    have hrest : x ++ (Tree.obj ms).render = mid ++ ['}'] := by
      rw [← hms]
      exact (cons.inj hx).2
    obtain rfl : c = '{' := (cons.inj hx).1
    exact absurd hfst (scan_ne_of_braces hmid hrest.symm (by simp [Tree.render]))

/-- The texts of objects, and `null`. -/
def objectText : Set Text :=
  { x | x = Tree.null.render ∨ ∃ ms, x = (Tree.obj ms).render }

/-- The text of an object ends with a brace, so it is not confused with `null`. -/
theorem getLast?_obj_render (ms : List (List StrChar × Tree)) :
    (Tree.obj ms).render.getLast? = some '}' := by
  obtain ⟨_, -, hms⟩ := balanced_renderMembers true ms
  rw [Tree.render, hms, ← cons_append, getLast?_concat]

theorem suffixFree_objectText : Text.SuffixFree objectText := by
  have hlast : ∀ {u v : Text}, u <:+ v → u ≠ [] → u.getLast? = v.getLast? := by
    rintro u v ⟨x, rfl⟩ hu
    rw [getLast?_append_of_ne_nil _ hu]
  rintro u (rfl | ⟨_, rfl⟩) v (rfl | ⟨_, rfl⟩) huv
  · rfl
  · have := hlast huv (by simp [Tree.render])
    rw [getLast?_obj_render] at this
    simp [Tree.render] at this
  · have := hlast huv (by simp [Tree.render])
    rw [getLast?_obj_render] at this
    simp [Tree.render] at this
  · exact eq_of_obj_suffix huv

end Json
