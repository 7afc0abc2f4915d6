import WartungsRemote.AgentRelease.Sync

/-!
# The sections of the help

`Parse` splits a text into sections at its headings and gives each one a **slug**, under which
`handleHelpPage` serves it. A slug that was given before gets a number. But the number is counted
under the slug without it, and the slug with it is counted for itself: the third of three equal
headings gets the same slug as the second (`not_nodup_three`).

What decides are the slugs of the headings, `bᵢ`. As long as all sections differ, the one of `bᵢ` is
`bᵢ`, or `bᵢ-2` where `bᵢ` was given before (`Given`), and the next one is told apart from all of
them unless `b` and `b-2` both were (`slugs_nodup_iff`).
-/

namespace WartungsRemote.Help

open List
open AgentRelease (trimSpace)

-- `unicode.ToLower`
variable (lower : Char → Char)

/-- The section without its HTML, which is made of the body alone. -/
structure Section where
  slug : Text
  title : Text
  body : List Text
  deriving DecidableEq

/-- The replacer of `slugify`. -/
def transliterate : Char → Text
  | 'ä' => ['a', 'e']
  | 'ö' => ['o', 'e']
  | 'ü' => ['u', 'e']
  | 'ß' => ['s', 's']
  | c => [c]

/-- Every block of characters other than `[a-z0-9]` is replaced by one dash. -/
def dashed (inBlock : Bool) : Text → Text
  | [] => []
  | c :: cs =>
    if c.isLower ∨ c.isDigit then c :: dashed false cs
    else if inBlock then dashed true cs
    else '-' :: dashed true cs

def slugify (title : Text) : Text :=
  let s := dashed false ((title.map lower).flatMap transliterate)
  ((s.dropWhile (· = '-')).reverse.dropWhile (· = '-')).reverse

/-- `^## (.+)$`. -/
def h2Pattern : Text → Option Text
  | '#' :: '#' :: ' ' :: c :: cs => some (c :: cs)
  | _ => none

/-- `strings.ReplaceAll(markdown, "\r\n", "\n")`. -/
def unixLines : Text → Text
  | '\r' :: '\n' :: cs => '\n' :: unixLines cs
  | c :: cs => c :: unixLines cs
  | [] => []

/-- The slug that `flush` makes of the slug of a title: `seen` counts those given. -/
def freshSlug (given : List Text) (slug : Text) : Text :=
  if given.count slug > 0 then slug ++ '-' :: Nat.toDigits 10 (given.count slug + 1) else slug

/-- The variables of `Parse`. -/
structure Parser where
  sections : List Section
  title : Text
  body : List Text

def Parser.flush (p : Parser) : List Section :=
  if p.title = [] then p.sections
  else
    p.sections ++ [⟨freshSlug (p.sections.map Section.slug) (slugify lower p.title), p.title,
      p.body⟩]

def Parser.line (p : Parser) (line : Text) : Parser :=
  match h2Pattern line with
  | some title => ⟨p.flush lower, trimSpace title, []⟩
  | none => if p.title ≠ [] then { p with body := p.body ++ [line] } else p

def parse (markdown : Text) : List Section :=
  (((unixLines markdown).splitOn '\n').foldl (Parser.line lower) ⟨[], [], []⟩).flush lower

/-- The titles of the sections: the headings that are not blank. -/
def headings (markdown : Text) : List Text :=
  ((((unixLines markdown).splitOn '\n').filterMap h2Pattern).map trimSpace).filter (· ≠ [])

/-- Headings with these slugs, the last one first, are given the slug `s`, if no two are given the
same: one has it, or has it without `-2` and comes after another one given just that. -/
def Given : List Text → Text → Prop
  | [], _ => False
  | b :: before, s => s = b ∨ s = b ++ ['-', '2'] ∧ Given before b ∨ Given before s

/-- Every section has the slug that its title gets after those of the sections before it. -/
inductive Assigned : List Section → Prop
  | nil : Assigned []
  | snoc {sections : List Section} (h : Assigned sections) (title : Text) (body : List Text) :
      Assigned (sections ++ [⟨freshSlug (sections.map Section.slug) (slugify lower title), title,
        body⟩])

variable {lower}

theorem Assigned.flush {p : Parser} (h : Assigned lower p.sections) :
    Assigned lower (p.flush lower) := by
  unfold Parser.flush
  split_ifs
  · exact h
  · exact h.snoc ..

/-- `flush` adds the title, unless it is blank. -/
theorem titles_flush (p : Parser) : (p.flush lower).map Section.title =
    p.sections.map Section.title ++ [p.title].filter (· ≠ []) := by
  unfold Parser.flush
  split_ifs with htitle <;> simp [htitle]

theorem assigned_parse (markdown : Text) : Assigned lower (parse lower markdown) := by
  refine Assigned.flush ?_
  generalize splitOn '\n' (unixLines markdown) = lines
  induction lines using reverseRecOn with
  | nil => exact .nil
  | append_singleton lines line ih =>
    rw [foldl_concat, Parser.line]
    split
    · exact ih.flush
    · split_ifs <;> exact ih

/-- **The sections are those of the headings**, in order. -/
theorem titles_parse (markdown : Text) :
    (parse lower markdown).map Section.title = headings markdown := by
  unfold parse headings
  generalize splitOn '\n' (unixLines markdown) = lines
  induction lines using reverseRecOn with
  | nil => rfl
  | append_singleton lines line ih =>
    rw [foldl_concat, Parser.line, filterMap_append, map_append, filter_append, ← ih]
    -- a heading ends the section before it, and any other line leaves the title as it is
    split
    next hline => simp [titles_flush, hline]
    next hline =>
      split_ifs <;> simp [titles_flush, hline]

/-- The slug of the next section is new iff that of its title or the one with number two is. -/
theorem freshSlug_notMem_iff {given : List Text} {slug : Text} (h : given.Nodup) :
    freshSlug given slug ∉ given ↔ (slug ∈ given → slug ++ ['-', '2'] ∉ given) := by
  by_cases hmem : slug ∈ given
  · have hcnt : given.count slug = 1 := count_eq_one_of_mem h hmem
    rw [freshSlug, hcnt, if_pos one_pos]
    simp only [hmem, true_imp_iff]
    rfl
  · rw [freshSlug, if_neg (by simpa [count_pos_iff] using hmem)]
    simp [hmem]

/-- As long as the slugs differ, `Given` says which ones there are. -/
theorem Assigned.mem_slugs_iff {sections : List Section} (h : Assigned lower sections)
    (hnd : (sections.map Section.slug).Nodup) (s : Text) : s ∈ sections.map Section.slug ↔
      Given ((sections.map fun x ↦ slugify lower x.title).reverse) s := by
  induction h generalizing s with
  | nil => simp [Given]
  | @snoc sections _ title body ih =>
    rw [map_append, map_singleton, ← concat_eq_append, nodup_concat] at hnd
    have hih := ih hnd.2
    rw [map_append, map_append, map_singleton, map_singleton, reverse_append, reverse_singleton,
      singleton_append, Given, ← hih, ← hih, mem_append, mem_singleton]
    by_cases hmem : slugify lower title ∈ sections.map Section.slug
    · rw [freshSlug, count_eq_one_of_mem hnd.2 hmem, if_pos one_pos]
      show _ ∨ s = slugify lower title ++ ['-', '2'] ↔ _
      grind
    · rw [freshSlug, if_neg (by simpa [count_pos_iff] using hmem)]
      grind

/-- **The slugs are distinct** exactly if no heading comes after others given both its slug and that
slug with the number two. -/
theorem slugs_nodup_iff (markdown : Text) : ((parse lower markdown).map Section.slug).Nodup ↔
    ∀ b before, b :: before <:+ ((headings markdown).map (slugify lower)).reverse →
      Given before b → ¬ Given before (b ++ ['-', '2']) := by
  have h : Assigned lower (parse lower markdown) := assigned_parse markdown
  rw [← @titles_parse lower, map_map]
  generalize parse lower markdown = sections at h
  induction h with
  | nil => simp
  | @snoc sections h title body ih =>
    rw [map_append, map_singleton, ← concat_eq_append, nodup_concat]
    simp only [map_append, map_singleton, reverse_append, reverse_singleton, singleton_append,
      suffix_cons_iff, Function.comp_apply]
    constructor
    · rintro ⟨hnew, hnd⟩ b before (heq | hsuffix)
      · obtain ⟨rfl, rfl⟩ := cons.inj heq
        have hslug := (freshSlug_notMem_iff hnd).1 hnew
        rwa [h.mem_slugs_iff hnd, h.mem_slugs_iff hnd] at hslug
      · exact ih.1 hnd b before hsuffix
    · intro hgiv
      have hnd := ih.2 fun b before hsuffix ↦ hgiv b before (.inr hsuffix)
      refine ⟨(freshSlug_notMem_iff hnd).2 ?_, hnd⟩
      rw [h.mem_slugs_iff hnd, h.mem_slugs_iff hnd]
      exact hgiv _ _ (.inl rfl)

/-- Three equal headings. -/
theorem not_nodup_three : (parse Char.toLower "## A\n## A\n## A".toList).map Section.slug =
    [['a'], ['a', '-', '2'], ['a', '-', '2']] := by
  decide +kernel

end WartungsRemote.Help
