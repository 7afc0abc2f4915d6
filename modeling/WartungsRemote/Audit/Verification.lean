import WartungsRemote.Chain.Linked
import WartungsRemote.Audit.Content

/-!
# Walking over the chain

`VerifyChain` reports a log as valid exactly if its loop goes through all rows
(`verifyRows_eq_valid`), so the loop can be followed as a run: a row is a step, and the rows before
a given one determine the variables of the loop there (`verifyRows_append`). What the loop does at a
row that carries a hash is one equation (`verifyRow_of_chained`). Rows without hashes before the
chain change nothing that the loop expects (`exec_hashless`), and the rows of the chain are linked
by their hashes (`linked_of_exec`).
-/

namespace WartungsRemote.Audit

open List Transition

variable {sha256 : Bytes → Bytes}

/-! ### The loop as a run -/

variable (sha256) in
/-- The variables of the loop after a row, if it goes on. -/
def nextRow (p : Progress) (r : Row) : Option Progress :=
  match verifyRow sha256 p r with
  | .next q => some q
  | .stop _ => none

/-- What is returned after the last row. -/
def Progress.report (p : Progress) : ChainVerification where
  valid := true
  entriesCheck := p.count
  entriesPreChain := p.preChain
  brokenAtID := none

variable {p q : Progress} {r : Row} {rows : List Row}

theorem nextRow_eq_some_iff : nextRow sha256 p r = some q ↔ verifyRow sha256 p r = .next q := by
  unfold nextRow
  cases verifyRow sha256 p r with
  | next | stop => simp

theorem verifyRows_cons_next (rs : List Row) (h : verifyRow sha256 p r = .next q) :
    verifyRows sha256 p (r :: rs) = verifyRows sha256 q rs := by
  rw [verifyRows, h]

variable {res : Except VerifyError ChainVerification} {a : Json.Value Json.Float64}

theorem verifyRows_cons_stop
    (rs : List Row) (h : verifyRow sha256 p r = .stop res) :
    verifyRows sha256 p (r :: rs) = res := by
  rw [verifyRows, h]

theorem verifyRows_append (rest : List Row) (h : exec (nextRow sha256) p rows = some q) :
    verifyRows sha256 p (rows ++ rest) = verifyRows sha256 q rest := by
  induction rows generalizing p with
  | nil =>
    obtain rfl : p = q := by simpa using h
    rfl
  | cons _ _ ih =>
    obtain ⟨_, hstep, hrest⟩ := (exec_cons_eq_some_iff _).1 h
    rw [cons_append, verifyRows_cons_next _ (nextRow_eq_some_iff.1 hstep)]
    exact ih hrest

/-- The loop returns early only with an error, or with a report of a broken chain. -/
theorem not_valid_of_stop (h : verifyRow sha256 p r = .stop res) : ∀ v, res = .ok v →
    v.valid = false := by
  rintro v rfl
  unfold verifyRow at h
  split at h
  · cases h
  · split_ifs at h
    split at h
    · cases h
    · split_ifs at h
      cases h
      rfl

/-- A report that the log is valid is one of a loop that went through all rows. -/
theorem verifyRows_eq_valid {v : ChainVerification} (h : verifyRows sha256 p rows = .ok v)
    (hv : v.valid = true) : ∃ q, exec (nextRow sha256) p rows = some q ∧ v = q.report := by
  induction rows generalizing p with
  | nil =>
    cases h
    exact ⟨p, rfl, rfl⟩
  | cons r rows ih =>
    cases hrow : verifyRow sha256 p r with
    | next q =>
      rw [verifyRows_cons_next rows hrow] at h
      obtain ⟨q', hexec, hreport⟩ := ih h
      exact ⟨q', (exec_cons_eq_some_iff _).2 ⟨q, nextRow_eq_some_iff.2 hrow, hexec⟩, hreport⟩
    | stop =>
      rw [verifyRows_cons_stop rows hrow] at h
      rw [not_valid_of_stop hrow v h] at hv
      cases hv

/-! ### One row -/

/-- The row carries a hash. -/
def Row.Chained (r : Row) : Prop :=
  r.entryHash.getD [] ≠ []

/-- `VerifyChain` can read the row. -/
def Row.Readable (r : Row) : Prop :=
  (∃ t, r.occurredAt.scan = some t) ∧ ∃ a, unmarshalMap r.metadata = some a

theorem verifyRow_of_chained {t : Timestamp} (hr : r.Chained) (ht : r.occurredAt.scan = some t)
    (ha : unmarshalMap r.metadata = some a) : verifyRow sha256 p r =
      if r.prevHash.getD [] = p.expectedPrev ∧
          r.entryHash.getD [] = computeEntryHash sha256 p.expectedPrev (r.fields t a) then
        .next { expectedPrev := r.entryHash.getD [], count := p.count + 1, preChain := p.preChain,
                chainStarted := true }
      else
        .stop (.ok { valid := false, entriesCheck := p.count + 1, entriesPreChain := p.preChain,
                     brokenAtID := some r.id }) := by
  have hskip : ¬ (p.chainStarted = false ∧ r.entryHash.getD [] = []) := fun h ↦ hr h.2
  simp only [verifyRow, ht, ha, if_neg hskip]

theorem readable_of_next (hr : r.Chained) (h : verifyRow sha256 p r = .next q) : r.Readable := by
  have hskip : ¬ (p.chainStarted = false ∧ r.entryHash.getD [] = []) := fun h ↦ hr h.2
  unfold verifyRow at h
  split at h
  · cases h
  next t ht =>
    rw [if_neg hskip] at h
    split at h
    · cases h
    next a ha => exact ⟨⟨t, ht⟩, a, ha⟩

theorem error_of_not_readable (hr : r.Chained) (h : ¬ r.Readable) :
    ∃ e, verifyRow sha256 p r = .stop (.error e) := by
  have hskip : ¬ (p.chainStarted = false ∧ r.entryHash.getD [] = []) := fun h ↦ hr h.2
  unfold verifyRow
  cases ht : r.occurredAt.scan with
  | none => exact ⟨.scan, rfl⟩
  | some t =>
    cases ha : unmarshalMap r.metadata with
    | none => exact ⟨.unmarshal r.id, by simp [hskip]⟩
    | some a => exact absurd ⟨⟨t, ht⟩, a, ha⟩ h

/-- With a hash function without collisions, the hash shows the text. -/
theorem computeEntryHash_inj (hinj : Function.Injective sha256) {prev : Bytes}
    {f f' : ChainableFields} (h : computeEntryHash sha256 prev f = computeEntryHash sha256 prev
      f') : f.text = f'.text :=
  Text.utf8_injective (append_cancel_left (hinj h))

theorem marshal_mem_objectText {m : Jsonb} (h : unmarshalMap m = some a) :
    Json.marshal a ∈ Json.objectText := by
  unfold unmarshalMap at h
  split at h
  next hm =>
    rw [hm] at h
    cases h
    exact Or.inl rfl
  next ms hm =>
    rw [hm, Json.decode] at h
    split_ifs at h
    obtain ⟨_, -, rfl⟩ := Option.map_eq_some_iff.1 h
    exact Or.inr ⟨_, rfl⟩
  · cases h

/-! ### Rows without hashes -/

theorem scan_of_next (h : verifyRow sha256 p r = .next q) : ∃ t, r.occurredAt.scan = some t := by
  unfold verifyRow at h
  split at h
  · cases h
  next t ht => exact ⟨t, ht⟩

theorem scan_of_exec
    (h : exec (nextRow sha256) p rows = some q) : ∀ r ∈ rows, ∃ t, r.occurredAt.scan = some t := by
  induction rows generalizing p with
  | nil => simp
  | cons _ _ ih =>
    obtain ⟨_, hstep, hrest⟩ := (exec_cons_eq_some_iff _).1 h
    intro s hs
    rcases mem_cons.1 hs with rfl | hmem
    · exact scan_of_next (nextRow_eq_some_iff.1 hstep)
    · exact ih hrest s hmem

/-- Rows without hashes at the start are counted, and nothing else. -/
theorem exec_hashless (hp : p.chainStarted = false) (hrows : ∀ r ∈ rows, ¬ r.Chained)
    (hscan : ∀ r ∈ rows, ∃ t, r.occurredAt.scan = some t) : exec (nextRow sha256) p rows =
      some { p with preChain := p.preChain + rows.length } := by
  induction rows generalizing p with
  | nil => rfl
  | cons r _ ih =>
    obtain ⟨t, ht⟩ := hscan r (by simp)
    have hhash : r.entryHash.getD [] = [] := not_not.1 (hrows r (by simp))
    have hstep : nextRow sha256 p r = some { p with preChain := p.preChain + 1 } := by
      rw [nextRow_eq_some_iff]
      simp [verifyRow, ht, hp, hhash]
    refine (exec_cons_eq_some_iff _).2 ⟨_, hstep, ?_⟩
    rw [ih (p := { p with preChain := p.preChain + 1 }) hp (fun s hs ↦ hrows s (by simp [hs]))
      fun s hs ↦ hscan s (by simp [hs])]
    simp [Nat.add_assoc, Nat.add_comm 1]

/-! ### Links -/

/-- The hash of the row, as it is read. -/
def Row.hash (r : Row) : Bytes :=
  r.entryHash.getD []

/-- The hash of the entry before, as it is read. -/
def Row.prev (r : Row) : Bytes :=
  r.prevHash.getD []

theorem prev_of_next (hr : r.Chained) (h : verifyRow sha256 p r = .next q) :
    r.prev = p.expectedPrev ∧ q.expectedPrev = r.hash := by
  obtain ⟨⟨t, ht⟩, a, ha⟩ := readable_of_next hr h
  rw [verifyRow_of_chained hr ht ha] at h
  split_ifs at h with hhash
  cases h
  exact ⟨hhash.1, rfl⟩

theorem linked_of_exec (hrows : ∀ r ∈ rows, r.Chained) (h : exec (nextRow sha256) p rows = some q) :
    Chain.Linked Row.hash Row.prev p.expectedPrev rows := by
  induction rows generalizing p with
  | nil => trivial
  | cons r _ ih =>
    obtain ⟨_, hstep, hrest⟩ := (exec_cons_eq_some_iff _).1 h
    obtain ⟨hprev, hnext⟩ := prev_of_next (hrows r (by simp)) (nextRow_eq_some_iff.1 hstep)
    refine ⟨hprev, ?_⟩
    rw [← hnext]
    exact ih (fun s hs ↦ hrows s (by simp [hs])) hrest

/-! ### What is reported -/

variable (sha256) in
/-- The row can be read, names the expected hash, and has the one computed for it. -/
def Row.Follows (prev : Bytes) (r : Row) : Prop :=
  ∃ t a, r.occurredAt.scan = some t ∧ unmarshalMap r.metadata = some a ∧ r.prev = prev ∧
    r.hash = computeEntryHash sha256 prev (r.fields t a)

variable (sha256) in
/-- Every row follows the one before. -/
def Follow : Bytes → List Row → Prop
  | _, [] => True
  | prev, r :: rs => r.Follows sha256 prev ∧ Follow r.hash rs

variable (sha256) in
/-- The rows begin with the chain: they follow each other, or the first that does not is named. -/
def Reports (prev : Bytes) (count : ℕ) (rows : List Row) (v : ChainVerification) : Prop :=
  v.valid = true ∧ Follow sha256 prev rows ∨
    v.valid = false ∧ ∃ good r rest, rows = good ++ r :: rest ∧ Follow sha256 prev good ∧
      ¬ Follow sha256 prev (good ++ [r]) ∧ v.brokenAtID = some r.id ∧ v.entriesCheck = count +
        good.length + 1

variable {prev : Bytes} {v : ChainVerification}

theorem Follow.of_append {rest : List Row} (h : Follow sha256 prev (rows ++ rest)) :
    Follow sha256 prev rows := by
  induction rows generalizing prev with
  | nil => trivial
  | cons _ _ ih => exact ⟨h.1, ih h.2⟩

/-- Rows without a hash are not missed at the start of a chain. -/
theorem Follow.dropWhile (h : Follow sha256 [] rows) :
    Follow sha256 [] (rows.dropWhile (·.hash = [])) := by
  induction rows with
  | nil => exact h
  | cons r rs ih =>
    by_cases hr : r.hash = []
    · rw [dropWhile_cons_of_pos (by simpa using hr)]
      exact ih (hr ▸ h.2)
    · rwa [dropWhile_cons_of_neg (by simpa using hr)]

theorem reports_of_verifyRows (hstart : ∀ r ∈ rows.head?, p.chainStarted = false → r.Chained)
    (h : verifyRows sha256 p rows = .ok v) :
    v.entriesPreChain = p.preChain ∧ Reports sha256 p.expectedPrev p.count rows v := by
  induction rows generalizing p with
  | nil =>
    cases h
    exact ⟨rfl, .inl ⟨rfl, trivial⟩⟩
  | cons r rs ih =>
    have hskip : ¬ (p.chainStarted = false ∧ r.entryHash.getD [] = []) :=
      fun hr ↦ hstart r rfl hr.1 hr.2
    rw [verifyRows, verifyRow] at h
    cases ht : r.occurredAt.scan with
    | none => simp [ht] at h
    | some t =>
      cases ha : unmarshalMap r.metadata with
      | none => simp [ht, hskip, ha] at h
      | some a =>
        simp only [ht, if_neg hskip, ha] at h
        split_ifs at h with hfol
        · obtain ⟨hpre, hrep⟩ := ih (by simp) h
          refine ⟨hpre, hrep.imp (And.imp_right fun hrs ↦ ⟨⟨t, a, ht, ha, hfol⟩, hrs⟩) ?_⟩
          rintro ⟨hinv, good, r', rest, rfl, hgood, hbad, hid, hcnt⟩
          refine ⟨hinv, r :: good, r', rest, rfl, ⟨⟨t, a, ht, ha, hfol⟩, hgood⟩, fun hall ↦
            hbad hall.2, hid, ?_⟩
          simp only [hcnt, length_cons]
          omega
        · cases h
          refine ⟨rfl, .inr ⟨rfl, [], r, rs, rfl, trivial, ?_, rfl, rfl⟩⟩
          rintro ⟨⟨_, _, ht', ha', hr⟩, -⟩
          cases ht.symm.trans ht'
          cases ha.symm.trans ha'
          exact hfol hr

theorem reports_dropWhile (hp : p.chainStarted = false) (h : verifyRows sha256 p rows = .ok v) :
    v.entriesPreChain = p.preChain + (rows.takeWhile (·.hash = [])).length ∧
      Reports sha256 p.expectedPrev p.count (rows.dropWhile (·.hash = [])) v := by
  induction rows generalizing p with
  | nil => exact reports_of_verifyRows (by simp) h
  | cons r rs ih =>
    by_cases hr : r.hash = []
    · have hskip : p.chainStarted = false ∧ r.entryHash.getD [] = [] := ⟨hp, hr⟩
      rw [dropWhile_cons_of_pos (by simpa using hr), takeWhile_cons_of_pos (by simpa using hr)]
      rw [verifyRows, verifyRow] at h
      cases ht : r.occurredAt.scan with
      | none => simp [ht] at h
      | some t =>
        simp only [ht, if_pos hskip] at h
        obtain ⟨hpre, hrep⟩ := ih (by exact hp) h
        refine ⟨?_, hrep⟩
        simp only [hpre, length_cons]
        omega
    · rw [dropWhile_cons_of_neg (by simpa using hr), takeWhile_cons_of_neg (by simpa using hr)]
      refine reports_of_verifyRows (fun r' hr' _ ↦ ?_) h
      cases hr'
      exact hr

theorem exists_verifyRows (h : ∀ r ∈ rows, r.Readable) : ∃ v, verifyRows sha256 p rows = .ok v := by
  induction rows generalizing p with
  | nil => exact ⟨_, rfl⟩
  | cons r rs ih =>
    obtain ⟨⟨⟨t, ht⟩, a, ha⟩, hrs⟩ := forall_mem_cons.1 h
    rw [verifyRows, verifyRow]
    simp only [ht, ha]
    split_ifs
    · exact ih hrs
    · exact ih hrs
    · exact ⟨_, rfl⟩

/-- **`VerifyChain` meets its specification.** What it reports of a log is right, and it reports on
every log that can be read. -/
theorem verifyChain_spec (sha256 : Bytes → Bytes) (log : Log) :
    (∀ v, log.verifyChain sha256 = .ok v →
      (v.valid = true ↔
        ∃ pre chain, log.rows = pre ++ chain ∧ (∀ r ∈ pre, r.hash = []) ∧ Follow sha256 [] chain) ∧
      v.entriesPreChain = (log.rows.takeWhile (·.hash = [])).length ∧
      (v.valid = false → ∃ good r rest, log.rows.dropWhile (·.hash = []) = good ++ r :: rest ∧
        Follow sha256 [] good ∧ ¬ Follow sha256 [] (good ++ [r]) ∧
        v.brokenAtID = some r.id ∧ v.entriesCheck = good.length + 1)) ∧
    ((∀ r ∈ log.rows, r.Readable) → ∃ v, log.verifyChain sha256 = .ok v) := by
  refine ⟨fun v hv ↦ ?_, exists_verifyRows⟩
  obtain ⟨hpre, hrep⟩ := reports_dropWhile rfl hv
  refine ⟨⟨fun hval ↦ ?_, ?_⟩, hpre.trans (Nat.zero_add _), fun hinv ↦ ?_⟩
  · obtain ⟨-, hfollow⟩ | ⟨hinv, -⟩ := hrep
    · exact ⟨_, _, (takeWhile_append_dropWhile).symm, fun r hr ↦
        by simpa using mem_takeWhile_imp hr, hfollow⟩
    · cases hval.symm.trans hinv
  · rintro ⟨_, _, hrows, hemp, hchain⟩
    obtain ⟨hval, -⟩ | ⟨-, good, r, rest, hdrop, -, hbad, -⟩ := hrep
    · exact hval
    · rw [hrows, dropWhile_append_of_pos (by simpa using hemp)] at hdrop
      have hfollow := hchain.dropWhile
      rw [hdrop, append_cons] at hfollow
      exact absurd hfollow.of_append hbad
  · obtain ⟨hval, -⟩ | ⟨-, good, r, rest, hdrop, hgood, hbad, hid, hcnt⟩ := hrep
    · cases hval.symm.trans hinv
    · exact ⟨good, r, rest, hdrop, hgood, hbad, hid, by rw [hcnt, Progress.init, Nat.zero_add]⟩

/-! ### Values for examples -/

namespace Sample

/-- A hash function without collisions. -/
def tagged (x : Bytes) : Bytes :=
  0 :: x

theorem tagged_injective : Function.Injective tagged := fun _ _ h ↦ (cons.inj h).2

theorem tagged_ne_nil (x : Bytes) : tagged x ≠ [] := by
  simp [tagged]

def time : Timestamp where
  year := 2026
  month := 1
  day := 2
  hour := 3
  minute := 4
  second := 5
  micro := 0
  month_le := by decide
  day_le := by decide
  hour_lt := by decide
  minute_lt := by decide
  second_lt := by decide
  micro_lt := by decide

end Sample

end WartungsRemote.Audit
