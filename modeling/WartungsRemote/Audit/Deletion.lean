import WartungsRemote.Audit.TamperEvidence

/-!
# Deletion and reordering

Whoever can write to the table but computes no hashes can take rows away, put them in another order
and copy them. What `VerifyChain` still reports as valid after that is only **a beginning of the
chain** (`chain_isPrefix_of_reportsValid`), whatever the hash function: every row names the hash of
the row before, and with distinct hashes there is one place where it can stand.

The ids are not hashed, and a copied or moved row has another one, so rows are compared by their
`content`. Rows without a hash can stand before the chain, whatever they are.
-/

namespace WartungsRemote.Audit

open List

variable {sha256 : Bytes → Bytes}

/-- The chained rows: those from the first one with a hash. -/
def Log.chain (log : Log) : List Row :=
  log.rows.dropWhile fun r ↦ r.entryHash.getD [] = []

/-- A row without its place in the table. -/
def Row.content (r : Row) : Row :=
  { r with id := 0 }

/-- The chained rows of the second log are rows of the first, anywhere and any number of times. -/
def Log.Rearranged (log log' : Log) : Prop :=
  ∀ r' ∈ log'.chain, ∃ r ∈ log.chain, r'.content = r.content

theorem Row.chained_content {r : Row} : r.content.Chained ↔ r.Chained := Iff.rfl

theorem linked_content {k : Bytes} {rows : List Row} :
    Chain.Linked Row.hash Row.prev k (rows.map Row.content) ↔
      Chain.Linked Row.hash Row.prev k rows :=
  Chain.linked_map Row.content

theorem Log.rows_eq_append_chain (log : Log) : ∃ pre, log.rows = pre ++ log.chain ∧
    ∀ r ∈ pre, ¬ r.Chained := by
  refine ⟨log.rows.takeWhile fun r ↦ r.entryHash.getD [] = [], takeWhile_append_dropWhile.symm,
    fun r hr ↦ ?_⟩
  simpa [Row.Chained] using mem_takeWhile_imp hr

/-- In a log reported as valid the chained rows are linked, and the first one names no hash. -/
theorem Log.ReportsValid.linked {log : Log} (h : log.ReportsValid sha256)
    (hchained : ∀ r ∈ log.chain, r.Chained) : Chain.Linked Row.hash Row.prev [] log.chain := by
  obtain ⟨v, hv, hval⟩ := h
  obtain ⟨q, hexec, -⟩ := verifyRows_eq_valid hv hval
  obtain ⟨_, hrows, hpre⟩ := log.rows_eq_append_chain
  rw [hrows] at hexec
  obtain ⟨p, hbef, hchain⟩ := (Transition.exec_append_eq_some_iff _).1 hexec
  have hp := hbef.symm.trans (exec_hashless rfl hpre (scan_of_exec hbef))
  cases hp
  exact linked_of_exec hchained hchain

/-- **What remains of a valid log is reported as valid only if it is a beginning of the chain.** -/
theorem chain_isPrefix_of_reportsValid {log log' : Log} (hval : log.ReportsValid sha256)
    (hchained : ∀ r ∈ log.chain, r.Chained) (hdist : (log.chain.map Row.hash).Nodup)
    (hrows : log.Rearranged log') (hval' : log'.ReportsValid sha256) :
    log'.chain.map Row.content <+: log.chain.map Row.content := by
  have hchained' : ∀ r ∈ log'.chain, r.Chained := by
    intro r' hr'
    obtain ⟨r, hr, heq⟩ := hrows r' hr'
    rw [← Row.chained_content, heq]
    exact hchained r hr
  have hsub : log'.chain.map Row.content ⊆ log.chain.map Row.content := by
    intro c hc
    obtain ⟨r', hr', rfl⟩ := mem_map.1 hc
    obtain ⟨r, hr, heq⟩ := hrows r' hr'
    exact heq ▸ mem_map_of_mem hr
  -- the empty hash, which the first row names, is the hash of no row
  have hnd : ([] :: (log.chain.map Row.content).map Row.hash).Nodup := by
    rw [map_map]
    refine nodup_cons.2 ⟨fun hmem ↦ ?_, hdist⟩
    obtain ⟨r, hr, hemp⟩ := mem_map.1 hmem
    exact hchained r hr hemp
  exact (linked_content.2 (hval.linked hchained)).isPrefix_of_subset hnd
    (linked_content.2 (hval'.linked hchained')) hsub

namespace Sample

/-- The first two entries under other ids, behind a row without a hash. The third was deleted. -/
def moved : Log where
  rows := [hashless, { first with id := 7 }, { second with id := 8 }]
  nextID := 9
  sorted := by decide
  fresh := by decide

theorem chain_log : (log (some 2) none .success).chain = [first, second, third] := rfl

theorem chain_moved : moved.chain = [{ first with id := 7 }, { second with id := 8 }] := rfl

theorem moved_reportsValid : moved.ReportsValid tagged := by
  decide +kernel

end Sample

open Sample

/-- What is left of three entries after the last one was deleted is a beginning of their chain. -/
theorem chain_isPrefix_of_reportsValid_moved : moved.chain.map Row.content <+:
      (log (some 2) none .success).chain.map Row.content := by
  refine chain_isPrefix_of_reportsValid log_reportsValid ?_ ?_ ?_ moved_reportsValid
  · rw [chain_log]
    simp [Row.Chained, first, second, third, chained, computeEntryHash, tagged]
  · rw [chain_log]
    decide +kernel
  · rw [Log.Rearranged, chain_log, chain_moved]
    simp [Row.content]

end WartungsRemote.Audit
