import WartungsRemote.Audit.Completeness
import WartungsRemote.Audit.Deletion

/-!
# Concurrent records

`Record` is a transaction of four statements: it takes an advisory lock, reads the hash of the last
entry, inserts its row and commits. Any number of them run at the same time, and each can fail after
every statement. The lock is released with the transaction, and a sequence gives out the ids, which
are lost if the transaction is rolled back.

The table is kept **in the order of the ids**, and a committed row goes where its id belongs. That
this is always at the end is what the lock is for: whoever has read the last hash owns the lock, so
no other row is committed before its own (`ChainInv`). So every row names the hash of the row before
(`linked_of_concurrent`), and the committed rows are those of some run of `Log.record`
(`recorded_of_concurrent`).
-/

namespace WartungsRemote.Audit.Concurrent

open List Option Transition

variable {sha256 : Bytes → Bytes} {inet : Text → Option Inet}

abbrev TxID : Type := ℕ

/-- How far a transaction of `Record` has come. -/
inductive Tx
  /-- After `pool.Begin`. -/
  | begun (ev : Event)
  /-- After `pg_advisory_xact_lock`. -/
  | locked (ev : Event)
  /-- After the previous hash was read. -/
  | read (ev : Event) (prevHash : Option Bytes)
  /-- After `INSERT`: the row is seen by others when it is committed. -/
  | inserted (row : Row)

/-- The committed rows by id, the next id of the sequence, the owner of the lock, and the open
transactions. -/
structure State where
  rows : List Row
  nextID : ℕ
  lock : Option TxID
  txs : TxID → Option Tx

/-- No transaction is open. -/
def State.init (log : Log) : State where
  rows := log.rows
  nextID := log.nextID
  lock := none
  txs := fun _ ↦ none

/-- `SELECT entry_hash FROM audit_log ORDER BY id DESC LIMIT 1`, where no row is a missing hash. -/
def State.lastHash (s : State) : Option Bytes :=
  s.rows.getLast?.bind Row.entryHash

def State.setTx (s : State) (tid : TxID) (tx : Option Tx) : State :=
  { s with txs := Function.update s.txs tid tx }

/-- The transaction ends, and the lock is released if it is its own. -/
def State.finish (s : State) (tid : TxID) : State :=
  { s.setTx tid none with lock := if s.lock = some tid then none else s.lock }

/-- A committed row goes where its id belongs. -/
def insertByID (row : Row) (rows : List Row) : List Row :=
  rows.orderedInsert (fun r r' ↦ r.id ≤ r'.id) row

inductive Label
  | begin (tid : TxID) (ev : Event)
  | lock (tid : TxID)
  | read (tid : TxID)
  /-- The id that the sequence gives out, and the time that `Record` has read. -/
  | insert (tid : TxID) (id : ℕ) (occurredAt : Timestamp)
  | commit (tid : TxID)
  /-- A statement failed, or the connection was lost. -/
  | rollback (tid : TxID)

variable (sha256 inet) in
/-- One statement of one transaction. The sequence gives out any id that it has not given out
before. -/
def step (s : State) : Label → Option State
  | .begin tid ev => if s.txs tid = none then some (s.setTx tid (some (.begun ev))) else none
  | .lock tid =>
    match s.txs tid with
    | some (.begun ev) =>
      -- the statement waits until the lock is free
      if s.lock = none then some { s.setTx tid (some (.locked ev)) with lock := some tid } else none
    | _ => none
  | .read tid =>
    match s.txs tid with
    | some (.locked ev) => some (s.setTx tid (some (.read ev s.lastHash)))
    | _ => none
  | .insert tid id occurredAt =>
    match s.txs tid with
    | some (.read ev prevHash) => do
      let sourceIP ← storeIP inet ev.sourceIP
      let metadata ← toJsonb ev.meta
      if s.nextID ≤ id then
        let row := ev.row sha256 occurredAt prevHash sourceIP metadata id
        some { s.setTx tid (some (.inserted row)) with nextID := id + 1 }
      else none
    | _ => none
  | .commit tid =>
    match s.txs tid with
    | some (.inserted row) => some { s.finish tid with rows := insertByID row s.rows }
    | _ => none
  | .rollback tid => if s.txs tid = none then none else some (s.finish tid)

/-! ### What a statement does -/

section Steps

variable {s t : State} {tid : TxID}

theorem lock_eq_some (h : step sha256 inet s (.lock tid) = some t) :
    ∃ ev, s.lock = none ∧ t = { s.setTx tid (some (.locked ev)) with lock := some tid } := by
  simp only [step] at h
  split at h
  next ev _ =>
    split_ifs at h with hfree
    exact ⟨ev, hfree, (some.inj h).symm⟩
  · cases h

theorem read_eq_some (h : step sha256 inet s (.read tid) = some t) :
    ∃ ev, s.txs tid = some (.locked ev) ∧ t = s.setTx tid (some (.read ev s.lastHash)) := by
  simp only [step] at h
  split at h
  next ev htx => exact ⟨ev, htx, (some.inj h).symm⟩
  · cases h

theorem insert_eq_some {id : ℕ} {occurredAt : Timestamp}
    (h : step sha256 inet s (.insert tid id occurredAt) = some t) :
    ∃ ev prevHash sourceIP metadata, s.txs tid = some (.read ev prevHash) ∧
      storeIP inet ev.sourceIP = some sourceIP ∧ toJsonb ev.meta = some metadata ∧ s.nextID ≤ id ∧
      t =
      { s.setTx tid (some (.inserted (ev.row sha256 occurredAt prevHash sourceIP metadata id))) with
            nextID := id + 1 } := by
  simp only [step] at h
  split at h
  next ev prevHash htx =>
    obtain ⟨sourceIP, hip, h⟩ := bind_eq_some_iff.1 h
    obtain ⟨metadata, hmeta, h⟩ := bind_eq_some_iff.1 h
    split_ifs at h with hid
    exact ⟨ev, prevHash, sourceIP, metadata, htx, hip, hmeta, hid, (some.inj h).symm⟩
  · cases h

theorem commit_eq_some (h : step sha256 inet s (.commit tid) = some t) :
    ∃ row, s.txs tid = some (.inserted row) ∧
      t = { s.finish tid with rows := insertByID row s.rows } := by
  simp only [step] at h
  split at h
  next row htx => exact ⟨row, htx, (some.inj h).symm⟩
  · cases h

theorem insertByID_eq_append {row : Row} {rows : List Row} (h : ∀ r ∈ rows, r.id < row.id) :
    insertByID row rows = rows ++ [row] := by
  unfold insertByID
  induction rows with
  | nil => rfl
  | cons r _ ih =>
    have hr : ¬ row.id ≤ r.id := Nat.not_le_of_lt (h r (by simp))
    rw [orderedInsert, if_neg hr, ih fun r' hr' ↦ h r' (by simp [hr'])]
    rfl

end Steps

/-! ### The invariant -/

variable (sha256 inet) in
/-- The row of an open transaction names the last committed hash, and its id is the largest. -/
structure Pending (s : State) (row : Row) : Prop where
  made : ∃ (ev : Event) (occurredAt : Timestamp) (sourceIP : Option Inet) (metadata : Jsonb),
    storeIP inet ev.sourceIP = some sourceIP ∧ toJsonb ev.meta = some metadata ∧
      row = ev.row sha256 occurredAt s.lastHash sourceIP metadata row.id
  issued : row.id < s.nextID
  later : ∀ r ∈ s.rows, r.id < row.id

variable (sha256 inet) in
/-- What an open transaction can rely on. -/
def TxInv (s : State) (tid : TxID) : Tx → Prop
  | .begun _ => True
  | .locked _ => s.lock = some tid
  | .read _ prevHash => s.lock = some tid ∧ prevHash = s.lastHash
  | .inserted row => s.lock = some tid ∧ Pending sha256 inet s row

variable (sha256 inet) in
/-- The rows are, apart from the ids, what records one after the other make of the log. -/
def Recorded (log : Log) (rows : List Row) : Prop :=
  ∃ es log', exec (recordStep sha256 inet) log es = some log' ∧
    rows.map Row.content = log'.rows.map Row.content

variable (sha256 inet) in
/-- The invariant of concurrent records. -/
structure ChainInv (log : Log) (s : State) : Prop where
  sorted : (s.rows.map Row.id).Pairwise (· < ·)
  fresh : ∀ r ∈ s.rows, r.id < s.nextID
  txs : ∀ tid tx, s.txs tid = some tx → TxInv sha256 inet s tid tx
  linked : Chain.Linked Row.entryHash Row.prevHash none s.rows
  recorded : Recorded sha256 inet log s.rows

variable {log : Log} {s t : State} {tid : TxID} {tx : Tx}

/-- Only the owner of the lock has come further than its first statement. -/
theorem TxInv.begun_of_lock_ne (h : TxInv sha256 inet s tid tx) (hlock : s.lock ≠ some tid) :
    ∃ ev, tx = .begun ev := by
  cases tx with
  | begun ev => exact ⟨ev, rfl⟩
  | locked => exact absurd h hlock
  | read | inserted => exact absurd h.1 hlock

/-- A transaction keeps what it relies on while rows and lock stay. -/
theorem TxInv.mono (h : TxInv sha256 inet s tid tx) (hrows : t.rows = s.rows)
    (hlock : t.lock = s.lock) (hnext : s.nextID ≤ t.nextID) : TxInv sha256 inet t tid tx := by
  have hlast : t.lastHash = s.lastHash := by rw [State.lastHash, hrows, State.lastHash]
  cases tx with
  | begun => trivial
  | locked => exact hlock.trans h
  | read => exact ⟨hlock.trans h.1, h.2.trans hlast.symm⟩
  | inserted =>
    refine ⟨hlock.trans h.1, ?_, Nat.lt_of_lt_of_le h.2.issued hnext, hrows ▸ h.2.later⟩
    rw [hlast]
    exact h.2.made

theorem ChainInv.of_setTx (h : ChainInv sha256 inet log s) (hrows : t.rows = s.rows)
    (hnext : s.nextID ≤ t.nextID) (htxs : t.txs = (s.setTx tid (some tx)).txs)
    (hoth : ∀ other tx', other ≠ tid → TxInv sha256 inet s other tx' →
      TxInv sha256 inet t other tx')
    (hown : TxInv sha256 inet t tid tx) : ChainInv sha256 inet log t := by
  refine ⟨hrows ▸ h.sorted, fun r hr ↦ Nat.lt_of_lt_of_le (h.fresh r (hrows ▸ hr)) hnext, ?_,
    hrows ▸ h.linked, hrows ▸ h.recorded⟩
  intro other tx' htx'
  rw [htxs] at htx'
  rcases eq_or_ne other tid with rfl | hne
  · obtain rfl : tx = tx' := by simpa [State.setTx] using htx'
    exact hown
  · exact hoth other tx' hne (h.txs other tx' (by simpa [State.setTx, hne] using htx'))

theorem TxInv.of_finish {other : TxID} (h : TxInv sha256 inet s other tx) (hne : other ≠ tid) :
    TxInv sha256 inet (s.finish tid) other tx := by
  by_cases hlock : s.lock = some tid
  · -- the others wait for the lock
    obtain ⟨_, rfl⟩ := h.begun_of_lock_ne (by simpa [hlock] using hne.symm)
    trivial
  · exact h.mono rfl (by simp [State.finish, hlock]) (Nat.le_refl _)

/-! ### Committed rows -/

theorem Recorded.append {rows : List Row} (h : Recorded sha256 inet log rows) {ev : Event}
    {occurredAt : Timestamp} {sourceIP : Option Inet} {metadata : Jsonb} (id : ℕ)
    (hip : storeIP inet ev.sourceIP = some sourceIP) (hmeta : toJsonb ev.meta = some metadata) :
    Recorded sha256 inet log
      (rows ++ [ev.row sha256 occurredAt (rows.getLast?.bind Row.entryHash) sourceIP metadata
        id]) := by
  obtain ⟨es, log', hexec, hrows⟩ := h
  have hlast : rows.getLast?.bind Row.entryHash = log'.rows.getLast?.bind Row.entryHash := by
    have hmap := congrArg (fun l : List Row ↦ l.getLast?.bind Row.entryHash) hrows
    simp only [getLast?_map, bind_map] at hmap
    exact hmap
  refine ⟨es ++ [(occurredAt, ev)], _, (exec_append_eq_some_iff _).2 ⟨log', hexec,
    (exec_cons_eq_some_iff _).2 ⟨_, recordStep_eq_some_iff.2 ⟨sourceIP, metadata, hip, hmeta, rfl⟩,
      rfl⟩⟩, ?_⟩
  rw [Log.rows_insert, map_append, map_append, hrows, hlast]
  rfl

/-- A commit appends a row that names the last hash. -/
theorem ChainInv.commit {row : Row} (h : ChainInv sha256 inet log s)
    (htx : s.txs tid = some (.inserted row)) :
    ChainInv sha256 inet log { s.finish tid with rows := insertByID row s.rows } := by
  obtain ⟨hlock, hpend⟩ := h.txs tid _ htx
  rw [insertByID_eq_append hpend.later]
  obtain ⟨_, _, _, _, hip, hmeta, hrow⟩ := hpend.made
  refine ⟨?_, ?_, ?_, ?_, ?_⟩
  · show ((s.rows ++ [row]).map Row.id).Pairwise (· < ·)
    rw [map_append, pairwise_append]
    refine ⟨h.sorted, pairwise_singleton _ _, ?_⟩
    simpa using hpend.later
  · intro r hr
    obtain hold | hnew := mem_snoc.1 hr
    · exact h.fresh r hold
    · exact hnew ▸ hpend.issued
  · intro other tx' htx'
    have hne : other ≠ tid := by
      rintro rfl
      simp [State.finish, State.setTx] at htx'
    have hold : s.txs other = some tx' := by simpa [State.finish, State.setTx, hne] using htx'
    -- nobody else has read the hash that is no longer the last one
    obtain ⟨_, rfl⟩ := (h.txs other tx' hold).begun_of_lock_ne (by simpa [hlock] using hne.symm)
    trivial
  · refine Chain.linked_concat.2 ⟨h.linked, ?_⟩
    rw [hrow]
    cases hlast : s.rows.getLast? with
    | none | some => simp [Event.row, State.lastHash, Chain.lastKey, hlast]
  · show Recorded sha256 inet log (s.rows ++ [row])
    rw [hrow]
    exact h.recorded.append _ hip hmeta

/-- Only the owner of the lock reads the last hash, so its row continues the chain. -/
theorem ChainInv.step {l : Label} (h : ChainInv sha256 inet log s)
    (hstep : step sha256 inet s l = some t) :
    ChainInv sha256 inet log t := by
  cases l with
  | begin =>
    simp only [Concurrent.step] at hstep
    split_ifs at hstep
    cases hstep
    exact h.of_setTx rfl (Nat.le_refl _) rfl (fun other tx' _ htx ↦
      htx.mono rfl rfl (Nat.le_refl _)) trivial
  | lock =>
    obtain ⟨ev, hfree, rfl⟩ := lock_eq_some hstep
    refine h.of_setTx rfl (Nat.le_refl _) rfl (fun other tx' _ htx ↦ ?_) rfl
    obtain ⟨_, rfl⟩ := htx.begun_of_lock_ne (by simp [hfree])
    trivial
  | read tid =>
    obtain ⟨ev, htx, rfl⟩ := read_eq_some hstep
    exact h.of_setTx rfl (Nat.le_refl _) rfl
      (fun other tx' _ htx' ↦ htx'.mono rfl rfl (Nat.le_refl _)) ⟨h.txs tid _ htx, rfl⟩
  | insert tid id occurredAt =>
    obtain ⟨ev, _, sourceIP, metadata, htx, hip, hmeta, hid, rfl⟩ := insert_eq_some hstep
    obtain ⟨hlock, rfl⟩ := h.txs tid _ htx
    have hnext : s.nextID ≤ id + 1 := Nat.le_succ_of_le hid
    refine h.of_setTx rfl hnext rfl (fun other tx' _ htx' ↦ htx'.mono rfl rfl hnext) ⟨hlock, ?_⟩
    exact ⟨⟨ev, occurredAt, sourceIP, metadata, hip, hmeta, rfl⟩, Nat.lt_succ_self id,
      fun r hr ↦ Nat.lt_of_lt_of_le (h.fresh r hr) hid⟩
  | commit =>
    obtain ⟨_, htx, rfl⟩ := commit_eq_some hstep
    exact h.commit htx
  | rollback tid =>
    simp only [Concurrent.step] at hstep
    split_ifs at hstep
    cases hstep
    refine { h with txs := fun other tx' htx' ↦ ?_ }
    have hne : other ≠ tid := by
      rintro rfl
      simp [State.finish, State.setTx] at htx'
    exact (h.txs other tx' (by simpa [State.finish, State.setTx, hne] using htx')).of_finish hne

theorem linked_of_hashless {rows : List Row}
    (h : ∀ r ∈ rows, r.prevHash = none ∧ r.entryHash = none) :
    Chain.Linked Row.entryHash Row.prevHash none rows := by
  induction rows with
  | nil => trivial
  | cons r _ ih =>
    obtain ⟨hprev, hentry⟩ := h r (by simp)
    refine ⟨hprev, ?_⟩
    rw [hentry]
    exact ih fun r' hr' ↦ h r' (by simp [hr'])

theorem ChainInv.init (hlog : Chain.Linked Row.entryHash Row.prevHash none log.rows) :
    ChainInv sha256 inet log (.init log) where
  sorted := log.sorted
  fresh := log.fresh
  txs := fun _ _ h ↦ by cases h
  linked := hlog
  recorded := ⟨[], log, rfl, rfl⟩

theorem chainInv_of_exec {ls : List Label}
    (hlog : Chain.Linked Row.entryHash Row.prevHash none log.rows)
    (hrun : exec (step sha256 inet) (.init log) ls = some s) : ChainInv sha256 inet log s :=
  invariant_of_exec (fun _ _ _ h hstep ↦ h.step hstep) (.init hlog) hrun

/-- **Concurrent records are records one after the other.** -/
theorem recorded_of_concurrent {ls : List Label}
    (hlog : Chain.Linked Row.entryHash Row.prevHash none log.rows)
    (hrun : exec (step sha256 inet) (.init log) ls = some s) : Recorded sha256 inet log s.rows :=
  (chainInv_of_exec hlog hrun).recorded

/-- **The chain never forks.** In every reachable table, by id, every row names the hash of the row
before, and no hash if there is none. -/
theorem linked_of_concurrent {ls : List Label}
    (hlog : Chain.Linked Row.entryHash Row.prevHash none log.rows)
    (hrun : exec (step sha256 inet) (.init log) ls = some s) :
    (s.rows.map Row.id).Pairwise (· < ·) ∧
      Chain.Linked Row.entryHash Row.prevHash none s.rows := by
  have h := chainInv_of_exec hlog hrun
  exact ⟨h.sorted, h.linked⟩

namespace Sample

open Audit.Sample (tagged inetV4 login plainIP time hashless)

/-- A table with one row from before there were hashes. -/
def start : Log where
  rows := [hashless]
  nextID := 2
  sorted := pairwise_singleton _ _
  fresh := by decide

/-- Two logins at the same time. The first has its row when its connection is lost, so its id is
lost too; the second waits for the lock until then. -/
def labels : List Label :=
  [.begin 0 (login plainIP), .lock 0, .begin 1 (login plainIP), .read 0, .insert 0 2 time,
    .rollback 0, .lock 1, .read 1, .insert 1 3 time, .begin 0 (login plainIP), .commit 1, .lock 0,
      .read 0,
    .insert 0 6 time, .commit 0]

def final : Option State :=
  exec (step tagged inetV4) (.init start) labels

end Sample

/-- After two logins at the same time, one of which was tried again. -/
theorem linked_of_concurrent_logins : ∃ s, Sample.final = some s ∧ s.rows.map Row.id = [1, 3, 6] ∧
      Chain.Linked Row.entryHash Row.prevHash none s.rows := by
  obtain ⟨s, hs, hids⟩ := map_eq_some_iff.1
    (show Sample.final.map (fun s ↦ s.rows.map Row.id) = some [1, 3, 6] by decide +kernel)
  have hstart : Chain.Linked Row.entryHash Row.prevHash none Sample.start.rows :=
    linked_of_hashless (by simp [Sample.start, Audit.Sample.hashless])
  exact ⟨s, hs, hids, (linked_of_concurrent hstart hs).2⟩

theorem recorded_of_concurrent_logins : ∃ s, Sample.final = some s ∧
    Recorded Audit.Sample.tagged Audit.Sample.inetV4 Sample.start s.rows := by
  obtain ⟨s, hs, -⟩ := map_eq_some_iff.1
    (show Sample.final.map (fun s ↦ s.rows.length) = some 3 by decide +kernel)
  exact ⟨s, hs, recorded_of_concurrent
    (linked_of_hashless (by simp [Sample.start, Audit.Sample.hashless])) hs⟩

end WartungsRemote.Audit.Concurrent
