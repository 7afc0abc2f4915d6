import WartungsRemote.Device.Metrics
import WartungsRemote.Sql.Select

/-!
# Samples of network traffic

The sampler inserts samples into a table of the agent, and `uploadNetworkMetrics` sends them: it
reads up to 500 samples in the order of their ids, writes them to the control channel in one
message, deletes every sample **up to the last id** it has read, and repeats this until it gets
fewer than 500. The sampler goes on inserting meanwhile, and at every step the upload may fail or
the agent may be killed.

Ids increase, also after rows were deleted (`AUTOINCREMENT`), so what is inserted during an upload
is not deleted with it. A statement is a step of its own, because the database has a single
connection. The column `occurred_at` is the instant itself here, not its text.
-/

namespace WartungsRemote.Agent.Netmetrics

open Transition List Option Device

/-! ### The store -/

structure Sample where
  /-- 0 until the sample is inserted. -/
  id : ℕ
  occurredAt : ℕ
  intervalSeconds : ℚ
  bytesSentTotal : UInt64
  bytesRecvTotal : UInt64
  bytesSentControl : UInt64
  bytesRecvControl : UInt64
  deriving DecidableEq

/-- A row of `samples`. -/
structure Row where
  id : ℕ
  occurredAt : ℕ
  intervalSeconds : ℚ
  bytesSentTotal : Int64
  bytesRecvTotal : Int64
  bytesSentControl : Int64
  bytesRecvControl : Int64
  deriving DecidableEq

/-- The row that `Insert` makes of a sample. -/
def Row.insert (id : ℕ) (sample : Sample) : Row where
  id := id
  occurredAt := sample.occurredAt
  intervalSeconds := sample.intervalSeconds
  bytesSentTotal := sample.bytesSentTotal.toInt64
  bytesRecvTotal := sample.bytesRecvTotal.toInt64
  bytesSentControl := sample.bytesSentControl.toInt64
  bytesRecvControl := sample.bytesRecvControl.toInt64

/-- What `Pending` makes of a row. -/
def Row.scan (row : Row) : Sample where
  id := row.id
  occurredAt := row.occurredAt
  intervalSeconds := row.intervalSeconds
  bytesSentTotal := row.bytesSentTotal.toUInt64
  bytesRecvTotal := row.bytesRecvTotal.toUInt64
  bytesSentControl := row.bytesSentControl.toUInt64
  bytesRecvControl := row.bytesRecvControl.toUInt64

/-- `SELECT ... FROM samples ORDER BY id ASC LIMIT ?`. -/
def pending (limit : ℕ) (rows : List Row) : List Sample :=
  (Sql.select (fun _ ↦ true) (fun a b ↦ decide (a.id ≤ b.id)) 0 limit rows).map Row.scan

/-- `DELETE FROM samples WHERE id <= ?`. -/
def deleteUpTo (maxID : ℕ) (rows : List Row) : List Row :=
  rows.filter fun row ↦ ¬ row.id ≤ maxID

/-! ### The upload -/

def networkBatchSize : ℕ := 500

/-- How far `uploadNetworkMetrics` has come. -/
inductive Uploader
  | idle
  | looping
  | loaded (pending : List Sample)
  | written (pending : List Sample)
  deriving DecidableEq

/-- A sample in a `NetworkMetricsBatchPayload`. -/
def Sample.payload (s : Sample) : NetworkMetricsSample where
  occurredAt := s.occurredAt
  intervalSeconds := s.intervalSeconds
  bytesSentTotal := s.bytesSentTotal
  bytesRecvTotal := s.bytesRecvTotal
  bytesSentControl := s.bytesSentControl
  bytesRecvControl := s.bytesRecvControl

structure State where
  rows : List Row
  /-- The highest id given so far. -/
  lastID : ℕ
  uploader : Uploader
  /-- The samples inserted, with their ids. -/
  inserted : List Sample
  /-- The batches whose write has succeeded. -/
  sent : List (List Sample)
  /-- The messages on the control channel. -/
  messages : List (List NetworkMetricsSample)

def State.init : State where
  rows := []
  lastID := 0
  uploader := .idle
  inserted := []
  sent := []
  messages := []

inductive Label
  /-- `Insert`, with the id that the table gives. -/
  | insert (id : ℕ) (sample : Sample)
  | start
  /-- `Pending` succeeds or not. -/
  | pending (ok : Bool)
  /-- The message is written, or the write fails. -/
  | write (ok : Bool)
  /-- `DeleteUpTo` succeeds or not, and if not it may have deleted the rows. -/
  | delete (effect ok : Bool)
  | crash
  deriving DecidableEq

namespace State

variable (s : State)

def insert (id : ℕ) (sample : Sample) : Option State :=
  if s.lastID < id then
    some { s with
      rows := s.rows ++ [.insert id sample]
      lastID := id
      inserted := s.inserted ++ [{ sample with id }] }
  else none

/-- `Pending`, and the check that there is something to send. -/
def load (ok : Bool) : Option State :=
  match s.uploader with
  | .looping =>
    if ok then
      match pending networkBatchSize s.rows with
      | [] => some { s with uploader := .idle }
      | sample :: rest => some { s with uploader := .loaded (sample :: rest) }
    else some { s with uploader := .idle }
  | _ => none

def write (ok : Bool) : Option State :=
  match s.uploader with
  | .loaded pending =>
    if ok then
      some { s with
        uploader := .written pending
        sent := s.sent ++ [pending]
        messages := s.messages ++ [pending.map Sample.payload] }
    else some { s with uploader := .idle }
  | _ => none

/-- `DeleteUpTo` with the id of the last sample, and the end of the loop. -/
def delete (effect ok : Bool) : Option State :=
  match s.uploader with
  | .written pending =>
    match pending.getLast? with
    | some last =>
      if ok = true → effect = true then
        some { s with
          rows := if effect then deleteUpTo last.id s.rows else s.rows
          uploader := if ok && networkBatchSize ≤ pending.length then .looping else .idle }
      else none
    | none => none
  | _ => none

end State

def step (s : State) : Label → Option State
  | .insert id sample => s.insert id sample
  | .start => if s.uploader = .idle then some { s with uploader := .looping } else none
  | .pending ok => s.load ok
  | .write ok => s.write ok
  | .delete effect ok => s.delete effect ok
  | .crash => some { s with uploader := .idle }

/-- The step does not fail. -/
def Label.succeeds : Label → Bool
  | insert _ _ => true
  | start => true
  | pending ok => ok
  | write ok => ok
  | delete _ ok => ok
  | crash => false

/-- The step is one of the upload. -/
def Label.own : Label → Bool
  | insert _ _ => false
  | _ => true

/-! ### The statements on a table in the order of the ids -/

section Store

variable {rows : List Row}

/-- The rows are in the order of their ids. -/
def Sorted (rows : List Row) : Prop :=
  rows.Pairwise fun a b ↦ a.id < b.id

section Insert

variable {lastID id : ℕ} (hbounded : ∀ row ∈ rows, row.id ≤ lastID) (hid : lastID < id)
  (sample : Sample)
include hbounded hid

theorem Sorted.insert (h : Sorted rows) : Sorted (rows ++ [.insert id sample]) := by
  refine pairwise_append.2 ⟨h, pairwise_singleton _ _, fun row hrow row' hrow' ↦ ?_⟩
  rw [mem_singleton.1 hrow']
  exact Nat.lt_of_le_of_lt (hbounded row hrow) hid

theorem bounded_insert : ∀ row ∈ rows ++ [.insert id sample], row.id ≤ id := by
  intro row hrow
  obtain hold | hnew := mem_snoc.1 hrow
  · exact (hbounded row hold).trans (Nat.le_of_lt hid)
  · rw [hnew]
    exact Nat.le_refl id

end Insert

theorem scan_insert (id : ℕ) (sample : Sample) :
    (Row.insert id sample).scan = { sample with id } := by
  simp only [Row.scan, Row.insert, UInt64.toUInt64_toInt64]

theorem pending_eq (h : Sorted rows) (limit : ℕ) :
    pending limit rows = (rows.take limit).map Row.scan := by
  have hle : rows.Pairwise fun a b ↦ decide (a.id ≤ b.id) = true :=
    h.imp fun hlt ↦ decide_eq_true (Nat.le_of_lt hlt)
  rw [pending, Sql.select, filter_true, hle.insertionSort_eq, drop_zero]

/-- `DeleteUpTo` deletes the rows of the batch that ends with the sample, and no others. -/
theorem deleteUpTo_eq (h : Sorted rows) {n : ℕ} {last : Sample}
    (hlast : ((rows.take n).map Row.scan).getLast? = some last) :
    deleteUpTo last.id rows = rows.drop n := by
  rw [getLast?_map] at hlast
  obtain ⟨row, hrow, rfl⟩ := map_eq_some_iff.1 hlast
  obtain ⟨init, hinit⟩ := getLast?_eq_some_iff.1 hrow
  have hrows : rows = init ++ row :: rows.drop n := by
    conv_lhs => rw [← take_append_drop n rows, hinit, append_assoc]
    rfl
  unfold Sorted at h
  rw [hrows, pairwise_append, pairwise_cons] at h
  obtain ⟨-, ⟨hdrop, -⟩, hinit'⟩ := h
  conv_lhs => rw [hrows, deleteUpTo, filter_append]
  have hnil : init.filter (fun r ↦ ¬ r.id ≤ row.scan.id) = [] := by
    refine filter_eq_nil_iff.2 fun r hr ↦ ?_
    have hlt := hinit' r hr row mem_cons_self
    simpa [Row.scan] using Nat.le_of_lt hlt
  have hself : (rows.drop n).filter (fun r ↦ ¬ r.id ≤ row.scan.id) = rows.drop n :=
    filter_eq_self.2 fun r hr ↦ by simpa [Row.scan] using hdrop r hr
  rw [hnil, nil_append, filter_cons_of_neg (by simp [Row.scan]), hself]

end Store

/-! ### What a step does -/

section Steps

variable {s t : State}

theorem insert_eq_some {id : ℕ} {sample : Sample} (h : s.insert id sample = some t) :
    s.lastID < id ∧ t = { s with
      rows := s.rows ++ [.insert id sample]
      lastID := id
      inserted := s.inserted ++ [{ sample with id }] } := by
  unfold State.insert at h
  split_ifs at h with hid
  exact ⟨hid, (some.inj h).symm⟩

theorem load_eq_some {ok : Bool} (h : s.load ok = some t) : s.uploader = .looping ∧
    ((t = { s with uploader := .idle } ∧ (ok = true → pending networkBatchSize s.rows = [])) ∨
      pending networkBatchSize s.rows ≠ [] ∧
        t = { s with uploader := .loaded (pending networkBatchSize s.rows) }) := by
  unfold State.load at h
  split at h
  next hloop =>
    refine ⟨hloop, ?_⟩
    split_ifs at h with hok
    · split at h
      next hnil => exact .inl ⟨(some.inj h).symm, fun _ ↦ hnil⟩
      next sample rest hcons =>
        rw [hcons]
        exact .inr ⟨cons_ne_nil _ _, (some.inj h).symm⟩
    · exact .inl ⟨(some.inj h).symm, fun h ↦ absurd h hok⟩
  · cases h

theorem write_eq_some {ok : Bool} (h : s.write ok = some t) : ∃ p, s.uploader = .loaded p ∧
    ((ok = false ∧ t = { s with uploader := .idle }) ∨
      t = { s with
            uploader := .written p
            sent := s.sent ++ [p]
            messages := s.messages ++ [p.map Sample.payload] }) := by
  unfold State.write at h
  split at h
  next p hloaded =>
    split_ifs at h with hok
    · exact ⟨p, hloaded, .inr (some.inj h).symm⟩
    · exact ⟨p, hloaded, .inl ⟨Bool.eq_false_of_not_eq_true hok, (some.inj h).symm⟩⟩
  · cases h

theorem delete_eq_some {effect ok : Bool} (h : s.delete effect ok = some t) :
    ∃ p last, s.uploader = .written p ∧ p.getLast? = some last ∧ (ok = true → effect = true) ∧
      t = { s with
            rows := if effect then deleteUpTo last.id s.rows else s.rows
            uploader := if ok && networkBatchSize ≤ p.length then .looping else .idle } := by
  unfold State.delete at h
  split at h
  next p hwr =>
    split at h
    next last hlast =>
      by_cases hok : ok = true → effect = true
      · rw [if_pos hok] at h
        exact ⟨p, last, hwr, hlast, hok, (some.inj h).symm⟩
      · rw [if_neg hok] at h
        cases h
    · cases h
  · cases h

end Steps

/-! ### Nothing is lost -/

/-- The uploader has read the samples, and has not deleted them. -/
def State.Busy (s : State) (p : List Sample) : Prop :=
  s.uploader = .loaded p ∨ s.uploader = .written p

theorem State.not_busy {s : State} {p : List Sample}
    (hu : s.uploader = .idle ∨ s.uploader = .looping) : ¬ s.Busy p := by
  simp only [State.Busy]
  obtain hu | hu := hu <;> simp [hu]

/-- The rows are in the order of their ids, the uploader works on the first ones, and every sample
inserted is in the table or was sent. -/
structure Sound (s : State) : Prop where
  sorted : Sorted s.rows
  bounded : ∀ row ∈ s.rows, row.id ≤ s.lastID
  batch : ∀ p, s.Busy p → p ≠ [] ∧ p = (s.rows.take p.length).map Row.scan
  written : ∀ p, s.uploader = .written p → p ∈ s.sent
  kept : ∀ sample ∈ s.inserted, sample ∈ s.rows.map Row.scan ∨ ∃ batch ∈ s.sent, sample ∈ batch
  messages : s.messages = s.sent.map fun batch ↦ batch.map Sample.payload

namespace Sound

variable {s t : State}

theorem init : Sound .init where
  sorted := .nil
  bounded := nofun
  batch _ hp := absurd hp (State.not_busy (.inl rfl))
  written := nofun
  kept := nofun
  messages := rfl

variable {p : List Sample} {u : Uploader}

section

variable (h : Sound s)
include h

theorem length_le (hp : s.Busy p) : p.length ≤ s.rows.length := by
  have hlen := congrArg length (h.batch p hp).2
  rw [length_map, length_take] at hlen
  exact hlen ▸ Nat.min_le_right _ _

theorem insert {id : ℕ} {sample : Sample} (hid : s.lastID < id) : Sound { s with
    rows := s.rows ++ [.insert id sample]
    lastID := id
    inserted := s.inserted ++ [{ sample with id }] } where
  sorted := h.sorted.insert h.bounded hid sample
  bounded := bounded_insert h.bounded hid sample
  batch p hp := by
    obtain ⟨hne, heq⟩ := h.batch p hp
    refine ⟨hne, ?_⟩
    show p = ((s.rows ++ [Row.insert id sample]).take p.length).map Row.scan
    rw [take_append_of_le_length (h.length_le hp)]
    exact heq
  written := h.written
  kept x hx := by
    obtain hold | hnew := mem_snoc.1 hx
    · refine (h.kept x hold).imp_left fun hmem ↦ ?_
      rw [map_append]
      exact mem_append_left _ hmem
    · refine .inl (mem_map.2 ⟨.insert id sample, mem_append_right _ mem_cons_self, ?_⟩)
      rw [scan_insert, hnew]
  messages := h.messages

theorem setUploader (hu : u = .idle ∨ u = .looping) : Sound { s with uploader := u } :=
  { h with
    batch := fun _ hp ↦ absurd hp (State.not_busy hu)
    written := fun _ hp ↦ absurd (.inr hp) (State.not_busy hu) }

theorem pending (hne : pending networkBatchSize s.rows ≠ []) :
    Sound { s with uploader := .loaded (pending networkBatchSize s.rows) } := by
  refine { h with batch := ?_, written := nofun }
  rintro p (hp | hp)
  · obtain rfl := Uploader.loaded.inj hp
    refine ⟨hne, ?_⟩
    rw [pending_eq h.sorted, length_map, length_take, ← take_eq_take_min]
  · cases hp

theorem write (hp : s.uploader = .loaded p) : Sound { s with
    uploader := .written p
    sent := s.sent ++ [p]
    messages := s.messages ++ [p.map Sample.payload] } where
  sorted := h.sorted
  bounded := h.bounded
  batch q hq := by
    obtain hq | hq := hq
    · cases hq
    · obtain rfl := Uploader.written.inj hq
      exact h.batch p (.inl hp)
  written q hq := by
    obtain rfl := Uploader.written.inj hq
    exact mem_append_right _ mem_cons_self
  kept x hx := (h.kept x hx).imp_right fun ⟨batch, hbatch, hmem⟩ ↦
    ⟨batch, mem_append_left _ hbatch, hmem⟩
  messages := by rw [h.messages, map_append, map_singleton]

theorem drop (hp : s.uploader = .written p) (hu : u = .idle ∨ u = .looping) :
    Sound { s with rows := s.rows.drop p.length, uploader := u } := by
  refine setUploader (s := { s with rows := s.rows.drop p.length, uploader := .idle }) ?_ hu
  constructor
  case sorted => exact h.sorted.sublist (drop_sublist _ _)
  case bounded => exact fun row hrow ↦ h.bounded row (mem_of_mem_drop hrow)
  case batch => exact fun q hq ↦ absurd hq (State.not_busy (.inl rfl))
  case written => exact nofun
  case kept =>
    intro x hx
    obtain hmem | hsent := h.kept x hx
    · rw [← take_append_drop p.length s.rows, map_append, ← (h.batch p (.inr hp)).2] at hmem
      obtain hbatch | hrest := mem_append.1 hmem
      · exact .inr ⟨p, h.written p hp, hbatch⟩
      · exact .inl hrest
    · exact .inr hsent
  case messages => exact h.messages

theorem delete_eq_some {effect ok : Bool} (hs : s.delete effect ok = some t) :
    ∃ p, s.uploader = .written p ∧ (ok = true → effect = true) ∧
      t = { s with
            rows := if effect then s.rows.drop p.length else s.rows
            uploader := if ok && networkBatchSize ≤ p.length then .looping else .idle } := by
  obtain ⟨p, _, hp, hlast, hok, rfl⟩ := Netmetrics.delete_eq_some hs
  rw [(h.batch p (.inr hp)).2] at hlast
  rw [deleteUpTo_eq h.sorted hlast]
  exact ⟨p, hp, hok, rfl⟩

/-- **A step loses no sample.** -/
theorem step {l : Label} (hs : step s l = some t) : Sound t := by
  cases l with
  | insert =>
    obtain ⟨hid, rfl⟩ := insert_eq_some hs
    exact h.insert hid
  | start =>
    simp only [Netmetrics.step] at hs
    split_ifs at hs
    cases hs
    exact h.setUploader (.inr rfl)
  | pending =>
    obtain ⟨-, ⟨rfl, -⟩ | ⟨hne, rfl⟩⟩ := load_eq_some hs
    · exact h.setUploader (.inl rfl)
    · exact h.pending hne
  | write =>
    obtain ⟨p, hp, ⟨-, rfl⟩ | rfl⟩ := write_eq_some hs
    · exact h.setUploader (.inl rfl)
    · exact h.write hp
  | delete effect =>
    obtain ⟨p, hp, -, rfl⟩ := h.delete_eq_some hs
    have hu : ∀ b : Bool, (if b then Uploader.looping else .idle) = .idle ∨
        (if b then Uploader.looping else .idle) = .looping := by decide
    cases effect with
    | true => exact h.drop hp (hu _)
    | false => exact h.setUploader (hu _)
  | crash =>
    cases hs
    exact h.setUploader (.inl rfl)

end

end Sound

theorem sound_of_exec {ls : List Label} {s : State} (hrun : exec step .init ls = some s) :
    Sound s :=
  invariant_of_exec (fun _ _ _ h hs ↦ h.step hs) Sound.init hrun

/-! ### Everything is sent, once and in order -/

/-- The rows sent and not deleted. -/
def Uploader.unacked (rows : List Row) : Uploader → List Row
  | written p => rows.take p.length
  | _ => []

/-- What was done since a state, without failures: rows were added behind those that were there,
rows were deleted from the front, and what was sent is what was deleted and what is going to be. If
the upload is over, or works on its last batch, this includes all the rows that were there. -/
structure Draining (s t : State) (added gone : List Row) (new : List (List Sample)) : Prop where
  rows : s.rows ++ added = gone ++ t.rows
  sorted : Sorted (s.rows ++ added)
  bounded : ∀ row ∈ s.rows ++ added, row.id ≤ t.lastID
  sent : t.sent = s.sent ++ new
  flat : new.flatten = (gone ++ t.uploader.unacked t.rows).map Row.scan
  covered : t.uploader = .idle → s.rows <+: gone
  short : ∀ p, t.Busy p → p.length < networkBatchSize → s.rows <+: gone ++ t.rows.take p.length

namespace Draining

variable {s t t' : State} {added gone : List Row} {new : List (List Sample)}

theorem start (h : Sound s) : Draining s { s with uploader := .looping } [] [] [] where
  rows := append_nil _
  sorted := (append_nil s.rows).symm ▸ h.sorted
  bounded := (append_nil s.rows).symm ▸ h.bounded
  sent := (append_nil _).symm
  flat := rfl
  covered := nofun
  short _ hp := absurd hp (State.not_busy (.inr rfl))

theorem init : Draining .init .init [] [] [] where
  rows := rfl
  sorted := .nil
  bounded := nofun
  sent := rfl
  flat := rfl
  covered _ := nil_prefix
  short _ _ _ := nil_prefix

section

variable (h : Draining s t added gone new)
include h

section

variable (hsnd : Sound t)
include hsnd

theorem insert {id : ℕ} {sample : Sample} (hid : t.lastID < id) : Draining s { t with
      rows := t.rows ++ [.insert id sample]
      lastID := id
      inserted := t.inserted ++ [{ sample with id }] } (added ++ [.insert id sample]) gone new where
  rows := by rw [← append_assoc, h.rows, append_assoc]
  sorted := append_assoc s.rows .. ▸ h.sorted.insert h.bounded hid sample
  bounded := append_assoc s.rows .. ▸ bounded_insert h.bounded hid sample
  sent := h.sent
  flat := by
    rw [h.flat]
    show _ = (gone ++ t.uploader.unacked (t.rows ++ [Row.insert id sample])).map Row.scan
    cases hu : t.uploader with
    | written => simp only [Uploader.unacked, take_append_of_le_length (hsnd.length_le (.inr hu))]
    | idle | looping | loaded => rfl
  covered := h.covered
  short p hp hlt := by
    show s.rows <+: gone ++ (t.rows ++ [Row.insert id sample]).take p.length
    rw [take_append_of_le_length (hsnd.length_le hp)]
    exact h.short p hp hlt

theorem load (hs : t.load true = some t') : Draining s t' added gone new := by
  obtain ⟨hloop, hcas⟩ := load_eq_some hs
  have hflat := h.flat
  rw [hloop] at hflat
  rw [pending_eq hsnd.sorted] at hcas
  obtain ⟨rfl, hnil⟩ | ⟨-, rfl⟩ := hcas
  · refine ⟨h.rows, h.sorted, h.bounded, h.sent, hflat, fun _ ↦ ?_, fun p hp ↦ ?_⟩
    · -- The table is empty, so everything was deleted.
      have hemp : t.rows = [] := by simpa [networkBatchSize] using hnil rfl
      have hrows := h.rows
      rw [hemp, append_nil] at hrows
      exact hrows ▸ prefix_append _ _
    · exact absurd hp (State.not_busy (.inl rfl))
  · refine ⟨h.rows, h.sorted, h.bounded, h.sent, hflat, nofun, fun p hp hlt ↦ ?_⟩
    obtain hp | hp := hp
    · -- A batch that is not full has all the rows.
      obtain rfl := Uploader.loaded.inj hp
      have hle : t.rows.length ≤ networkBatchSize := by
        rw [length_map, length_take] at hlt
        omega
      show s.rows <+: gone ++ t.rows.take _
      rw [length_map, take_of_length_le hle, take_length, ← h.rows]
      exact prefix_append _ _
    · cases hp

theorem write (hs : t.write true = some t') : ∃ new', Draining s t' added gone new' := by
  obtain ⟨p, hp, ⟨hfalse, -⟩ | rfl⟩ := write_eq_some hs
  · cases hfalse
  refine ⟨new ++ [p], h.rows, h.sorted, h.bounded, ?_, ?_, nofun, fun q hq hlt ↦ ?_⟩
  · rw [h.sent, append_assoc]
  · have hflat := h.flat
    rw [hp] at hflat
    show (new ++ [p]).flatten = (gone ++ t.rows.take p.length).map Row.scan
    rw [flatten_append, hflat, map_append, map_append, ← (hsnd.batch p (.inl hp)).2]
    simp [Uploader.unacked]
  · obtain hq | hq := hq
    · cases hq
    · obtain rfl := Uploader.written.inj hq
      exact h.short p (.inl hp) hlt

theorem delete {effect : Bool} (hs : t.delete effect true = some t') :
    ∃ gone', Draining s t' added gone' new := by
  obtain ⟨p, hp, heffect, rfl⟩ := hsnd.delete_eq_some hs
  rw [if_pos (heffect rfl)]
  have hflat := h.flat
  rw [hp] at hflat
  refine ⟨gone ++ t.rows.take p.length, ?_, h.sorted, h.bounded, h.sent, ?_, fun hidle ↦
    ?_, fun q hq ↦ ?_⟩
  · show s.rows ++ added = gone ++ t.rows.take p.length ++ t.rows.drop p.length
    rw [append_assoc, take_append_drop, h.rows]
  · rw [hflat]
    split
    · simp [Uploader.unacked]
    · simp [Uploader.unacked]
  · refine h.short p (.inr hp) (Nat.not_le.1 fun hle ↦ ?_)
    simp [hle] at hidle
  · refine absurd hq (State.not_busy ?_)
    dsimp only
    split
    · exact .inr rfl
    · exact .inl rfl

/-- **A step without a failure.** -/
theorem step {l : Label} (hs : step t l = some t') (hl : l.succeeds = true) :
    ∃ added' gone' new', Draining s t' added' gone' new' := by
  cases l with
  | insert =>
    obtain ⟨hid, rfl⟩ := insert_eq_some hs
    exact ⟨_, _, _, h.insert hsnd hid⟩
  | start =>
    simp only [Netmetrics.step] at hs
    split_ifs at hs with hidle
    cases hs
    have hflat := h.flat
    rw [hidle] at hflat
    refine ⟨added, gone, new, h.rows, h.sorted, h.bounded, h.sent, hflat, nofun,
      fun p hp ↦ absurd hp (State.not_busy (.inr rfl))⟩
  | pending ok =>
    obtain rfl : ok = true := hl
    exact ⟨_, _, _, h.load hsnd hs⟩
  | write ok =>
    obtain rfl : ok = true := hl
    obtain ⟨new', h'⟩ := h.write hsnd hs
    exact ⟨_, _, _, h'⟩
  | delete _ ok =>
    obtain rfl : ok = true := hl
    obtain ⟨gone', h'⟩ := h.delete hsnd hs
    exact ⟨_, _, _, h'⟩
  | crash => cases hl

/-- **A run without failures**, by induction on its steps. -/
theorem of_exec {ls : List Label} (hrun : exec Netmetrics.step t ls = some t')
    (hls : ∀ l ∈ ls, l.succeeds = true) : ∃ added' gone' new', Draining s t' added' gone' new' := by
  induction ls generalizing t added gone new with
  | nil =>
    obtain rfl : t = t' := by simpa using hrun
    exact ⟨added, gone, new, h⟩
  | cons l _ ih =>
    obtain ⟨u, hu, hrest⟩ := (exec_cons_eq_some_iff _).1 hrun
    obtain ⟨added', gone', new', h'⟩ := h.step hsnd hu (hls l mem_cons_self)
    exact ih h' (hsnd.step hu) hrest fun l hl ↦ hls l (mem_cons_of_mem _ hl)

end

/-- What was sent are the first rows, in their order. -/
theorem flatten_prefix : new.flatten <+: (s.rows ++ added).map Row.scan := by
  rw [h.flat, h.rows]
  refine IsPrefix.map _ ((prefix_append_right_inj _).2 ?_)
  cases t.uploader with
  | written => exact take_prefix _ _
  | idle | looping | loaded => exact nil_prefix

theorem increasing : new.flatten.Pairwise fun a b ↦ a.id < b.id := by
  refine Pairwise.sublist h.flatten_prefix.sublist (pairwise_map.2 ?_)
  exact h.sorted

/-- If the upload is over, all the rows that were there were sent, and are gone. -/
theorem finished (hidle : t.uploader = .idle) :
    s.rows.map Row.scan <+: new.flatten ∧ ∀ row ∈ s.rows, row ∉ t.rows := by
  obtain ⟨_, hrest⟩ := h.covered hidle
  have hflat := h.flat
  rw [hidle] at hflat
  refine ⟨?_, fun row hrow hmem ↦ ?_⟩
  · rw [hflat, ← hrest]
    simp [Uploader.unacked]
  · have hsort := h.sorted
    rw [h.rows] at hsort
    have hlt := (pairwise_append.1 hsort).2.2 row (hrest ▸ mem_append_left _ hrow) row hmem
    exact Nat.lt_irrefl _ hlt

end

end Draining

/-! ### The upload comes to an end -/

/-- An upper bound for the steps that the upload takes, if nothing is inserted. -/
def State.measure (s : State) : ℕ :=
  3 * s.rows.length +
    match s.uploader with
    | .idle => 0
    | .looping => 3
    | .loaded _ => 2
    | .written _ => 1

section Termination

variable {s t : State}

/-- A step of the upload comes closer to its end: what it reads, it deletes. -/
theorem measure_of_step {l : Label} (hsnd : Sound s) (hs : step s l = some t)
    (hl : l.succeeds = true) (hstart : l ≠ .start) :
    (l.own = true → t.measure + 1 ≤ s.measure) ∧ (l.own = false → t.measure ≤ s.measure + 3) := by
  cases l with
  | insert =>
    refine ⟨nofun, fun _ ↦ ?_⟩
    obtain ⟨-, rfl⟩ := insert_eq_some hs
    simp only [State.measure, length_append, length_singleton]
    omega
  | start => exact absurd rfl hstart
  | pending =>
    refine ⟨fun _ ↦ ?_, nofun⟩
    obtain ⟨hloop, ⟨rfl, -⟩ | ⟨-, rfl⟩⟩ := load_eq_some hs
    · simp only [State.measure, hloop]
      omega
    · simp only [State.measure, hloop]
      omega
  | write =>
    refine ⟨fun _ ↦ ?_, nofun⟩
    obtain ⟨p, hp, ⟨-, rfl⟩ | rfl⟩ := write_eq_some hs
    · simp only [State.measure, hp]
      omega
    · simp only [State.measure, hp]
      omega
  | delete _ ok =>
    refine ⟨fun _ ↦ ?_, nofun⟩
    obtain rfl : ok = true := hl
    obtain ⟨p, hp, heffect, rfl⟩ := hsnd.delete_eq_some hs
    have hpos : 0 < p.length := length_pos_iff.2 (hsnd.batch p (.inr hp)).1
    have hle := hsnd.length_le (.inr hp)
    rw [if_pos (heffect rfl)]
    simp only [State.measure, hp, length_drop]
    split_ifs
    · simp only
      omega
    · simp only
      omega
  | crash => cases hl

/-- **The upload ends**, unless samples are inserted for ever. -/
theorem countP_own_le {ls : List Label} (hsnd : Sound s) (hrun : exec step s ls = some t)
    (hls : ∀ l ∈ ls, l.succeeds = true ∧ l ≠ .start) :
    t.measure + ls.countP Label.own ≤ s.measure + 3 * ls.countP fun l ↦ !l.own := by
  induction ls generalizing s with
  | nil =>
    obtain rfl : s = t := by simpa using hrun
    exact Nat.le_refl _
  | cons l _ ih =>
    obtain ⟨u, hu, hrest⟩ := (exec_cons_eq_some_iff _).1 hrun
    obtain ⟨hl, hstart⟩ := hls l mem_cons_self
    obtain ⟨hown_step, hins⟩ := measure_of_step hsnd hu hl hstart
    have hlater := ih (hsnd.step hu) hrest fun l hl ↦ hls l (mem_cons_of_mem _ hl)
    rw [countP_cons, countP_cons]
    cases hown : l.own with
    | true =>
      have hfst := hown_step hown
      simp only [if_true, Bool.not_true, Bool.false_eq_true, if_false]
      omega
    | false =>
      have hfst := hins hown
      simp only [Bool.false_eq_true, if_false, Bool.not_false, if_true]
      omega

/-- **The upload can go on** as long as it is not over. -/
theorem exists_step (hsnd : Sound s) (hu : s.uploader ≠ .idle) :
    ∃ l t, l.own = true ∧ l.succeeds = true ∧ step s l = some t := by
  cases hupl : s.uploader with
  | idle => exact absurd hupl hu
  | looping =>
    cases hpend : pending networkBatchSize s.rows with
    | nil => exact ⟨.pending true, _, rfl, rfl, by simp only [step, State.load, hupl, hpend]; rfl⟩
    | cons =>
      exact ⟨.pending true, _, rfl, rfl, by simp only [step, State.load, hupl, hpend]; rfl⟩
  | loaded => exact ⟨.write true, _, rfl, rfl, by simp only [step, State.write, hupl]; rfl⟩
  | written p =>
    have hlast := getLast?_eq_some_getLast (hsnd.batch p (.inr hupl)).1
    exact ⟨.delete true true, _, rfl, rfl, by simp only [step, State.delete, hupl, hlast]; rfl⟩

end Termination

/-! ### Traffic samples -/

/-- **Traffic samples are not lost.** After any steps, every sample inserted is in the table, or in
a batch whose message was written. Without failures no sample is ever sent twice. If the upload that
starts then has no failures, it sends samples in the order of their ids and none twice; it can go on
as long as it is not over, and takes at most three steps for each sample that is in the table or is
inserted, and three more; and when it is over, it has sent every sample that was in the table at its
start, and they are gone. -/
theorem traffic_samples {ls : List Label} {s : State} (hrun : exec step .init ls = some s) :
    (∀ sample ∈ s.inserted, sample ∈ s.rows.map Row.scan ∨ ∃ batch ∈ s.sent, sample ∈ batch) ∧
    (s.messages = s.sent.map fun batch ↦ batch.map Sample.payload) ∧
    ((∀ l ∈ ls, l.succeeds = true) → s.sent.flatten.Pairwise fun a b ↦ a.id < b.id) ∧
    ∀ u us t, step s .start = some u → exec step u us = some t →
      (∀ l ∈ us, l.succeeds = true ∧ l ≠ .start) →
      ∃ new, t.sent = s.sent ++ new ∧ (new.flatten.Pairwise fun a b ↦ a.id < b.id) ∧
        (t.uploader ≠ .idle → ∃ l t', l.own = true ∧ l.succeeds = true ∧ step t l = some t') ∧
        us.countP Label.own ≤ 3 * (s.rows.length + us.countP fun l ↦ !l.own) + 3 ∧
        (t.uploader = .idle → s.rows.map Row.scan <+: new.flatten ∧ ∀ row ∈ s.rows,
          row ∉ t.rows) := by
  have hsnd := sound_of_exec hrun
  refine ⟨hsnd.kept, hsnd.messages, fun hls ↦ ?_, fun u us t hstart hus hsucceeds ↦ ?_⟩
  · obtain ⟨added, gone, new, h⟩ := Draining.init.of_exec Sound.init hrun hls
    rw [h.sent]
    exact h.increasing
  simp only [step] at hstart
  split_ifs at hstart
  cases hstart
  have hsnd' : Sound { s with uploader := .looping } := hsnd.setUploader (.inr rfl)
  obtain ⟨added, gone, new, h⟩ :=
    (Draining.start hsnd).of_exec hsnd' hus fun l hl ↦ (hsucceeds l hl).1
  have hend : Sound t := invariant_of_exec (fun _ _ _ h hs ↦ h.step hs) hsnd' hus
  have hcnt := countP_own_le hsnd' hus hsucceeds
  refine ⟨new, h.sent, h.increasing, exists_step hend, ?_, h.finished⟩
  simp only [State.measure] at hcnt
  omega

namespace Scenario

def sample (bytes : UInt64) : Sample where
  id := 0
  occurredAt := 7
  intervalSeconds := 60
  bytesSentTotal := bytes
  bytesRecvTotal := 0
  bytesSentControl := 0
  bytesRecvControl := 0

/-- The agent is killed when it has sent two samples and not deleted them. -/
def before : List Label :=
  [.insert 1 (sample 10), .insert 2 (sample 20), .start, .pending true, .write true, .crash]

/-- An upload during which a sample is inserted. -/
def upload : List Label :=
  [.pending true, .insert 3 (sample 30), .write true, .delete true true]

end Scenario

/-- The two samples are sent again and are gone; the one inserted meanwhile stays. -/
theorem traffic_samples_interrupted :
    ∃ s u t, exec step .init Scenario.before = some s ∧ step s .start = some u ∧
      exec step u Scenario.upload = some t ∧
        t.rows.map Row.scan = [{ Scenario.sample 30 with id := 3 }] ∧
      ∃ new, t.sent = s.sent ++ new ∧ s.rows.map Row.scan <+: new.flatten := by
  obtain ⟨⟨s, u, t⟩, hall, hend⟩ := map_eq_some_iff.1
    (show ((exec step .init Scenario.before).bind fun s ↦ (step s .start).bind fun u ↦
      (exec step u Scenario.upload).map fun t ↦ (s, u, t)).map (fun x ↦
        (x.2.2.uploader, x.2.2.rows.map Row.scan)) =
          some (.idle, [{ Scenario.sample 30 with id := 3 }]) by decide +kernel)
  obtain ⟨s', hs, hall⟩ := bind_eq_some_iff.1 hall
  obtain ⟨u', hu, hall⟩ := bind_eq_some_iff.1 hall
  obtain ⟨t', ht, heq⟩ := map_eq_some_iff.1 hall
  obtain ⟨rfl, rfl, rfl⟩ : s' = s ∧ u' = u ∧ t' = t := by simpa using heq
  obtain ⟨hidle, hrows⟩ := Prod.mk.inj hend
  obtain ⟨new, hsent, -, -, -, hfin⟩ := (traffic_samples hs).2.2.2 u' Scenario.upload t' hu ht
    (by decide)
  exact ⟨s', u', t', hs, hu, ht, hrows, new, hsent, (hfin hidle).1⟩

end WartungsRemote.Agent.Netmetrics
