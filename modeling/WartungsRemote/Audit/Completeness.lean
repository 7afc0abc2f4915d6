import WartungsRemote.Audit.Verification

/-!
# Completeness

After any number of records on a log without hashes, `VerifyChain` is meant to report the log as
valid, with as many entries as were recorded (`Complete`). It is **not so for every event**.
`Record` hashes the text of the address as it was given, and `VerifyChain` hashes what the column
prints: an address with a mask, or one that is written in another way, breaks the chain for good
(`not_complete_masked`). The metadata goes through `jsonb` and a `map[string]any` in between, and
comes back as it was only if `json.Marshal` writes it as it would write a decoded value. Both
conditions together are exact (`reportsComplete_iff_canonical`).
-/

namespace WartungsRemote.Audit

open List Option Transition

variable {sha256 : Bytes → Bytes} {inet : Text → Option Inet}

/-! ### What is recorded -/

variable (sha256 inet) in
/-- `Record` as a step of the log. -/
def recordStep (log : Log) (e : Timestamp × Event) : Option Log :=
  log.record sha256 inet e.1 e.2

variable (inet) in
/-- The event is as `VerifyChain` reads it back: the address as the column prints it, and the
metadata as `json.Marshal` writes a decoded value. -/
def Event.Canonical (ev : Event) : Prop :=
  (ev.sourceIP = [] ∨ ∃ ip, inet ev.sourceIP = some ip ∧ ip.host = ev.sourceIP) ∧
    Json.Writable ev.meta

variable {m : Jsonb} {ip : Option Inet} {ev : Event} {n : ℕ} {e : Timestamp × Event}
  {log log' : Log} {p : Progress} {es : List (Timestamp × Event)}

theorem toJsonb_eq_some_iff {t : Json.Tree} : toJsonb t = some m ↔ t.toValue = some m.1 := by
  simp only [toJsonb, map_eq_some_iff]
  constructor
  · rintro ⟨⟨v, hv⟩, -, rfl⟩
    exact hv
  · intro h
    exact ⟨⟨m.1, h⟩, by simpa [attach_eq_some_iff] using h, rfl⟩

/-- The column prints the address as it was given exactly if it is canonical. -/
theorem ipText_eq_iff {text : Text} (h : storeIP inet text = some ip) :
    ipText ip = text ↔ text = [] ∨ ∃ ip, inet text = some ip ∧ ip.host = text := by
  unfold storeIP at h
  split_ifs at h with hemp
  · cases h
    simp [ipText, hemp]
  · obtain ⟨ip, hip, rfl⟩ := map_eq_some_iff.1 h
    simp [ipText, hemp, hip]

theorem unmarshalMap_of_stored (h : toJsonb ev.meta = some m) :
    unmarshalMap m = Json.decode m.1 := by
  obtain ⟨_, -, hobj⟩ := map_eq_some_iff.1
    (show (Json.valueMembers (ev.metadata.getD [])).map Json.Value.obj = some m.1 from
      toJsonb_eq_some_iff.1 h)
  rw [unmarshalMap, ← hobj]

/-- An entry is read back as it was hashed exactly if the address and the metadata are. -/
theorem text_eq_iff_of_stored {t : Timestamp} {prev : Option Bytes} {a : Json.Value Json.Float64}
    (ha : unmarshalMap m = some a) :
    ((ev.row sha256 t prev ip m n).fields t a).text = (ev.fields t).text ↔
      ipText ip = ev.sourceIP ∧ a.toTree = ev.meta := by
  constructor
  · intro h
    have hrest : ipText ip ++ (writeUUIDPtr ev.requestID ++ Json.marshal a) =
        ev.sourceIP ++ (writeUUIDPtr ev.requestID ++ ev.meta.render) :=
      append_cancel_left (append_cancel_left (append_cancel_left (append_cancel_left h)))
    rw [← append_assoc, ← append_assoc] at hrest
    obtain ⟨hip, hjson⟩ := Json.suffixFree_objectText.append_inj (marshal_mem_objectText ha)
      (Or.inr ⟨_, rfl⟩) hrest
    exact ⟨append_cancel_right hip, Json.Tree.render_injective hjson⟩
  · rintro ⟨hip, htree⟩
    simp only [ChainableFields.text, Row.fields, Event.row, Event.fields, Json.marshal, hip, htree]

/-- A stored event is canonical exactly if it is read back as it was hashed. -/
theorem canonical_iff_of_stored
    (hip : storeIP inet ev.sourceIP = some ip) (hm : toJsonb ev.meta = some m) : ev.Canonical inet ↔
      ipText ip = ev.sourceIP ∧ ∃ a, unmarshalMap m = some a ∧ a.toTree = ev.meta := by
  rw [Event.Canonical, ← ipText_eq_iff hip, unmarshalMap_of_stored hm,
    Json.decode_toTree_iff_writable (toJsonb_eq_some_iff.1 hm)]

/-! ### Verifying what was recorded -/

theorem recordStep_eq_some_iff : recordStep sha256 inet log e = some log' ↔
      ∃ ip m, storeIP inet e.2.sourceIP = some ip ∧ toJsonb e.2.meta = some m ∧
        log.insert (e.2.row sha256 e.1 (log.rows.getLast?.bind Row.entryHash) ip m)
          (e.2.id_row sha256 e.1 _ ip m) = log' := by
  simp [recordStep, Log.record, bind_eq_some_iff]

section Recorded

variable {ev : Event} {t : Timestamp} {prev : Option Bytes} {ip : Option Inet} {m : Jsonb} {n : ℕ}
  {p : Progress}

theorem chained_recorded (hne : ∀ x, sha256 x ≠ []) : (ev.row sha256 t prev ip m n).Chained :=
  hne _

theorem nextRow_of_canonical (hne : ∀ x, sha256 x ≠ []) (hprev : prev.getD [] = p.expectedPrev)
    (hip : storeIP inet ev.sourceIP = some ip) (hm : toJsonb ev.meta = some m)
    (hcan : ev.Canonical inet) : nextRow sha256 p (ev.row sha256 t prev ip m n) =
      some { expectedPrev := computeEntryHash sha256 (prev.getD []) (ev.fields t),
             count := p.count + 1, preChain := p.preChain, chainStarted := true } := by
  obtain ⟨haddr, a, ha, htree⟩ := (canonical_iff_of_stored hip hm).1 hcan
  have htext : ((ev.row sha256 t prev ip m n).fields t a).text = (ev.fields t).text :=
    (text_eq_iff_of_stored ha).2 ⟨haddr, htree⟩
  rw [nextRow_eq_some_iff, verifyRow_of_chained (chained_recorded hne) rfl ha, if_pos]
  · rfl
  · refine ⟨hprev, ?_⟩
    rw [computeEntryHash, htext, ← hprev]
    rfl

theorem nextRow_of_not_canonical (hne : ∀ x, sha256 x ≠ []) (hinj : Function.Injective sha256)
    (hprev : prev.getD [] = p.expectedPrev) (hip : storeIP inet ev.sourceIP = some ip)
    (hm : toJsonb ev.meta = some m) (hcan : ¬ ev.Canonical inet) :
    nextRow sha256 p (ev.row sha256 t prev ip m n) = none := by
  refine eq_none_iff_forall_ne_some.2 fun q hq ↦ hcan ?_
  have hnext := nextRow_eq_some_iff.1 hq
  obtain ⟨-, a, ha⟩ := readable_of_next (chained_recorded hne) hnext
  rw [verifyRow_of_chained (chained_recorded hne) rfl ha] at hnext
  split_ifs at hnext with hhash
  have hsame : computeEntryHash sha256 p.expectedPrev (ev.fields t) =
      computeEntryHash sha256 p.expectedPrev ((ev.row sha256 t prev ip m n).fields t a) := by
    rw [← hhash.2, ← hprev]
    rfl
  obtain ⟨haddr, htree⟩ := (text_eq_iff_of_stored ha).1 (computeEntryHash_inj hinj hsame).symm
  exact (canonical_iff_of_stored hip hm).2 ⟨haddr, a, ha, htree⟩

end Recorded

/-! ### Runs of Record -/

variable (sha256) in
/-- The loop goes over all rows of the log, and then expects the hash that the next record has. -/
structure Reached (log : Log) (p : Progress) : Prop where
  exec : exec (nextRow sha256) .init log.rows = some p
  prev : (log.rows.getLast?.bind Row.entryHash).getD [] = p.expectedPrev

theorem reached_hashless (hrows : ∀ r ∈ log.rows, ¬ r.Chained)
    (hscan : ∀ r ∈ log.rows, ∃ t, r.occurredAt.scan = some t) : ∃ p, Reached sha256 log p ∧
      p.count = 0 := by
  refine ⟨_, ⟨exec_hashless rfl hrows hscan, ?_⟩, rfl⟩
  cases hlast : log.rows.getLast? with
  | none => rfl
  | some r => exact not_not.1 (hrows r (mem_of_getLast? hlast))

theorem Reached.record
    (hne : ∀ x, sha256 x ≠ []) (h : Reached sha256 log p)
    (hstep : recordStep sha256 inet log e = some log') (hcan : e.2.Canonical inet) :
    ∃ q, Reached sha256 log' q ∧ q.count = p.count + 1 := by
  obtain ⟨_, m, hip, hm, rfl⟩ := recordStep_eq_some_iff.1 hstep
  have hrow := nextRow_of_canonical (t := e.1) (n := log.nextID) hne h.prev hip hm hcan
  refine ⟨_, ⟨(exec_append_eq_some_iff _).2 ⟨p, h.exec, (exec_cons_eq_some_iff _).2 ⟨_, hrow, rfl⟩⟩,
    ?_⟩, rfl⟩
  simp [Event.row]

theorem Reached.not_exec_record
    (hne : ∀ x, sha256 x ≠ []) (hinj : Function.Injective sha256) (h : Reached sha256 log p)
    (hstep : recordStep sha256 inet log e = some log') (hcan : ¬ e.2.Canonical inet) :
    Transition.exec (nextRow sha256) .init log'.rows = none := by
  obtain ⟨_, m, hip, hm, rfl⟩ := recordStep_eq_some_iff.1 hstep
  rw [Log.rows_insert, exec_append, h.exec, bind_some, exec_cons,
    nextRow_of_not_canonical hne hinj h.prev hip hm hcan]
  rfl

theorem rows_of_records
    (h : exec (recordStep sha256 inet) log es = some log') :
    ∃ rest, log'.rows = log.rows ++ rest := by
  induction es generalizing log with
  | nil =>
    obtain rfl : log = log' := by simpa using h
    exact ⟨[], by simp⟩
  | cons _ _ ih =>
    obtain ⟨_, hstep, hrest⟩ := (exec_cons_eq_some_iff _).1 h
    obtain ⟨_, m, -, -, rfl⟩ := recordStep_eq_some_iff.1 hstep
    obtain ⟨rest, hrows⟩ := ih hrest
    exact ⟨_, hrows.trans (append_assoc _ _ _)⟩

/-- The loop goes over canonical records, and counts them. -/
theorem Reached.records (hne : ∀ x, sha256 x ≠ []) (h : Reached sha256 log p)
    (hrun : Transition.exec (recordStep sha256 inet) log es = some log')
    (hcan : ∀ e ∈ es, e.2.Canonical inet) :
    ∃ q, Transition.exec (nextRow sha256) .init log'.rows = some q ∧ q.count = p.count +
      es.length := by
  induction es generalizing log p with
  | nil =>
    cases hrun
    exact ⟨p, h.exec, rfl⟩
  | cons e _ ih =>
    obtain ⟨_, hstep, hrest⟩ := (exec_cons_eq_some_iff _).1 hrun
    obtain ⟨hhead, htail⟩ := forall_mem_cons.1 hcan
    obtain ⟨q, hrch, hcnt⟩ := h.record hne hstep hhead
    simpa [hcnt, Nat.add_assoc, Nat.add_comm 1] using ih hrch hrest htail

/-- The loop stops at the first record that is not canonical. -/
theorem Reached.canonical (hne : ∀ x, sha256 x ≠ []) (hinj : Function.Injective sha256)
    (h : Reached sha256 log p) (hrun : Transition.exec (recordStep sha256 inet) log es = some log')
    (hexec : Transition.exec (nextRow sha256) .init log'.rows ≠ none) :
    ∀ e ∈ es, e.2.Canonical inet := by
  induction es generalizing log p with
  | nil => exact fun _ he ↦ absurd he not_mem_nil
  | cons e _ ih =>
    obtain ⟨_, hstep, hrest⟩ := (exec_cons_eq_some_iff _).1 hrun
    by_cases hcan : e.2.Canonical inet
    · obtain ⟨q, hrch, -⟩ := h.record hne hstep hcan
      exact forall_mem_cons.2 ⟨hcan, ih hrch hrest⟩
    · obtain ⟨_, hrows⟩ := rows_of_records hrest
      rw [hrows, exec_append, h.not_exec_record hne hinj hstep hcan] at hexec
      exact absurd rfl hexec

/-! ### Completeness -/

variable (sha256) in
/-- `VerifyChain` reports the log as valid, and has checked this many entries. -/
def Log.ReportsComplete (log : Log) (n : ℕ) : Prop :=
  ∃ v, log.verifyChain sha256 = .ok v ∧ v.valid = true ∧ v.entriesCheck = n ∧ v.brokenAtID = none

variable (sha256 inet) in
/-- Whatever was recorded on a log without hashes is reported as valid. -/
def Complete : Prop :=
  ∀ (log log' : Log) (es : List (Timestamp × Event)), (∀ r ∈ log.rows, ¬ r.Chained) →
    exec (recordStep sha256 inet) log es = some log' → log'.ReportsComplete sha256 es.length

/-- The report is that of a loop that went over all rows. -/
theorem reportsComplete_iff_exec : log.ReportsComplete sha256 n ↔
      ∃ q, exec (nextRow sha256) .init log.rows = some q ∧ q.count = n := by
  constructor
  · rintro ⟨v, hv, hval, hcnt, -⟩
    obtain ⟨q, hexec, rfl⟩ := verifyRows_eq_valid hv hval
    exact ⟨q, hexec, hcnt⟩
  · rintro ⟨q, hexec, hcnt⟩
    refine ⟨q.report, ?_, rfl, hcnt, rfl⟩
    rw [Log.verifyChain, ← append_nil log.rows, verifyRows_append [] hexec]
    rfl

/-- **What was recorded on a log without hashes is reported as valid** if every event is canonical
and the rows that were there have a finite timestamp, and without hash collisions in no other case.
-/
theorem reportsComplete_iff_canonical (hne : ∀ x, sha256 x ≠ []) {log log' : Log}
    {es : List (Timestamp × Event)} (hstart : ∀ r ∈ log.rows, ¬ r.Chained)
    (hrun : Transition.exec (recordStep sha256 inet) log es = some log') :
    ((∀ r ∈ log.rows, ∃ t, r.occurredAt.scan = some t) ∧ (∀ e ∈ es, e.2.Canonical inet) →
      log'.ReportsComplete sha256 es.length) ∧
    (Function.Injective sha256 → (log'.ReportsComplete sha256 es.length ↔
      (∀ r ∈ log.rows, ∃ t, r.occurredAt.scan = some t) ∧ ∀ e ∈ es, e.2.Canonical inet)) := by
  have hcomp : (∀ r ∈ log.rows, ∃ t, r.occurredAt.scan = some t) ∧ (∀ e ∈ es, e.2.Canonical inet) →
      log'.ReportsComplete sha256 es.length := by
    rintro ⟨hscan, hcan⟩
    obtain ⟨p, hrch, hzero⟩ := reached_hashless hstart hscan
    obtain ⟨q, hexec, hcnt⟩ := hrch.records hne hrun hcan
    exact reportsComplete_iff_exec.2 ⟨q, hexec, by omega⟩
  refine ⟨hcomp, fun hinj ↦ ⟨fun hreport ↦ ?_, hcomp⟩⟩
  obtain ⟨q, hexec, -⟩ := reportsComplete_iff_exec.1 hreport
  have hscan : ∀ r ∈ log.rows, ∃ t, r.occurredAt.scan = some t := by
    obtain ⟨_, hrows⟩ := rows_of_records hrun
    rw [hrows] at hexec
    obtain ⟨p, hfst, -⟩ := (exec_append_eq_some_iff _).1 hexec
    exact scan_of_exec hfst
  obtain ⟨p, hrch, -⟩ := reached_hashless hstart hscan
  exact ⟨hscan, hrch.canonical hne hinj hrun (by simp [hexec])⟩

namespace Sample

/-- A number below 256. -/
def byte (t : Text) : Option UInt8 :=
  if t ≠ [] ∧ t.all Char.isDigit ∧ Nat.ofDigitChars 10 t 0 < 256 then
    some (UInt8.ofNat (Nat.ofDigitChars 10 t 0))
  else none

/-- Four bytes with dots between them. -/
def address (t : Text) (bits : Fin 33) : Option Inet :=
  match t.splitOn '.' with
  | [a, b, c, d] => do
    some (.v4 (← byte a) (← byte b) (← byte c) (← byte d) bits)
  | _ => none

/-- The part of the column's input function that reads IPv4 addresses, with a mask or without. -/
def inetV4 (t : Text) : Option Inet :=
  match t.splitOn '/' with
  | [a] => address a 32
  | [a, bits] =>
    if h : bits ≠ [] ∧ bits.all Char.isDigit ∧ Nat.ofDigitChars 10 bits 0 < 33 then
      address a ⟨Nat.ofDigitChars 10 bits 0, h.2.2⟩
    else none
  | _ => none

/-- A login from an address. -/
def login (sourceIP : Text) : Event where
  actorType := .user
  actorID := some 1
  sessionID := none
  deviceID := none
  customerID := none
  eventType := ['l', 'o', 'g', 'i', 'n']
  result := .success
  sourceIP := sourceIP
  requestID := none
  metadata := none

def plainIP : Text := ['1', '0', '.', '0', '.', '0', '.', '1']

def maskedIP : Text := plainIP ++ ['/', '2', '4']

/-- The empty table. -/
def empty : Log where
  rows := []
  nextID := 1
  sorted := Pairwise.nil
  fresh := by simp

/-- The table with the logins from two addresses. -/
def logins (first second : Text) : Option Log :=
  exec (recordStep tagged inetV4) empty [(time, login first), (time, login second)]

theorem canonical_login : (login plainIP).Canonical inetV4 :=
  ⟨Or.inr ⟨.v4 10 0 0 1 32, by decide +kernel, by decide +kernel⟩,
    .obj [], ⟨Pairwise.nil, trivial⟩, by decide, rfl⟩

end Sample

open Sample

/-- Two logins from an address without a mask are reported as valid. -/
theorem reportsComplete_iff_canonical_logins : ∃ log, logins plainIP plainIP = some log ∧
      log.ReportsComplete tagged 2 := by
  obtain ⟨log, hlog⟩ := isSome_iff_exists.1 (show (logins plainIP plainIP).isSome =
    true by decide +kernel)
  refine ⟨log, hlog, ((reportsComplete_iff_canonical tagged_ne_nil (by simp [empty]) hlog).2
    tagged_injective).2 ⟨by simp [empty], ?_⟩⟩
  simp [canonical_login]

/-- A login from an address with a mask breaks the chain, even with a hash function without
collisions. -/
theorem not_complete_masked : ¬ ∀ sha256 : Bytes → Bytes, Function.Injective sha256 →
    (∀ x, sha256 x ≠ []) →
      Complete sha256 inetV4 := by
  intro h
  have hinv : ((logins plainIP maskedIP).bind fun log ↦
      (log.verifyChain tagged).toOption.map ChainVerification.valid) = some false := by
    decide +kernel
  obtain ⟨log, hlog, hreport⟩ := bind_eq_some_iff.1 hinv
  obtain ⟨v, hv, hval, -⟩ := h tagged tagged_injective tagged_ne_nil empty log _
    (by simp [empty]) hlog
  rw [hv] at hreport
  simp [Except.toOption, hval] at hreport

end WartungsRemote.Audit
