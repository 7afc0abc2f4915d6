import WartungsRemote.Audit.Verification

/-!
# Tamper evidence

If one row of a log that `VerifyChain` reports as valid is rewritten, except for its hashes, then
`VerifyChain` is meant to report the log as invalid (`TamperEvident`). It is **not so for every hash
function, however free of collisions**. The hashed text does not say which of the four ids is which,
nor where they end and the event type begins, so an id can be moved from one column to another
(`not_tamperEvident_moved_id`). A rewritten row is reported exactly if `VerifyChain` can still read
it and it does not `Agree` with the row before (`reportsInvalid_iff_of_rewritten`).
-/

namespace WartungsRemote.Audit

open Option

variable {sha256 : Bytes → Bytes}

/-! ### Reports -/

variable (sha256) in
/-- `VerifyChain` reports the log as valid. -/
def Log.ReportsValid (log : Log) : Prop :=
  ∃ v, log.verifyChain sha256 = .ok v ∧ v.valid = true

variable (sha256) in
/-- `VerifyChain` reports the log as invalid. -/
def Log.ReportsInvalid (log : Log) : Prop :=
  ∃ v, log.verifyChain sha256 = .ok v ∧ v.valid = false

instance : DecidablePred (Log.ReportsValid sha256) := fun log ↦
  decidable_of_iff ((log.verifyChain sha256).toOption.any ChainVerification.valid) (by
    unfold Log.ReportsValid
    cases log.verifyChain sha256 <;> simp [Except.toOption])

/-- One row with a hash was rewritten, except for its id and its hashes. -/
structure Rewritten (log log' : Log) (r r' : Row) : Prop where
  rows : ∃ pre post, log.rows = pre ++ r :: post ∧ log'.rows = pre ++ r' :: post
  chained : r.Chained
  id : r'.id = r.id
  prevHash : r'.prevHash = r.prevHash
  entryHash : r'.entryHash = r.entryHash

variable (sha256) in
/-- Every change of a row in a valid log is reported. -/
def TamperEvident : Prop :=
  ∀ (log log' : Log) (r r' : Row), log.ReportsValid sha256 → Rewritten log log' r r' → r ≠ r' →
    log'.ReportsInvalid sha256

/-! ### What is reported -/

/-- The rows are alike in what the hashed text shows: the four ids only together with the event
type, the address without its mask, and the decoded metadata. -/
structure Row.Agree (r r' : Row) : Prop where
  occurredAt : r.occurredAt = r'.occurredAt
  actorType : r.actorType = r'.actorType
  middle : idText r.actorID r.sessionID r.deviceID r.customerID ++ r.eventType =
    idText r'.actorID r'.sessionID r'.deviceID r'.customerID ++ r'.eventType
  result : r.result = r'.result
  sourceIP : ipText r.sourceIP = ipText r'.sourceIP
  requestID : r.requestID = r'.requestID
  metadata : unmarshalMap r.metadata = unmarshalMap r'.metadata

theorem Timestamptz.eq_of_scan {t : Timestamptz} {s : Timestamp} (h : t.scan = some s) :
    t = .finite s := by
  cases t with
  | finite => rw [some.inj h]
  | infinity | negInfinity => cases h

/-- Rows are hashed alike exactly if they agree. -/
theorem Row.text_eq_iff_agree {r r' : Row} {t t' : Timestamp} {a a' : Json.Value Json.Float64}
    (ht : r.occurredAt.scan = some t) (ha : unmarshalMap r.metadata = some a)
    (ht' : r'.occurredAt.scan = some t') (ha' : unmarshalMap r'.metadata = some a') :
    (r.fields t a).text = (r'.fields t' a').text ↔ r.Agree r' := by
  rw [ChainableFields.text_eq_iff (f := r.fields t a) rfl rfl (marshal_mem_objectText ha)
    (marshal_mem_objectText ha')]
  constructor
  · intro h
    refine { h with occurredAt := ?_, metadata := ?_ }
    · rw [Timestamptz.eq_of_scan ht, Timestamptz.eq_of_scan ht']
      exact congrArg _ h.occurredAt
    · rw [ha, ha']
      exact congrArg _ (Json.marshal_injective h.metadataJSON)
  · intro h
    refine ⟨?_, h.actorType, h.middle, h.result, h.sourceIP, h.requestID, ?_⟩
    · rw [h.occurredAt, ht'] at ht
      exact (some.inj ht).symm
    · rw [h.metadata, ha'] at ha
      exact congrArg Json.marshal (some.inj ha).symm

/-- A rewritten row that agrees with the row before, the loop passes in the same way. -/
theorem verifyRow_of_agree {p q : Progress} {r r' : Row} (hr : r.Chained) (hr' : r'.Chained)
    (hprev : r'.prevHash = r.prevHash) (hentry : r'.entryHash = r.entryHash) (hread' : r'.Readable)
    (hagr : r.Agree r') (h : verifyRow sha256 p r = .next q) : verifyRow sha256 p r' = .next q := by
  obtain ⟨⟨t, ht⟩, a, ha⟩ := readable_of_next hr h
  obtain ⟨⟨t', ht'⟩, a', ha'⟩ := hread'
  have hsame : computeEntryHash sha256 p.expectedPrev (r'.fields t' a') =
      computeEntryHash sha256 p.expectedPrev (r.fields t a) := by
    rw [computeEntryHash, computeEntryHash, (Row.text_eq_iff_agree ht ha ht' ha').2 hagr]
  rw [verifyRow_of_chained hr ht ha] at h
  split_ifs at h with hhash
  rw [verifyRow_of_chained hr' ht' ha', hprev, hentry, hsame, if_pos hhash]
  exact h

/-- A rewritten row that does not agree with the row before, the loop reports. -/
theorem verifyRow_of_not_agree (hinj : Function.Injective sha256) {p q : Progress} {r r' : Row}
    (hr : r.Chained) (hr' : r'.Chained) (hentry : r'.entryHash = r.entryHash) (hread' : r'.Readable)
    (hagr : ¬ r.Agree r') (h : verifyRow sha256 p r = .next q) :
    ∃ v, verifyRow sha256 p r' = .stop (.ok v) ∧ v.valid = false := by
  obtain ⟨⟨t, ht⟩, a, ha⟩ := readable_of_next hr h
  obtain ⟨⟨t', ht'⟩, a', ha'⟩ := hread'
  rw [verifyRow_of_chained hr ht ha] at h
  split_ifs at h with hhash
  have hne : ¬ (r'.prevHash.getD [] = p.expectedPrev ∧
      r'.entryHash.getD [] = computeEntryHash sha256 p.expectedPrev (r'.fields t' a')) := by
    rintro ⟨-, hhash'⟩
    rw [hentry, hhash.2] at hhash'
    exact hagr ((Row.text_eq_iff_agree ht ha ht' ha').1 (computeEntryHash_inj hinj hhash'))
  exact ⟨_, by rw [verifyRow_of_chained hr' ht' ha', if_neg hne], rfl⟩

/-! ### A log with three entries -/

namespace Sample

/-- A login, from before there were hashes. -/
def hashless : Row where
  id := 1
  occurredAt := .finite time
  actorType := .user
  actorID := none
  sessionID := none
  deviceID := none
  customerID := none
  eventType := ['l', 'o', 'g', 'i', 'n']
  result := .success
  sourceIP := some (.v4 10 0 0 1 (Fin.last 32))
  requestID := none
  metadata := ⟨.obj [], List.Pairwise.nil, trivial⟩
  prevHash := none
  entryHash := none

/-- A login chained to the entry before. -/
def chained (id : ℕ) (actorID : Option UUID) (prevHash : Option Bytes) : Row :=
  let r : Row := { hashless with id, actorID, prevHash }
  let hash := computeEntryHash tagged (prevHash.getD []) (r.fields time (.obj []))
  { r with entryHash := some hash }

def first : Row :=
  chained 1 (some 1) none

def second : Row :=
  chained 2 (some 2) first.entryHash

def third : Row :=
  chained 3 (some 3) second.entryHash

/-- Three logins, the second of which may be rewritten. -/
def log (actorID sessionID : Option UUID) (result : Result) : Log where
  rows := [first, { second with actorID, sessionID, result }, third]
  nextID := 4
  sorted := by simp [first, second, third, chained]
  fresh := by simp [first, second, third, chained]

theorem log_reportsValid : (log (some 2) none .success).ReportsValid tagged := by
  decide +kernel

theorem rewritten (actorID sessionID : Option UUID) (result : Result) :
    Rewritten (log (some 2) none .success) (log actorID sessionID result) second
      { second with actorID, sessionID, result } :=
  ⟨⟨[first], [third], rfl, rfl⟩, by simp [Row.Chained, second, chained, computeEntryHash, tagged],
    rfl, rfl, rfl⟩

end Sample

open Sample

/-! ### Tamper evidence -/

/-- A rewritten row in a valid log is reported exactly if it can still be read and differs from the
old one in something the hashed text shows. -/
theorem reportsInvalid_iff_of_rewritten (hinj : Function.Injective sha256) {log log' : Log}
    {r r' : Row} (hval : log.ReportsValid sha256) (h : Rewritten log log' r r') :
    log'.ReportsInvalid sha256 ↔ r'.Readable ∧ ¬ r.Agree r' := by
  obtain ⟨_, post, hrows, hrows'⟩ := h.rows
  obtain ⟨v, hv, hvv⟩ := hval
  have hr' : r'.Chained := by
    rw [Row.Chained, h.entryHash]
    exact h.chained
  -- The loop reaches the row in the same state in both logs.
  rw [Log.verifyChain, hrows] at hv
  obtain ⟨q, hexec, -⟩ := verifyRows_eq_valid hv hvv
  obtain ⟨p, hpre, hrest⟩ := (Transition.exec_append_eq_some_iff _).1 hexec
  obtain ⟨_, hstep, hpost⟩ := (Transition.exec_cons_eq_some_iff _).1 hrest
  have hrow := nextRow_eq_some_iff.1 hstep
  have hreach : log'.verifyChain sha256 = verifyRows sha256 p (r' :: post) := by
    rw [Log.verifyChain, hrows', verifyRows_append _ hpre]
  rw [Log.ReportsInvalid, hreach]
  by_cases hread : r'.Readable
  · by_cases hagr : r.Agree r'
    · have hsame := verifyRow_of_agree h.chained hr' h.prevHash h.entryHash hread hagr hrow
      rw [verifyRows_cons_next post hsame, ← List.append_nil post, verifyRows_append [] hpost]
      constructor
      · rintro ⟨w, hw, hinv⟩
        cases hw
        cases hinv
      · exact fun hneg ↦ absurd hagr hneg.2
    · obtain ⟨w, hstop, hinv⟩ :=
        verifyRow_of_not_agree hinj h.chained hr' h.entryHash hread hagr hrow
      rw [verifyRows_cons_stop post hstop]
      exact ⟨fun _ ↦ ⟨hread, hagr⟩, fun _ ↦ ⟨w, rfl, hinv⟩⟩
  · obtain ⟨e, herror⟩ := @error_of_not_readable sha256 p r' hr' hread
    rw [verifyRows_cons_stop post herror]
    constructor
    · rintro ⟨w, hw, -⟩
      cases hw
    · exact fun hpos ↦ absurd hpos.1 hread

/-- A result that was rewritten is reported. -/
theorem reportsInvalid_iff_of_rewritten_result :
    (log (some 2) none .failure).ReportsInvalid tagged :=
  (reportsInvalid_iff_of_rewritten tagged_injective log_reportsValid
    (rewritten (some 2) none .failure)).2
    ⟨⟨⟨time, rfl⟩, .obj [], rfl⟩, fun h ↦ by cases h.result⟩

/-- An id moved from one column to another is not reported, even without hash collisions. -/
theorem not_tamperEvident_moved_id :
    ¬ ∀ sha256 : Bytes → Bytes, Function.Injective sha256 → TamperEvident sha256 := by
  intro h
  have hmov : (log none (some 2) .success).ReportsValid tagged := by decide +kernel
  obtain ⟨v, hv, hval⟩ := hmov
  obtain ⟨w, hw, hinv⟩ := h tagged tagged_injective _ _ _ _ log_reportsValid
    (rewritten none (some 2) .success) (fun heq ↦ by cases congrArg Row.actorID heq)
  rw [hv] at hw
  cases hw
  rw [hval] at hinv
  cases hinv

end WartungsRemote.Audit
