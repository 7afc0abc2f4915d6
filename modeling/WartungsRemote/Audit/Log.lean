import WartungsRemote.Audit.Columns
import WartungsRemote.Json.Value
import WartungsRemote.Transition.Run

/-!
# The audit log and its hash chain

The table `audit_log` and the two functions of `audit.Logger` that maintain its hash chain: `Record`
appends a row with the hash of the row before and a hash over its own fields (`Log.record`), and
`VerifyChain` walks over all rows and recomputes the hashes (`Log.verifyChain`).

The hash function is a parameter. What goes into it is the concatenation of the hash before and the
texts of the fields (`ChainableFields.text`). **The two functions fill in the fields from different
places**: `Record` from the event it is given, `VerifyChain` from the columns it reads back. Of an
event's metadata the text that `json.Marshal` writes is given (as a syntax tree); the column keeps
its value, and `VerifyChain` decodes the value and writes it again.

`VerifyChain` stops with an error at a row that it cannot read: a timestamp `infinity` does not fit
into a `time.Time`, and metadata does not fit into a `map[string]any` if it is neither an object nor
`null`, or has a number beyond the range of `float64`, or is nested too deep. Errors of the database
itself are left out.
-/

namespace WartungsRemote.Audit

open Json (Tree Value Float64 StrChar)

abbrev Bytes : Type := List UInt8

/-! ### Columns -/

inductive ActorType
  | user | agent | system
  deriving DecidableEq

def ActorType.string : ActorType → Text
  | user => ['u', 's', 'e', 'r']
  | agent => ['a', 'g', 'e', 'n', 't']
  | system => ['s', 'y', 's', 't', 'e', 'm']

inductive Result
  | success | failure | denied
  deriving DecidableEq

def Result.string : Result → Text
  | success => ['s', 'u', 'c', 'c', 'e', 's', 's']
  | failure => ['f', 'a', 'i', 'l', 'u', 'r', 'e']
  | denied => ['d', 'e', 'n', 'i', 'e', 'd']

/-- A value of the type `timestamptz`. -/
inductive Timestamptz
  | finite (t : Timestamp)
  | infinity
  | negInfinity
  deriving DecidableEq

/-- Scan into a `time.Time`. -/
def Timestamptz.scan : Timestamptz → Option Timestamp
  | finite t => some t
  | infinity => none
  | negInfinity => none

/-- A value of the type `jsonb`. -/
abbrev Jsonb : Type := { v : Value ℚ // v.Sorted }

/-- The value of a JSON text, if the column accepts it. -/
def toJsonb (t : Tree) : Option Jsonb :=
  t.toValue.attach.map fun v ↦ ⟨v.1, t.sorted_of_toValue v.1 v.2⟩

/-- A row of `audit_log`. -/
structure Row where
  id : ℕ
  occurredAt : Timestamptz
  actorType : ActorType
  actorID : Option UUID
  sessionID : Option UUID
  deviceID : Option UUID
  customerID : Option UUID
  eventType : Text
  result : Result
  sourceIP : Option Inet
  requestID : Option UUID
  metadata : Jsonb
  prevHash : Option Bytes
  entryHash : Option Bytes

/-- The table, in the order of the ids, and the next id of its sequence. -/
structure Log where
  rows : List Row
  nextID : ℕ
  sorted : (rows.map Row.id).Pairwise (· < ·)
  fresh : ∀ r ∈ rows, r.id < nextID

/-- Insert a row, with the next id. -/
def Log.insert (log : Log) (row : ℕ → Row) (hid : ∀ id, (row id).id = id) : Log where
  rows := log.rows ++ [row log.nextID]
  nextID := log.nextID + 1
  sorted := by
    simp only [List.map_append, List.map_cons, List.map_nil, List.pairwise_append]
    refine ⟨log.sorted, List.pairwise_singleton _ _, fun i hi j hj ↦ ?_⟩
    obtain ⟨s, hs, rfl⟩ := List.mem_map.1 hi
    obtain rfl := List.mem_singleton.1 hj
    exact (log.fresh s hs).trans_eq (hid _).symm
  fresh := fun s hs ↦ by
    obtain hold | rfl := List.mem_snoc.1 hs
    · exact (log.fresh s hold).trans (Nat.lt_succ_self _)
    · exact (hid _).trans_lt (Nat.lt_succ_self _)

@[simp]
theorem Log.rows_insert (log : Log) (row : ℕ → Row) (hid : ∀ id, (row id).id = id) :
    (log.insert row hid).rows = log.rows ++ [row log.nextID] := rfl

/-! ### The hash of an entry -/

/-- What goes into the hash of an entry. -/
structure ChainableFields where
  occurredAt : Timestamp
  actorType : ActorType
  actorID : Option UUID
  sessionID : Option UUID
  deviceID : Option UUID
  customerID : Option UUID
  eventType : Text
  result : Result
  sourceIP : Text
  requestID : Option UUID
  metadataJSON : Text

def writeUUIDPtr (id : Option UUID) : Text :=
  id.elim [] uuidString

/-- The four ids before the event type, as they are written. -/
def idText (actorID sessionID deviceID customerID : Option UUID) : Text :=
  writeUUIDPtr actorID ++ (writeUUIDPtr sessionID ++ (writeUUIDPtr deviceID ++
    writeUUIDPtr customerID))

/-- The fields, in the order in which they are written into the hash. -/
def ChainableFields.text (f : ChainableFields) : Text :=
  f.occurredAt.rfc3339Nano ++ (f.actorType.string ++
    ((idText f.actorID f.sessionID f.deviceID f.customerID ++ f.eventType) ++
      (f.result.string ++ (f.sourceIP ++ (writeUUIDPtr f.requestID ++ f.metadataJSON)))))

def computeEntryHash (sha256 : Bytes → Bytes) (prevHash : Bytes) (f : ChainableFields) : Bytes :=
  sha256 (prevHash ++ Text.utf8 f.text)

/-! ### Record -/

/-- An event. Its metadata is what `json.Marshal` writes of it; `none` is the nil map. -/
structure Event where
  actorType : ActorType
  actorID : Option UUID
  sessionID : Option UUID
  deviceID : Option UUID
  customerID : Option UUID
  eventType : Text
  result : Result
  sourceIP : Text
  requestID : Option UUID
  metadata : Option (List (List StrChar × Tree))

/-- The metadata, with an empty map for a nil one. -/
def Event.meta (ev : Event) : Tree :=
  .obj (ev.metadata.getD [])

/-- The fields that `Record` hashes. -/
def Event.fields (ev : Event) (occurredAt : Timestamp) : ChainableFields where
  occurredAt := occurredAt
  actorType := ev.actorType
  actorID := ev.actorID
  sessionID := ev.sessionID
  deviceID := ev.deviceID
  customerID := ev.customerID
  eventType := ev.eventType
  result := ev.result
  sourceIP := ev.sourceIP
  requestID := ev.requestID
  metadataJSON := ev.meta.render

/-- The column `source_ip` for the text of an event; the empty text is stored as `NULL`. -/
def storeIP (inet : Text → Option Inet) (sourceIP : Text) : Option (Option Inet) :=
  if sourceIP = [] then some none else (inet sourceIP).map some

section Record

variable (sha256 : Bytes → Bytes) (inet : Text → Option Inet)

/-- The row that `Record` inserts. -/
def Event.row (ev : Event) (occurredAt : Timestamp) (prevHash : Option Bytes)
    (sourceIP : Option Inet) (metadata : Jsonb) (id : ℕ) : Row where
  id := id
  occurredAt := .finite occurredAt
  actorType := ev.actorType
  actorID := ev.actorID
  sessionID := ev.sessionID
  deviceID := ev.deviceID
  customerID := ev.customerID
  eventType := ev.eventType
  result := ev.result
  sourceIP := sourceIP
  requestID := ev.requestID
  metadata := metadata
  prevHash := prevHash
  entryHash := some (computeEntryHash sha256 (prevHash.getD []) (ev.fields occurredAt))

theorem Event.id_row (ev : Event) (occurredAt : Timestamp) (prevHash : Option Bytes)
    (sourceIP : Option Inet) (metadata : Jsonb) (id : ℕ) :
    (ev.row sha256 occurredAt prevHash sourceIP metadata id).id = id := rfl

/-- `Record` at a time; undefined if a column rejects its value. -/
def Log.record (log : Log) (occurredAt : Timestamp) (ev : Event) : Option Log := do
  let sourceIP ← storeIP inet ev.sourceIP
  let metadata ← toJsonb ev.meta
  let prevHash := log.rows.getLast?.bind Row.entryHash
  some (log.insert (ev.row sha256 occurredAt prevHash sourceIP metadata)
    (ev.id_row sha256 occurredAt prevHash sourceIP metadata))

end Record

/-! ### VerifyChain -/

structure ChainVerification where
  valid : Bool
  entriesCheck : ℕ
  entriesPreChain : ℕ
  brokenAtID : Option ℕ
  deriving DecidableEq

/-- The errors of `VerifyChain`. -/
inductive VerifyError
  /-- `audit: scan for verify`. -/
  | scan
  /-- `audit: unmarshal stored metadata for id`, and the id. -/
  | unmarshal (id : ℕ)
  deriving DecidableEq

/-- `json.Unmarshal` into a `map[string]any`. -/
def unmarshalMap (m : Jsonb) : Option (Value Float64) :=
  match m.1 with
  | .null => Json.decode m.1
  | .obj _ => Json.decode m.1
  | _ => none

/-- The text of an address, as `VerifyChain` reads it; `NULL` is the empty text. -/
def ipText (ip : Option Inet) : Text :=
  ip.elim [] Inet.host

/-- The fields that `VerifyChain` hashes. -/
def Row.fields (r : Row) (occurredAt : Timestamp) (metaMap : Value Float64) : ChainableFields where
  occurredAt := occurredAt
  actorType := r.actorType
  actorID := r.actorID
  sessionID := r.sessionID
  deviceID := r.deviceID
  customerID := r.customerID
  eventType := r.eventType
  result := r.result
  sourceIP := ipText r.sourceIP
  requestID := r.requestID
  metadataJSON := Json.marshal metaMap

/-- The variables of the loop. -/
structure Progress where
  expectedPrev : Bytes
  count : ℕ
  preChain : ℕ
  chainStarted : Bool

/-- What the loop does with a row: go on, or return. -/
inductive Step
  | next (p : Progress)
  | stop (res : Except VerifyError ChainVerification)

section VerifyChain

variable (sha256 : Bytes → Bytes)

/-- The loop of `VerifyChain` at one row. A missing hash is read as an empty one. -/
def verifyRow (p : Progress) (r : Row) : Step :=
  match r.occurredAt.scan with
  | none => .stop (.error .scan)
  | some t =>
    if p.chainStarted = false ∧ r.entryHash.getD [] = [] then
      .next { p with preChain := p.preChain + 1 }
    else match unmarshalMap r.metadata with
      | none => .stop (.error (.unmarshal r.id))
      | some metaMap =>
        if r.prevHash.getD [] = p.expectedPrev ∧
            r.entryHash.getD [] = computeEntryHash sha256 p.expectedPrev (r.fields t metaMap) then
          .next { expectedPrev := r.entryHash.getD [], count := p.count + 1, preChain := p.preChain,
                  chainStarted := true }
        else
          .stop (.ok { valid := false, entriesCheck := p.count + 1, entriesPreChain := p.preChain,
                       brokenAtID := some r.id })

/-- The loop of `VerifyChain`. -/
def verifyRows : Progress → List Row → Except VerifyError ChainVerification
  | p, [] => .ok { valid := true, entriesCheck := p.count, entriesPreChain := p.preChain,
                   brokenAtID := none }
  | p, r :: rs =>
    match verifyRow sha256 p r with
    | .next q => verifyRows q rs
    | .stop res => res

/-- The variables before the loop. -/
def Progress.init : Progress where
  expectedPrev := []
  count := 0
  preChain := 0
  chainStarted := false

def Log.verifyChain (log : Log) : Except VerifyError ChainVerification :=
  verifyRows sha256 .init log.rows

end VerifyChain

end WartungsRemote.Audit
