import WartungsRemote.Enrollment.Token
import WartungsRemote.Transition.Run

/-!
# Concurrent enrollment

`Consume` is a transaction of six statements, `Revoke` and `RevokeAllOutstanding` are single
statements that go over the rows one by one, and `Create` inserts one row. Any number of them run at
the same time. A label is one statement, or one row of a statement that writes several; every
transaction can be rolled back at any time, because a statement failed, a check did not pass or the
connection was lost. The connection can also be lost when a commit has taken effect, before the
caller learns of it.

What a transaction writes is seen by others when it is **committed**. `SELECT ... FOR UPDATE` and
`UPDATE` wait for a row that another transaction has **locked**, and then look at the row as it was
committed in the meantime. An `INSERT` waits for a transaction that has inserted the same
`install_id`, and fails if the value is committed. `now()` is the start of the transaction, and
generated ids do not repeat.

`history` remembers the commits that had an effect on a token, in their order; no statement reads
it.
-/

namespace WartungsRemote.Enrollment

open Option
open Transition (exec)

abbrev TxID : Type := ℕ

/-- The hash of the tokens, and how an install id is printed. -/
structure Config where
  sha256 : List UInt8 → List UInt8
  uuidString : UUID → String

/-- How far a transaction has come. `start` is its `now()`. -/
inductive Tx
  /-- `Consume` has begun, with the hash of the token. -/
  | begun (start : ℕ) (req : AgentEnrollRequest) (tokenHash : List UInt8)
  /-- The token is locked, and can be used. -/
  | locked (start : ℕ) (req : AgentEnrollRequest) (tok : Token)
  /-- No device has the install id. -/
  | unclaimed (start : ℕ) (req : AgentEnrollRequest) (tok : Token)
  /-- The device is inserted. -/
  | inserted (start : ℕ) (req : AgentEnrollRequest) (tok : Token) (dev : Device)
  /-- The credential is inserted. -/
  | credentialed (start : ℕ) (req : AgentEnrollRequest) (tok : Token) (dev : Device)
      (cred : Credential)
  /-- The token is updated. -/
  | consumed (start : ℕ) (req : AgentEnrollRequest) (tok : Token) (dev : Device) (cred : Credential)
  /-- `Revoke` or `RevokeAllOutstanding`, with the rows found and not looked at again, and those
  updated. -/
  | revoking (start : ℕ) (todo done : List UUID)

/-- A commit had an effect on a token. -/
inductive Event
  | consumed (tokenID : UUID)
  | revoked (tokenID : UUID)
  deriving DecidableEq

def Event.tokenID : Event → UUID
  | .consumed id => id
  | .revoked id => id

structure State where
  now : ℕ
  db : Tables
  /-- The ids generated so far. -/
  issued : List UUID
  /-- The locked rows of `enrollment_tokens`. -/
  locks : UUID → Option TxID
  /-- The values of `install_id` inserted and not committed. -/
  claims : UUID → Option TxID
  txs : TxID → Option Tx
  history : List Event

def State.init : State where
  now := 0
  db := .empty
  issued := []
  locks _ := none
  claims _ := none
  txs _ := none
  history := []

inductive Label
  | tick (now : ℕ)
  /-- `Create`, with its random bytes, the id of the row and the clock that it has read. -/
  | create (p : CreateParams) (raw : List UInt8) (id : UUID) (clock : ℕ)
  | begin (tid : TxID) (req : AgentEnrollRequest)
  | lock (tid : TxID)
  | check (tid : TxID)
  | insertDevice (tid : TxID) (id : UUID)
  | insertCredential (tid : TxID)
  | update (tid : TxID)
  | revoke (tid : TxID) (id : UUID)
  | revokeAll (tid : TxID)
  /-- A revocation looks at one of its rows again. -/
  | revokeRow (tid : TxID) (id : UUID)
  /-- A commit takes effect, and the caller learns of it (`acked`) or gets an error. -/
  | commit (tid : TxID) (acked : Bool)
  | rollback (tid : TxID)

namespace State

variable (cfg : Config) (s : State)

def setTx (tid : TxID) (tx : Option Tx) : State :=
  { s with txs := Function.update s.txs tid tx }

/-- The transaction ends, and its locks are released. -/
def finish (tid : TxID) : State :=
  { s.setTx tid none with
    locks := fun id ↦ if s.locks id = some tid then none else s.locks id
    claims := fun id ↦ if s.claims id = some tid then none else s.claims id }

/-- The ids of the rows that a revocation finds. -/
def outstanding : List UUID :=
  (s.db.tokens.filter fun tok ↦ tok.Outstanding).map Token.id

/-- `INSERT INTO enrollment_tokens`. -/
def create (p : CreateParams) (raw : List UInt8) (id : UUID) (clock : ℕ) : Option State :=
  if id ∉ s.issued ∧ clock ≤ s.now ∧ ∀ tok ∈ s.db.tokens, tok.tokenHash ≠ cfg.sha256 raw then
    some { s with
      db := { s.db with tokens := s.db.tokens ++ [p.row id (cfg.sha256 raw) clock s.now] }
      issued := id :: s.issued }
  else none

/-- `Consume` begins, after its checks on the request. -/
def begin (tid : TxID) (req : AgentEnrollRequest) : Option State :=
  if s.txs tid = none ∧ req.publicKey.length = 32 then
    (hashToken cfg.sha256 req.token).map fun tokenHash ↦
      s.setTx tid (some (.begun s.now req tokenHash))
  else none

/-- `SELECT ... FOR UPDATE`, and the check of the row. -/
def lock (tid : TxID) : Option State :=
  match s.txs tid with
  | some (.begun start req tokenHash) =>
    match s.db.tokens.find? fun tok ↦ tok.tokenHash = tokenHash with
    | some tok =>
      if s.locks tok.id = none ∧ tok.Usable s.now then
        some { s.setTx tid (some (.locked start req tok)) with
               locks := Function.update s.locks tok.id (some tid) }
      else none
    | none => none
  | _ => none

/-- `SELECT id FROM devices WHERE install_id = $1` finds nothing. -/
def check (tid : TxID) : Option State :=
  match s.txs tid with
  | some (.locked start req tok) =>
    if ∀ d ∈ s.db.devices, d.installID ≠ req.installID then
      some (s.setTx tid (some (.unclaimed start req tok)))
    else none
  | _ => none

/-- `INSERT INTO devices`. -/
def insertDevice (tid : TxID) (id : UUID) : Option State :=
  match s.txs tid with
  | some (.unclaimed start req tok) =>
    if id ∉ s.issued ∧ s.claims req.installID = none ∧
        ∀ d ∈ s.db.devices, d.installID ≠ req.installID then
      some { s.setTx tid (some (.inserted start req tok (newDevice cfg.uuidString tok req id))) with
             issued := id :: s.issued
             claims := Function.update s.claims req.installID (some tid) }
    else none
  | _ => none

/-- `INSERT INTO device_credentials`. -/
def insertCredential (tid : TxID) : Option State :=
  match s.txs tid with
  | some (.inserted start req tok dev) =>
    some (s.setTx tid (some (.credentialed start req tok dev (newCredential req dev.id))))
  | _ => none

/-- The `UPDATE` of `Consume`. It fails if the column `use_count`, an `integer`, overflows. -/
def update (tid : TxID) : Option State :=
  match s.txs tid with
  | some (.credentialed start req tok dev cred) =>
    if tok.isReusable = true → tok.useCount < 2147483647 then
      some (s.setTx tid (some (.consumed start req tok dev cred)))
    else none
  | _ => none

/-- A revocation finds its rows. -/
def beginRevoke (tid : TxID) (found : List UUID) : Option State :=
  if s.txs tid = none then some (s.setTx tid (some (.revoking s.now found []))) else none

/-- A revocation locks one of its rows and looks again: it updates a row still outstanding. -/
def revokeRow (tid : TxID) (id : UUID) : Option State :=
  match s.txs tid with
  | some (.revoking start todo done) =>
    if id ∈ todo ∧ s.locks id = none then
      if id ∈ s.outstanding then
        some { s.setTx tid (some (.revoking start (todo.erase id) (id :: done))) with
               locks := Function.update s.locks id (some tid) }
      else some (s.setTx tid (some (.revoking start (todo.erase id) done)))
    else none
  | _ => none

/-- What a transaction has written becomes visible. -/
def commit (tid : TxID) : Option State :=
  match s.txs tid with
  | some (.consumed start _ tok dev cred) =>
    some { s.finish tid with
      db :=
        { tokens := updateToken s.db.tokens tok.id (Token.consume start dev.id)
          devices := s.db.devices ++ [dev]
          credentials := s.db.credentials ++ [cred] }
      history := s.history ++ [.consumed tok.id] }
  | some (.revoking start [] done) =>
    some { s.finish tid with
      db := { s.db with
        tokens := s.db.tokens.map fun tok ↦ if tok.id ∈ done then tok.revoke start else tok }
      history := s.history ++ done.map .revoked }
  | _ => none

def rollback (tid : TxID) : Option State :=
  if s.txs tid = none then none else some (s.finish tid)

end State

/-- One statement of one transaction. -/
def step (cfg : Config) (s : State) : Label → Option State
  | .tick now => if s.now ≤ now then some { s with now := now } else none
  | .create p raw id clock => s.create cfg p raw id clock
  | .begin tid req => s.begin cfg tid req
  | .lock tid => s.lock tid
  | .check tid => s.check tid
  | .insertDevice tid id => s.insertDevice cfg tid id
  | .insertCredential tid => s.insertCredential tid
  | .update tid => s.update tid
  | .revoke tid id => s.beginRevoke tid (s.outstanding.filter (· = id))
  | .revokeAll tid => s.beginRevoke tid s.outstanding
  | .revokeRow tid id => s.revokeRow tid id
  | .commit tid _ => s.commit tid
  | .rollback tid => s.rollback tid

/-! ### What a statement does -/

variable {cfg : Config} {s t : State} {l : Label}

/-- What a statement finds, and what it does. -/
inductive Step (cfg : Config) (s : State) : Label → State → Prop
  | tick {now} : Step cfg s (.tick now) { s with now }
  | create {p raw id clock} (fresh : id ∉ s.issued) :
      Step cfg s (.create p raw id clock)
        { s with
          db := { s.db with tokens := s.db.tokens ++ [p.row id (cfg.sha256 raw) clock s.now] }
          issued := id :: s.issued }
  | begin {tid req tokenHash} :
      Step cfg s (.begin tid req) (s.setTx tid (some (.begun s.now req tokenHash)))
  | lock {tid start req tok} (mem : tok ∈ s.db.tokens) (free : s.locks tok.id = none)
      (usable : tok.Usable s.now) :
      Step cfg s (.lock tid)
        { s.setTx tid (some (.locked start req tok)) with
          locks := Function.update s.locks tok.id (some tid) }
  | check {tid start req tok} (tx : s.txs tid = some (.locked start req tok)) :
      Step cfg s (.check tid) (s.setTx tid (some (.unclaimed start req tok)))
  | insertDevice {tid id start req tok} (tx : s.txs tid = some (.unclaimed start req tok))
      (fresh : id ∉ s.issued) :
      Step cfg s (.insertDevice tid id)
        { s.setTx tid (some (.inserted start req tok (newDevice cfg.uuidString tok req id))) with
          issued := id :: s.issued
          claims := Function.update s.claims req.installID (some tid) }
  | insertCredential {tid start req tok dev} (tx : s.txs tid = some (.inserted start req tok dev)) :
      Step cfg s (.insertCredential tid)
        (s.setTx tid (some (.credentialed start req tok dev (newCredential req dev.id))))
  | update {tid start req tok dev cred}
      (tx : s.txs tid = some (.credentialed start req tok dev cred)) :
      Step cfg s (.update tid) (s.setTx tid (some (.consumed start req tok dev cred)))
  | revoke {l tid found} (label : l = .revokeAll tid ∨ ∃ id, l = .revoke tid id) :
      Step cfg s l (s.setTx tid (some (.revoking s.now found [])))
  | revokeRow {tid id start todo done} (tx : s.txs tid = some (.revoking start todo done))
      (free : s.locks id = none) (outstanding : id ∈ s.outstanding) :
      Step cfg s (.revokeRow tid id)
        { s.setTx tid (some (.revoking start (todo.erase id) (id :: done))) with
          locks := Function.update s.locks id (some tid) }
  /-- The row is not outstanding any more. -/
  | skipRow {tid id start todo done} (tx : s.txs tid = some (.revoking start todo done)) :
      Step cfg s (.revokeRow tid id) (s.setTx tid (some (.revoking start (todo.erase id) done)))
  | consumed {tid acked start req tok dev cred}
      (tx : s.txs tid = some (.consumed start req tok dev cred)) : Step cfg s (.commit tid acked)
        { s.finish tid with
          db :=
            { tokens := updateToken s.db.tokens tok.id (Token.consume start dev.id)
              devices := s.db.devices ++ [dev]
              credentials := s.db.credentials ++ [cred] }
          history := s.history ++ [.consumed tok.id] }
  | revoked {tid acked start done} (tx : s.txs tid = some (.revoking start [] done)) :
      Step cfg s (.commit tid acked)
        { s.finish tid with
          db := { s.db with
            tokens := s.db.tokens.map fun tok ↦ if tok.id ∈ done then tok.revoke start else tok }
          history := s.history ++ done.map .revoked }
  | rollback {tid} : Step cfg s (.rollback tid) (s.finish tid)

theorem step_cases (h : step cfg s l = some t) : Step cfg s l t := by
  cases l with
  | tick =>
    simp only [step] at h
    split_ifs at h
    exact some.inj h ▸ .tick
  | create =>
    simp only [step, State.create] at h
    split_ifs at h with hgrd
    exact some.inj h ▸ .create hgrd.1
  | begin =>
    simp only [step, State.begin] at h
    split_ifs at h
    obtain ⟨_, -, rfl⟩ := map_eq_some_iff.1 h
    exact .begin
  | lock =>
    simp only [step, State.lock] at h
    split at h
    · split at h
      next hfind =>
        split_ifs at h with hgrd
        exact some.inj h ▸ .lock (List.mem_of_find?_eq_some hfind) hgrd.1 hgrd.2
      · cases h
    · cases h
  | check | update =>
    simp only [step, State.check, State.update] at h
    split at h
    next htx =>
      split_ifs at h
      cases h
      constructor
      exact htx
    · cases h
  | insertDevice =>
    simp only [step, State.insertDevice] at h
    split at h
    next htx =>
      split_ifs at h with hgrd
      exact some.inj h ▸ .insertDevice htx hgrd.1
    · cases h
  | insertCredential =>
    simp only [step, State.insertCredential] at h
    split at h
    next htx => exact some.inj h ▸ .insertCredential htx
    · cases h
  | revoke _ id =>
    simp only [step, State.beginRevoke] at h
    split_ifs at h
    exact some.inj h ▸ .revoke (.inr ⟨id, rfl⟩)
  | revokeAll =>
    simp only [step, State.beginRevoke] at h
    split_ifs at h
    exact some.inj h ▸ .revoke (.inl rfl)
  | revokeRow =>
    simp only [step, State.revokeRow] at h
    split at h
    next htx =>
      split_ifs at h with hgrd hout
      · exact some.inj h ▸ .revokeRow htx hgrd.2 hout
      · exact some.inj h ▸ .skipRow htx
    · cases h
  | commit =>
    simp only [step, State.commit] at h
    split at h
    next htx => exact some.inj h ▸ .consumed htx
    next htx => exact some.inj h ▸ .revoked htx
    · cases h
  | rollback =>
    simp only [step, State.rollback] at h
    split_ifs at h
    exact some.inj h ▸ .rollback

end WartungsRemote.Enrollment
