import WartungsRemote.Codec.Base64
import WartungsRemote.Device.Registry
import WartungsRemote.Transition.Run

/-!
# Tickets of tunnels

`OpenTunnel` inserts a row into `tunnel_sessions` and returns a ticket, whose hash is in the row. A
helper redeems the ticket: `ConsumeTicket` is a transaction that **locks** the row, looks at its
state and at the clock, writes the state `active` and commits. `Close` and
`InvalidateAllOutstanding` are single statements that write the state of the rows they find, and the
server may be restarted at any time. All of them run concurrently.

The database is modelled as in `Enrollment.Transactions`: what a transaction writes is seen by
others when it is **committed**, and `SELECT ... FOR UPDATE` and `UPDATE` wait for a row that
another transaction has locked. `history` remembers the commits.
-/

namespace WartungsRemote.RemoteSession.Tunnel

open Transition Option

abbrev TxID : Type := ℕ

/-- The hash of the tickets. -/
structure Config where
  sha256 : List UInt8 → List UInt8

inductive TargetType
  | sshLocal
  | rdpLocal
  deriving DecidableEq

/-- The column `state`. -/
inductive TunnelState
  | requested
  | prepared
  | ticketIssued
  | connecting
  | active
  | closed
  | expired
  | denied
  | failed
  | interrupted
  deriving DecidableEq

structure TunnelSession where
  id : UUID
  remoteSessionID : UUID
  deviceID : UUID
  userID : UUID
  targetType : TargetType
  state : TunnelState
  expiresAt : ℕ
  deriving DecidableEq

/-- A row of `tunnel_sessions`. -/
structure Row extends TunnelSession where
  helperTicketHash : List UInt8
  connectedAt : Option ℕ
  closedAt : Option ℕ
  deriving DecidableEq

/-! ### The text of a ticket -/

def ticketPrefix : Text :=
  ['w', 'r', '_', 't', 'u', 'n', 'n', 'e', 'l', '_']

/-- The text that `generateTicket` makes of random bytes. -/
def plaintext (raw : List UInt8) : Text :=
  ticketPrefix ++ Base64.encodeToString Base64.urlAlphabet raw

def hashTicket (sha256 : List UInt8 → List UInt8) (ticket : Text) : Option (List UInt8) :=
  if ticket.length ≤ ticketPrefix.length ∨ ticket.take ticketPrefix.length ≠ ticketPrefix then none
  else (Base64.decodeString Base64.urlAlphabet (ticket.drop ticketPrefix.length)).map sha256

/-! ### What is written into a row -/

/-- The `UPDATE` of `ConsumeTicket`. -/
def Row.redeem (now : ℕ) (row : Row) : Row :=
  { row with state := .active, connectedAt := some now }

/-- A statement that writes rows without looking at them before. -/
inductive Write
  | close (id : UUID) (state : TunnelState)
  | invalidate

/-- The `WHERE` of the statement. -/
def Write.Matches (row : Row) : Write → Prop
  | close id _ => row.id = id
  | invalidate => row.state = .ticketIssued

instance (row : Row) (w : Write) : Decidable (w.Matches row) := by
  cases w <;> unfold Write.Matches <;> infer_instance

/-- The state that the statement writes. -/
def Write.state : Write → TunnelState
  | close _ state => state
  | invalidate => .expired

/-- The `SET` of the statement. -/
def Write.set (w : Write) (now : ℕ) (row : Row) : Row :=
  { row with state := w.state, closedAt := some now }

/-! ### The statements -/

/-- How far a transaction has come. `start` is its `now()`. -/
inductive Tx
  /-- `ConsumeTicket` has begun, with the hash of the ticket. -/
  | begun (start : ℕ) (ticket : Text) (hash : List UInt8)
  | loaded (start : ℕ) (ticket : Text) (row : Row)
  /-- The row can be redeemed, by the clock of that moment. -/
  | checked (start : ℕ) (ticket : Text) (row : Row) (clock : ℕ)
  | updated (start : ℕ) (ticket : Text) (row : Row) (clock : ℕ)
  /-- A statement that has found some rows: those that it has not looked at again, and those that it
  has written. -/
  | writing (start : ℕ) (w : Write) (found todo done : List UUID)

/-- The database has got the last statement of the transaction, or gets only the commit. -/
def Tx.last : Tx → Bool
  | updated _ _ _ _ => true
  | writing _ _ _ _ _ => true
  | _ => false

/-- `ConsumeTicket` has returned a session. -/
structure Redemption where
  ticket : Text
  session : TunnelSession
  /-- The clock that the ticket was checked by. -/
  checkedAt : ℕ
  /-- The time of the commit. -/
  committedAt : ℕ
  deriving DecidableEq

/-- A commit. -/
inductive Event
  | redeemed (r : Redemption)
  /-- `Close` has written the row. -/
  | closed (id : UUID)
  /-- `InvalidateAllOutstanding` has found the row with a ticket. -/
  | invalidated (id : UUID)
  deriving DecidableEq

def Event.rowID : Event → UUID
  | redeemed r => r.session.id
  | closed id => id
  | invalidated id => id

structure State where
  now : ℕ
  rows : List Row
  /-- The ids generated so far. -/
  issued : List UUID
  /-- The locked rows. -/
  locks : UUID → Option TxID
  txs : TxID → Option Tx
  history : List Event

def State.init : State where
  now := 0
  rows := []
  issued := []
  locks _ := none
  txs _ := none
  history := []

inductive Label
  | tick (now : ℕ)
  /-- `TunnelRepo.create`, with the random bytes of the ticket. -/
  | create (id remoteSessionID deviceID userID : UUID) (targetType : TargetType) (raw : List UInt8)
      (expiresAt : ℕ)
  | begin (tid : TxID) (ticket : Text)
  | load (tid : TxID)
  | check (tid : TxID)
  | update (tid : TxID)
  | write (tid : TxID) (w : Write)
  /-- A statement looks at one of its rows again. -/
  | writeRow (tid : TxID) (id : UUID)
  | commit (tid : TxID)
  | rollback (tid : TxID)
  /-- The server is restarted. Some transactions had sent their last statement. -/
  | restart (sent : List TxID)

namespace State

variable (cfg : Config) (s : State)

def setTx (tid : TxID) (tx : Tx) : State :=
  { s with txs := Function.update s.txs tid (some tx) }

/-- Some transactions end, and their locks are released. -/
def finish (ends : TxID → Bool) : State :=
  { s with
    locks := fun id ↦ (s.locks id).filter fun tid ↦ !ends tid
    txs := fun tid ↦ if ends tid then none else s.txs tid }

/-- `INSERT INTO tunnel_sessions`. The ids do not repeat, and the hashes of the tickets are
different. -/
def create (row : Row) : Option State :=
  if row.id ∉ s.issued ∧ ∀ other ∈ s.rows, other.helperTicketHash ≠ row.helperTicketHash then
    some { s with rows := s.rows ++ [row], issued := row.id :: s.issued }
  else none

/-- `ConsumeTicket` begins, if the ticket can be hashed. -/
def begin (tid : TxID) (ticket : Text) : Option State :=
  if s.txs tid = none then
    (hashTicket cfg.sha256 ticket).map fun hash ↦ s.setTx tid (.begun s.now ticket hash)
  else none

/-- `SELECT ... FOR UPDATE`. -/
def load (tid : TxID) : Option State :=
  match s.txs tid with
  | some (.begun start ticket hash) =>
    match s.rows.find? fun row ↦ row.helperTicketHash = hash with
    | some row =>
      if s.locks row.id = none then
        some { s.setTx tid (.loaded start ticket row) with
               locks := Function.update s.locks row.id (some tid) }
      else none
    | none => none
  | _ => none

/-- The checks of the row. -/
def check (tid : TxID) : Option State :=
  match s.txs tid with
  | some (.loaded start ticket row) =>
    if row.state ≠ .ticketIssued ∨ s.now > row.expiresAt then none
    else some (s.setTx tid (.checked start ticket row s.now))
  | _ => none

/-- The `UPDATE` of `ConsumeTicket`. -/
def update (tid : TxID) : Option State :=
  match s.txs tid with
  | some (.checked start ticket row clock) => some (s.setTx tid (.updated start ticket row clock))
  | _ => none

/-- The ids of the rows that a statement finds. -/
def found (w : Write) : List UUID :=
  (s.rows.filter fun row ↦ w.Matches row).map fun row ↦ row.id

/-- A statement finds its rows. No caller of `Close` gives a ticket back: the only one writes
`closed`. -/
def write (tid : TxID) (w : Write) : Option State :=
  if s.txs tid = none ∧ w.state ≠ .ticketIssued then
    some (s.setTx tid (.writing s.now w (s.found w) (s.found w) []))
  else none

/-- A statement locks one of its rows and looks again: it writes a row that still matches. -/
def writeRow (tid : TxID) (id : UUID) : Option State :=
  match s.txs tid with
  | some (.writing start w found todo done) =>
    if id ∈ todo ∧ s.locks id = none then
      if id ∈ s.found w then
        some { s.setTx tid (.writing start w found (todo.erase id) (id :: done)) with
               locks := Function.update s.locks id (some tid) }
      else some (s.setTx tid (.writing start w found (todo.erase id) done))
    else none
  | _ => none

/-- The rows with the given ids are written. -/
def updateRows (ids : List UUID) (f : Row → Row) : List Row :=
  s.rows.map fun row ↦ if row.id ∈ ids then f row else row

/-- What `ConsumeTicket` returns. -/
def redemption (ticket : Text) (row : Row) (clock : ℕ) : Redemption where
  ticket := ticket
  session := { row.toTunnelSession with state := .active }
  checkedAt := clock
  committedAt := s.now

/-- What a statement has done. -/
def written (w : Write) (found done : List UUID) : List Event :=
  match w with
  | .close _ _ => done.map .closed
  | .invalidate => found.map .invalidated

/-- What a transaction has written becomes visible. -/
def commit (tid : TxID) : Option State :=
  match s.txs tid with
  | some (.updated start ticket row clock) =>
    some { s.finish (· == tid) with
      rows := s.updateRows [row.id] (Row.redeem start)
      history := s.history ++ [.redeemed (s.redemption ticket row clock)] }
  | some (.writing start w found [] done) =>
    some { s.finish (· == tid) with
      rows := s.updateRows done (w.set start)
      history := s.history ++ written w found done }
  | _ => none

/-- Every transaction ends; those whose last statement the database has may still go on. -/
def restart (sent : List TxID) : Option State :=
  if ∀ tid ∈ sent, (s.txs tid).any Tx.last = true then some (s.finish fun tid ↦ tid ∉ sent)
  else none

end State

/-- The row that `TunnelRepo.create` inserts. -/
def newRow (cfg : Config) (id remoteSessionID deviceID userID : UUID) (targetType : TargetType)
    (raw : List UInt8) (expiresAt : ℕ) : Row where
  id := id
  remoteSessionID := remoteSessionID
  deviceID := deviceID
  userID := userID
  targetType := targetType
  state := .ticketIssued
  expiresAt := expiresAt
  helperTicketHash := cfg.sha256 raw
  connectedAt := none
  closedAt := none

/-- One statement of one transaction. -/
def step (cfg : Config) (s : State) : Label → Option State
  | .tick now => if s.now ≤ now then some { s with now := now } else none
  | .create id remoteSessionID deviceID userID targetType raw expiresAt =>
    s.create (newRow cfg id remoteSessionID deviceID userID targetType raw expiresAt)
  | .begin tid ticket => s.begin cfg tid ticket
  | .load tid => s.load tid
  | .check tid => s.check tid
  | .update tid => s.update tid
  | .write tid w => s.write tid w
  | .writeRow tid id => s.writeRow tid id
  | .commit tid => s.commit tid
  | .rollback tid => if s.txs tid = none then none else some (s.finish (· == tid))
  | .restart sent => s.restart sent

/-! ### What a statement does -/

section Steps

variable {cfg : Config} {s t : State} {tid : TxID} {id : UUID}

theorem create_eq_some {row : Row} (h : s.create row = some t) :
    row.id ∉ s.issued ∧ t = { s with rows := s.rows ++ [row], issued := row.id :: s.issued } := by
  unfold State.create at h
  split_ifs at h with hgrd
  exact ⟨hgrd.1, (some.inj h).symm⟩

theorem begin_eq_some {ticket : Text} (h : s.begin cfg tid ticket = some t) :
    ∃ hash, hashTicket cfg.sha256 ticket = some hash ∧
      t = s.setTx tid (.begun s.now ticket hash) := by
  unfold State.begin at h
  split_ifs at h
  obtain ⟨hash, hhash, rfl⟩ := map_eq_some_iff.1 h
  exact ⟨hash, hhash, rfl⟩

theorem load_eq_some (h : s.load tid = some t) :
    ∃ start ticket row, s.txs tid = some (.begun start ticket row.helperTicketHash) ∧ row ∈ s.rows ∧
      s.locks row.id = none ∧
      t = { s.setTx tid (.loaded start ticket row) with
            locks := Function.update s.locks row.id (some tid) } := by
  unfold State.load at h
  split at h
  next start ticket hash htx =>
    split at h
    next row hfind =>
      split_ifs at h with hfree
      have hhash : row.helperTicketHash = hash := by simpa using List.find?_some hfind
      exact ⟨start, ticket, row, hhash ▸ htx, List.mem_of_find?_eq_some hfind, hfree,
        (some.inj h).symm⟩
    · cases h
  · cases h

theorem check_eq_some (h : s.check tid = some t) :
    ∃ start ticket row, s.txs tid = some (.loaded start ticket row) ∧ row.state = .ticketIssued ∧
      s.now ≤ row.expiresAt ∧ t = s.setTx tid (.checked start ticket row s.now) := by
  unfold State.check at h
  split at h
  next start ticket row htx =>
    split_ifs at h with hgrd
    obtain ⟨hst, hclock⟩ := not_or.1 hgrd
    exact ⟨start, ticket, row, htx, not_not.1 hst, Nat.not_lt.1 hclock, (some.inj h).symm⟩
  · cases h

theorem update_eq_some (h : s.update tid = some t) :
    ∃ start ticket row clock, s.txs tid = some (.checked start ticket row clock) ∧
      t = s.setTx tid (.updated start ticket row clock) := by
  unfold State.update at h
  split at h
  next start ticket row clock htx => exact ⟨start, ticket, row, clock, htx, (some.inj h).symm⟩
  · cases h

theorem write_eq_some {w : Write} (h : s.write tid w = some t) :
    w.state ≠ .ticketIssued ∧ t = s.setTx tid (.writing s.now w (s.found w) (s.found w) []) := by
  unfold State.write at h
  split_ifs at h with hgrd
  exact ⟨hgrd.2, (some.inj h).symm⟩

theorem writeRow_eq_some (h : s.writeRow tid id = some t) :
    ∃ start w found todo done, s.txs tid = some (.writing start w found todo done) ∧
      ((s.locks id = none ∧ id ∈ s.found w ∧
        t = { s.setTx tid (.writing start w found (todo.erase id) (id :: done)) with
              locks := Function.update s.locks id (some tid) }) ∨
        (id ∉ s.found w ∧ t = s.setTx tid (.writing start w found (todo.erase id) done))) := by
  unfold State.writeRow at h
  split at h
  next start w found todo done htx =>
    split_ifs at h with hgrd hfnd
    · exact ⟨start, w, found, todo, done, htx, .inl ⟨hgrd.2, hfnd, (some.inj h).symm⟩⟩
    · exact ⟨start, w, found, todo, done, htx, .inr ⟨hfnd, (some.inj h).symm⟩⟩
  · cases h

theorem commit_eq_some (h : s.commit tid = some t) :
    (∃ start ticket row clock, s.txs tid = some (.updated start ticket row clock) ∧
      t = { s.finish (· == tid) with
            rows := s.updateRows [row.id] (Row.redeem start)
            history := s.history ++ [.redeemed (s.redemption ticket row clock)] }) ∨
    ∃ start w found done, s.txs tid = some (.writing start w found [] done) ∧
      t = { s.finish (· == tid) with
            rows := s.updateRows done (w.set start)
            history := s.history ++ State.written w found done } := by
  unfold State.commit at h
  split at h
  next start ticket row clock htx =>
    exact .inl ⟨start, ticket, row, clock, htx, (some.inj h).symm⟩
  next start w found done htx => exact .inr ⟨start, w, found, done, htx, (some.inj h).symm⟩
  · cases h

end Steps

end WartungsRemote.RemoteSession.Tunnel
