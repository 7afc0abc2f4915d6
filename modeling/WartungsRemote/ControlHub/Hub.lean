import WartungsRemote.Device.Registry
import WartungsRemote.Transition.Run

/-!
# The control hub

`internal/controlhub`: the authenticated agent control channel and the connectivity sweeper,
together with the device writes of the revocation, enrollment and deletion paths that run beside it.

Every HTTP request for the control channel is one run of `ServeAgentWS`, and all of them, the
sweeper and the admin requests interleave. The model keeps one **phase** per `ServeAgentWS` run, the
place it has reached between two accesses to shared state, and one phase for the sweeper; a label
advances exactly one of them by one access. What the outside decides is in the label: the messages
an agent sends, whether a write takes effect, the order in which Go iterates over the connection
map, and how much time passes.

The connectivity writes and those of the inventory may fail: the context of the connection is
cancelled, the address is none, or a text of the agent has a NUL. The hub ignores the error, so the
label says whether the write landed (`lands`). Its other database calls succeed. A cancelled context
also ends the read loop, which may end at any time, so that the model does not keep which are.

`swept` is a history variable, which no step reads: when the last completed sweep began and which
connections it closed. Metrics, binary frames and request correlation pass through the same read
loop; they are modelled with the components they belong to.
-/

namespace WartungsRemote.ControlHub

open Device

/-- A run of `ServeAgentWS`. -/
abbrev ConnID : Type := ℕ

/-- `Timing`, with what `ServerConfig.Validate` guarantees about it. -/
structure Timing where
  connectionLostAfter : ℕ
  offlineAfter : ℕ
  connectionLostAfter_pos : 0 < connectionLostAfter
  connectionLostAfter_lt : connectionLostAfter < offlineAfter

/-- The timing, and Ed25519 verification of a signature over a nonce under a public key. -/
structure Config where
  timing : Timing
  verify : (publicKey nonce signature : List UInt8) → Bool

/-- A decoded `hello` message, with the decoded nonce: to compare it is to compare the base64 texts,
as the hub does. -/
structure Hello where
  deviceID : UUID
  installID : UUID
  agentVersion : String
  os : String
  arch : String
  nonce : List UInt8
  signature : List UInt8
  secure : Bool
  deriving DecidableEq

/-- The fields of `connection` that the hub uses later. -/
structure Connection where
  deviceID : UUID
  installID : UUID
  remoteIP : String
  deriving DecidableEq

/-- How far a run of `ServeAgentWS` has come. -/
inductive Phase
  /-- Not started. -/
  | absent
  /-- The challenge is sent, the hello not yet read. -/
  | challenged (nonce : List UInt8) (remoteIP : String)
  /-- The hello's device row was read and passed the checks; the credential is not yet read. -/
  | identified (remoteIP : String) (hello : Hello) (device : Row)
  /-- The signature is verified and the ack written; the inventory is not yet stored. -/
  | verified (remoteIP : String) (hello : Hello) (device : Row)
  /-- `handshake` has returned; not yet in the connection map. -/
  | admitted (conn : Connection)
  /-- In the map; `UpdateConnectivity` not yet called. -/
  | registered (conn : Connection)
  /-- In the read loop. -/
  | serving (conn : Connection)
  /-- The read loop has returned; the map entry is not yet removed. -/
  | ended (conn : Connection)
  /-- The map entry is dealt with; the status is not yet written. -/
  | unmapped (conn : Connection)
  /-- The status is written; the disconnect handler not yet called. -/
  | lost (conn : Connection)
  /-- `ServeAgentWS` has returned, after its teardown or after a failed handshake. -/
  | finished
  /-- The server stopped while the run was in progress. -/
  | killed
  deriving DecidableEq

/-- How far the sweeper has come. `start` is when the sweep began, `closed` what it has closed so
far, `todo` the ids still to visit. -/
inductive Sweep
  | idle
  /-- About to read the row of the next id. -/
  | visiting (start : ℕ) (closed : List ConnID) (todo : List UUID)
  /-- The row is read and has a `last_seen_at`; the time elapsed is not yet computed. -/
  | read (start : ℕ) (closed : List ConnID) (todo : List UUID) (id : UUID) (d : Row)
  /-- Decided for `status`; not yet written. -/
  | marking (start : ℕ) (closed : List ConnID) (todo : List UUID) (id : UUID) (status : Status)
  /-- `offline` is written; `closeConn` not yet called. -/
  | closing (start : ℕ) (closed : List ConnID) (todo : List UUID) (id : UUID)

/-- A completed sweep: when it began and which connections it closed. -/
structure SweepRecord where
  start : ℕ
  closed : List ConnID
  deriving DecidableEq

/-- The hub, the tables behind it and the clock. -/
structure State where
  now : ℕ
  repo : Repo
  /-- Device ids handed out by enrollment so far. -/
  issued : List UUID
  /-- `Hub.conns`. -/
  conns : GoMap UUID ConnID
  phase : ConnID → Phase
  sweep : Sweep
  swept : Option SweepRecord

/-- An empty installation before its first request. -/
def State.init : State where
  now := 0
  repo := Repo.empty
  issued := []
  conns := ∅
  phase _ := .absent
  sweep := .idle
  swept := none

/-- One access to shared state, by one of the concurrent activities. -/
inductive Label
  | tick (d : ℕ)
  /-- `enrollment.Service.Consume` commits. -/
  | enroll (id installID : UUID) (hostname agentVersion : String) (publicKey : List UInt8)
  | delete (id : UUID)
  /-- `handleRevokeDevice` commits `Repo.Revoke`, for a device it has loaded. It does nothing else
  to the registry or the hub. -/
  | revoke (id : UUID)
  /-- A control connection is accepted and challenged. -/
  | accept (c : ConnID) (nonce : List UInt8) (remoteIP : String)
  /-- The hello arrives and its device row is read; `none` is anything that does not decode to a
  hello with two UUIDs. -/
  | hello (c : ConnID) (msg : Option Hello)
  /-- The version check answers `blocked`, the credential is read, the signature checked and the ack
  written (`acked`: without error). -/
  | verify (c : ConnID) (blocked acked : Bool)
  /-- The handshake stores the inventory and returns. -/
  | admitConn (c : ConnID) (lands : Bool)
  /-- The connection enters the map. -/
  | register (c : ConnID)
  /-- `UpdateConnectivity` after registration. -/
  | connect (c : ConnID) (lands : Bool)
  /-- The read loop handles a heartbeat. -/
  | heartbeat (c : ConnID) (lands : Bool)
  /-- The read loop handles an inventory response. -/
  | inventory (c : ConnID) (hostname osFamily osName osVersion agentVersion : String)
      (lands : Bool)
  /-- The read loop returns: the agent is gone, cleanly or not, or the context was cancelled. -/
  | endRead (c : ConnID)
  /-- The teardown removes the map entry if it is its own. -/
  | unmap (c : ConnID)
  /-- The teardown writes `connection_lost`. -/
  | markLost (c : ConnID)
  /-- The teardown calls the disconnect handler and returns. -/
  | notify (c : ConnID)
  /-- The sweeper copies the keys of the map, in any order. -/
  | sweepStart (order : List UUID)
  | sweepRead
  | sweepDecide
  | sweepMark
  | sweepClose
  | sweepEnd
  /-- The server stops and starts again: the tables stay, everything else is gone. -/
  | restart
  deriving DecidableEq

namespace State

/-- Move one `ServeAgentWS` run to another phase. -/
def setPhase (s : State) (c : ConnID) (p : Phase) : State :=
  { s with phase := Function.update s.phase c p }

section SetPhase

variable {s : State} {c : ConnID} {p : Phase}

@[simp] theorem setPhase_phase_self : (s.setPhase c p).phase c = p := by
  simp [setPhase]

theorem setPhase_phase_of_ne {c' : ConnID} (h : c' ≠ c) :
    (s.setPhase c p).phase c' = s.phase c' := by
  simp [setPhase, h]

end SetPhase

def osFamilyOf (os : String) : String :=
  if os = "" then "unknown" else os

/-- The checks of `handshake` on the device row it read. -/
def acceptable (h : Hello) (d : Row) : Bool :=
  decide (d.installID = h.installID) && decide (d.status ≠ .revoked) && decide (d.credentialStatus =
    .active)

/-- `handshake`, from reading the hello to reading the device row. -/
def receiveHello (s : State) (c : ConnID) (msg : Option Hello) : Option State :=
  match s.phase c with
  | .challenged nonce remoteIP =>
    match msg with
    | none => some (s.setPhase c .finished)
    | some h =>
      if h.nonce = nonce then
        match s.repo.devices h.deviceID with
        | some d =>
          if acceptable h d then some (s.setPhase c (.identified remoteIP h d))
          else some (s.setPhase c .finished)
        | none => some (s.setPhase c .finished)
      else some (s.setPhase c .finished)
  | _ => none

/-- `handshake`, from the version check to the ack. -/
def verifyHello (cfg : Config) (s : State) (c : ConnID) (blocked acked : Bool) : Option State :=
  match s.phase c with
  | .identified remoteIP h d =>
    match s.repo.activeCredentialPublicKey s.now h.deviceID with
    | some key =>
      if !blocked && decide (key.length = 32) && cfg.verify key h.nonce h.signature && acked then
        some (s.setPhase c (.verified remoteIP h d))
      else some (s.setPhase c .finished)
    | none => some (s.setPhase c .finished)
  | _ => none

/-- `handshake` stores what the hello reported, on `context.Background()`, and returns. Host name,
operating system and version are those of the row it read at the start. -/
def admitConn (s : State) (c : ConnID) (lands : Bool) : Option State :=
  match s.phase c with
  | .verified remoteIP h d =>
    some { s.setPhase c (.admitted ⟨h.deviceID, h.installID, remoteIP⟩) with
      repo := (s.repo.applyInventory h.deviceID d.hostname (osFamilyOf h.os) d.osName d.osVersion
        h.arch h.agentVersion lands).updateTransportSecurity h.deviceID h.secure }
  | _ => none

/-- `ServeAgentWS` enters the connection into the map, in place of an older one. -/
def register (s : State) (c : ConnID) : Option State :=
  match s.phase c with
  | .admitted conn =>
    some { s.setPhase c (.registered conn) with conns := s.conns.insert conn.deviceID c }
  | _ => none

/-- `UpdateConnectivity(ctx, deviceID, StatusOnline, ip)`. -/
def writeOnline (s : State) (conn : Connection) (lands : Bool) : State :=
  { s with repo := s.repo.updateConnectivity s.now conn.deviceID .online conn.remoteIP lands }

/-- `ServeAgentWS` after registration: the first connectivity write. -/
def connect (s : State) (c : ConnID) (lands : Bool) : Option State :=
  match s.phase c with
  | .registered conn => some ((s.writeOnline conn lands).setPhase c (.serving conn))
  | _ => none

/-- `handleMessage` on a heartbeat. -/
def heartbeat (s : State) (c : ConnID) (lands : Bool) : Option State :=
  match s.phase c with
  | .serving conn => some (s.writeOnline conn lands)
  | _ => none

/-- `handleMessage` on an inventory response. The architecture it stores is the empty string. -/
def receiveInventory (s : State) (c : ConnID)
    (hostname osFamily osName osVersion agentVersion : String) (lands : Bool) : Option State :=
  match s.phase c with
  | .serving conn =>
    some { s with
      repo := s.repo.applyInventory conn.deviceID hostname osFamily osName osVersion "" agentVersion
        lands }
  | _ => none

/-- The read loop returns. -/
def endRead (s : State) (c : ConnID) : Option State :=
  match s.phase c with
  | .serving conn => some (s.setPhase c (.ended conn))
  | _ => none

/-- `ServeAgentWS` teardown: remove the map entry, but only its own. -/
def unmap (s : State) (c : ConnID) : Option State :=
  match s.phase c with
  | .ended conn =>
    some { s.setPhase c (.unmapped conn) with
      conns := if s.conns.lookup conn.deviceID = some c then s.conns.erase conn.deviceID
        else s.conns }
  | _ => none

/-- `ServeAgentWS` teardown: the status write, whoever is in the map by now. -/
def markLost (s : State) (c : ConnID) : Option State :=
  match s.phase c with
  | .unmapped conn =>
    some { s.setPhase c (.lost conn) with
      repo := s.repo.updateStatusOnly conn.deviceID .connectionLost }
  | _ => none

/-- `ServeAgentWS` teardown: the disconnect handler, and the end. -/
def notify (s : State) (c : ConnID) : Option State :=
  match s.phase c with
  | .lost _ => some (s.setPhase c .finished)
  | _ => none

/-- `sweep` copies the ids under the lock. -/
def sweepStart (s : State) (order : List UUID) : Option State :=
  match s.sweep with
  | .idle =>
    if order.Perm s.conns.keys then some { s with sweep := .visiting s.now [] order } else none
  | _ => none

/-- `sweep` reads the next device; without a row or a `last_seen_at` it goes on to the next. -/
def sweepRead (s : State) : Option State :=
  match s.sweep with
  | .visiting start closed (id :: todo) =>
    match s.repo.devices id with
    | some d =>
      if d.lastSeenAt.isSome then some { s with sweep := .read start closed todo id d }
      else some { s with sweep := .visiting start closed todo }
    | none => some { s with sweep := .visiting start closed todo }
  | _ => none

/-- The `switch` of `sweep`, on the row as it was read. -/
def decideStatus (timing : Timing) (now : ℕ) (d : Row) : Option Status :=
  match d.lastSeenAt with
  | some seen =>
    if timing.offlineAfter ≤ now - seen ∧ d.status ≠ .offline then some .offline
    else if timing.connectionLostAfter ≤ now - seen ∧ d.status = .online then some .connectionLost
    else none
  | none => none

/-- `sweep` computes the elapsed time and decides. -/
def sweepDecide (cfg : Config) (s : State) : Option State :=
  match s.sweep with
  | .read start closed todo id d =>
    match decideStatus cfg.timing s.now d with
    | some status => some { s with sweep := .marking start closed todo id status }
    | none => some { s with sweep := .visiting start closed todo }
  | _ => none

/-- `sweep` writes the status it decided for. -/
def sweepMark (s : State) : Option State :=
  match s.sweep with
  | .marking start closed todo id status =>
    some { s with
      repo := s.repo.updateStatusOnly id status
      sweep := if status = .offline then .closing start closed todo id
        else .visiting start closed todo }
  | _ => none

/-- `closeConn`: whatever connection the map holds for the id by now. -/
def sweepClose (s : State) : Option State :=
  match s.sweep with
  | .closing start closed todo id =>
    match s.conns.lookup id with
    | some c =>
      some { s with
        conns := s.conns.erase id
        sweep := .visiting start (c :: closed) todo }
    | none => some { s with sweep := .visiting start closed todo }
  | _ => none

/-- The sweep has visited every id. -/
def sweepEnd (s : State) : Option State :=
  match s.sweep with
  | .visiting start closed [] => some { s with sweep := .idle, swept := some ⟨start, closed⟩ }
  | _ => none

/-- The phase of a run after the server stopped. -/
def killedPhase : Phase → Phase
  | .absent => .absent
  | .finished => .finished
  | _ => .killed

/-- The server stops and starts again. -/
def restart (s : State) : State :=
  { s with
    conns := ∅
    phase := fun c ↦ killedPhase (s.phase c)
    sweep := .idle }

end State

/-- One step of the hub. -/
def step (cfg : Config) (s : State) : Label → Option State
  | .tick d => some { s with now := s.now + d }
  | .enroll id installID hostname agentVersion publicKey =>
    if id ∈ s.issued then none
    else some { s with
      repo := s.repo.insert id installID hostname agentVersion publicKey
      issued := id :: s.issued }
  | .delete id => some { s with repo := s.repo.delete id }
  | .revoke id =>
    if id ∈ s.issued then some { s with repo := s.repo.revoke s.now id } else none
  | .accept c nonce remoteIP =>
    if s.phase c = .absent then some (s.setPhase c (.challenged nonce remoteIP)) else none
  | .hello c msg => s.receiveHello c msg
  | .verify c blocked acked => s.verifyHello cfg c blocked acked
  | .admitConn c lands => s.admitConn c lands
  | .register c => s.register c
  | .connect c lands => s.connect c lands
  | .heartbeat c lands => s.heartbeat c lands
  | .inventory c hostname osFamily osName osVersion agentVersion lands =>
    s.receiveInventory c hostname osFamily osName osVersion agentVersion lands
  | .endRead c => s.endRead c
  | .unmap c => s.unmap c
  | .markLost c => s.markLost c
  | .notify c => s.notify c
  | .sweepStart order => s.sweepStart order
  | .sweepRead => s.sweepRead
  | .sweepDecide => s.sweepDecide cfg
  | .sweepMark => s.sweepMark
  | .sweepClose => s.sweepClose
  | .sweepEnd => s.sweepEnd
  | .restart => some s.restart

/-! ### A small installation

One device and its agent, for the concrete runs that accompany the theorems. -/

namespace Sample

def config : Config where
  timing :=
    { connectionLostAfter := 45
      offlineAfter := 180
      connectionLostAfter_pos := by decide
      connectionLostAfter_lt := by decide }
  verify _ _ _ := true

def device : UUID := 1

def hello : Hello where
  deviceID := device
  installID := 2
  agentVersion := "1.0.0"
  os := "linux"
  arch := "amd64"
  nonce := [3]
  signature := [4]
  secure := true

def enroll : Label :=
  .enroll device 2 "host" "1.0.0" (List.replicate 32 7)

/-- The agent connects, from the request to the first connectivity write. -/
def connect (c : ConnID) : List Label :=
  [.accept c [3] "10.0.0.7", .hello c (some hello), .verify c false true, .admitConn c true,
    .register c, .connect c true]

/-- The socket dies and `ServeAgentWS` runs its teardown. -/
def teardown (c : ConnID) : List Label :=
  [.endRead c, .unmap c, .markLost c, .notify c]

/-- The sweeper visits one id, reports it and closes its connection. -/
def report : List Label :=
  [.sweepRead, .sweepDecide, .sweepMark, .sweepClose]

end Sample

end WartungsRemote.ControlHub
