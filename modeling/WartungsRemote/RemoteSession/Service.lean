import WartungsRemote.ControlHub.Hub
import WartungsRemote.Relay.Broker

/-!
# Remote sessions

`internal/remotesession` with the handlers of `internal/httpapi` that drive it: opening a terminal
or a tunnel, the three ways of closing one (the administrator's `DELETE`, the browser or helper
going away, the agent reporting the end), the disconnect handler and the startup of the server.

Every handler is a goroutine of its own, and the reads it bases its decisions on are separate from
the writes it makes later. A handler (`Thread`) that still has decisions ahead is in a named
position; once it has taken the last one, what is left is a straight list of statements (`running`),
and each step executes one of them. The label says what the agent answers, and whether a database
call succeeds, fails, or fails after it took effect (the request's context was cancelled).

The rows of `tunnel_sessions` and the audit log are not part of the state: nothing modelled here
reads them. `createTunnel` stays as a statement because its failure ends `OpenTunnel` before the
stream is registered.
-/

namespace WartungsRemote.RemoteSession

open ControlHub (ConnID)
open Relay (Broker StreamRef)

/-- `State`. -/
inductive SessionState
  | requested
  | opening
  | active
  | closing
  | closed
  | failed
  | interrupted
  | expired
  deriving DecidableEq

/-- The states no session leaves. -/
def SessionState.final : SessionState → Bool
  | .closed | .failed | .interrupted | .expired => true
  | _ => false

/-- `state IN ('requested','opening','active')`: what an interrupt looks for. -/
def SessionState.interruptible : SessionState → Bool
  | .requested | .opening | .active => true
  | _ => false

inductive Kind
  | terminal
  | sshTunnel
  | rdpTunnel
  deriving DecidableEq

/-- The stream kind a session is registered with: `StreamKindTerminal` or `StreamKindTunnel`. -/
def Kind.streamKind : Kind → UInt8
  | .terminal => 1
  | .sshTunnel | .rdpTunnel => 2

/-- A row of `remote_sessions`, which is also what `Repo.Get` returns. -/
structure Session where
  id : UUID
  deviceID : UUID
  userID : UUID
  kind : Kind
  state : SessionState
  openedAt : ℕ
  closedAt : Option ℕ
  expiresAt : ℕ
  closeReason : Option String
  maintenanceSessionID : Option UUID
  deriving DecidableEq

/-- A row of `maintenance_sessions`. -/
structure MaintenanceSession where
  id : UUID
  deviceID : UUID
  customerID : Option UUID
  userID : UUID
  startedAt : ℕ
  endedAt : Option ℕ
  result : Option String
  summary : Option String
  deriving DecidableEq

/-- A row of `maintenance_events`. -/
structure MaintenanceEvent where
  maintenanceSessionID : UUID
  eventType : String
  occurredAt : ℕ
  summary : String
  referenceID : Option UUID
  deriving DecidableEq

structure InterruptedSession where
  id : UUID
  maintenanceSessionID : Option UUID
  deriving DecidableEq

/-- One access of a handler to the database or the broker. -/
inductive Stmt
  | setMaintenanceSession (id maintenanceID : UUID)
  | addEvent (maintenanceID : UUID) (eventType summary : String) (referenceID : Option UUID)
  | closeMaintenance (maintenanceID : UUID) (result summary : String)
  | setState (id : UUID) (state : SessionState)
  | close (id : UUID) (state : SessionState) (reason : String)
  | createTunnel (id : UUID)
  | register (id deviceID : UUID) (kind : UInt8)
  | unregister (id : UUID)

/-- A handler, by the place it has reached. -/
inductive Thread
  /-- `OpenTerminal`: the row is created, `maintenance.Open` is next. -/
  | created (sess : Session) (customerID : Option UUID)
  /-- `OpenTerminal`, with the statements on the maintenance session still to make before it asks
  the agent. -/
  | preparing (sess : Session) (stmts : List Stmt)
  /-- `OpenTerminal` or `OpenTunnel` in `SendAndWait`. -/
  | awaiting (sess : Session)
  /-- A stream handler that has found the session active and has not yet looked up its stream. -/
  | attaching (sess : Session) (reason : String)
  /-- A stream handler forwarding bytes. -/
  | streaming (sess : Session) (reason : String)
  /-- A stream handler that has unregistered the stream and is about to read the session again. -/
  | rereading (sess : Session) (reason : String)
  /-- Only the statements are left. -/
  | running (stmts : List Stmt)

/-- Who runs a handler. -/
inductive ThreadID
  /-- An HTTP request, or the read loop of a connection handling `session_close`. -/
  | request (n : ℕ)
  /-- The disconnect handler that the teardown of a control connection calls. -/
  | disconnect (c : ConnID)
  /-- The start of the server. -/
  | startup
  deriving DecidableEq

/-- The tables, the broker and the handlers in progress. -/
structure State where
  now : ℕ
  sessions : List Session
  maintenance : List MaintenanceSession
  events : List MaintenanceEvent
  broker : Broker
  threads : ThreadID → Option Thread

/-- An empty installation before its first request. -/
def State.init : State where
  now := 0
  sessions := []
  maintenance := []
  events := []
  broker := .empty
  threads _ := none

/-- How a call that may fail ends. -/
inductive Outcome
  | ok
  | failed
  /-- The call took effect and still reported an error. -/
  | failedLate
  deriving DecidableEq

/-- What `SendAndWait` and the decoding of its answer come to. -/
inductive OpenReply
  | unreachable
  | rejected
  | success

/-- One access to shared state by one handler. -/
inductive Label
  | tick (d : ℕ)
  /-- `OpenTerminal` inserts the row. -/
  | openTerminal (n : ℕ) (id deviceID userID : UUID) (customerID : Option UUID) (ttl : ℕ)
  /-- `OpenTunnel` inserts the row. -/
  | openTunnel (n : ℕ) (id deviceID userID : UUID) (kind : Kind) (ttl : ℕ)
  /-- `maintenance.Open`; `none` when it fails. -/
  | openMaintenance (n : ℕ) (maintenanceID : Option UUID)
  /-- The agent answers `session_open`, or does not. -/
  | agentReply (n : ℕ) (reply : OpenReply)
  /-- `handleCloseSession` reads the session. -/
  | closeSession (n : ℕ) (id : UUID)
  /-- The agent reports the end of a session and the session close handler reads it. -/
  | agentClose (n : ℕ) (deviceID id : UUID) (reason : String)
  /-- `handleSessionStream` reads the session or, for a helper with a tunnel's ticket,
  `handleTunnelStream` does. -/
  | attach (n : ℕ) (id : UUID) (helper : Bool)
  /-- The stream handler looks up the stream. -/
  | getStream (n : ℕ)
  /-- The stream handler's loops have ended; it unregisters the stream. -/
  | endStream (n : ℕ)
  /-- The stream handler reads the session again. -/
  | reread (n : ℕ)
  /-- The disconnect handler of connection `c` runs `InterruptAllForDevice`, which returns the rows
  it changed in some order. -/
  | interruptDevice (c : ConnID) (deviceID : UUID) (out : Outcome)
      (rows : List InterruptedSession)
  | exec (tid : ThreadID) (out : Outcome)
  /-- The server stops, starts again and runs `InterruptAllActive`. -/
  | restart (out : Outcome) (rows : List InterruptedSession)

namespace State

/-- `UPDATE remote_sessions SET ... WHERE id = $1`. -/
def updateSession (s : State) (id : UUID) (f : Session → Session) : State :=
  { s with sessions := s.sessions.map fun r ↦ if r.id = id then f r else r }

/-- `UPDATE maintenance_sessions SET ... WHERE id = $1`. -/
def updateMaintenance (s : State) (id : UUID) (f : MaintenanceSession → MaintenanceSession) :
    State :=
  { s with maintenance := s.maintenance.map fun m ↦ if m.id = id then f m else m }

def get (s : State) (id : UUID) : Option Session :=
  s.sessions.find? fun r ↦ r.id = id

/-- `UPDATE remote_sessions SET state = 'interrupted', closed_at = now(), close_reason = $reason`,
for the interruptible sessions that satisfy `p`. -/
def interrupt (s : State) (p : Session → Bool) (reason : String) : State :=
  { s with
    sessions := s.sessions.map fun r ↦
      if p r && r.state.interruptible then
        { r with state := .interrupted, closedAt := some s.now, closeReason := some reason }
      else r }

/-- What that statement returns, in table order. -/
def interrupted (s : State) (p : Session → Bool) : List InterruptedSession :=
  (s.sessions.filter fun r ↦ p r && r.state.interruptible).map fun r ↦
    { id := r.id, maintenanceSessionID := r.maintenanceSessionID }

/-- Put a handler at another place, or end it. -/
def setThread (s : State) (tid : ThreadID) (th : Option Thread) : State :=
  { s with threads := Function.update s.threads tid th }

/-- Begin a handler under an unused name. -/
def start (s : State) (tid : ThreadID) (th : Thread) : Option State :=
  if s.threads tid = none then some (s.setThread tid (some th)) else none

end State

/-- The effect of a statement that succeeds. -/
def Stmt.run (s : State) : Stmt → State
  | .setMaintenanceSession id maintenanceID =>
    s.updateSession id fun r ↦ { r with maintenanceSessionID := some maintenanceID }
  | .addEvent maintenanceSessionID eventType summary referenceID =>
    { s with events := s.events ++
        [{ maintenanceSessionID, eventType, occurredAt := s.now, summary, referenceID }] }
  | .closeMaintenance maintenanceID result summary =>
    s.updateMaintenance maintenanceID fun m ↦
      { m with endedAt := some s.now, result := some result, summary := some summary }
  | .setState id state => s.updateSession id fun r ↦ { r with state }
  | .close id state reason =>
    s.updateSession id fun r ↦ { r with state, closedAt := some s.now, closeReason := some reason }
  | .createTunnel _ => s
  | .register id deviceID kind => { s with broker := s.broker.register id deviceID kind }
  | .unregister id => { s with broker := s.broker.unregister id }

/-- The effect of a statement that ends with the given outcome. -/
def Stmt.attempt (s : State) (out : Outcome) (stmt : Stmt) : State :=
  if out = .failed then s else stmt.run s

/-- Whether the handler returns when the statement fails; elsewhere the error is ignored. -/
def Stmt.required : Stmt → Bool
  | .setState _ _ | .createTunnel _ => true
  | _ => false

/-- The broker's operations cannot fail. -/
def Stmt.fallible : Stmt → Bool
  | .register _ _ _ | .unregister _ => false
  | _ => true

/-- A handler with nothing left to do is gone. -/
def Thread.ofStmts : List Stmt → Option Thread
  | [] => none
  | stmts => some (.running stmts)

/-- `OpenTerminal` between `maintenance.Open` and `SendAndWait`. -/
def Thread.ofPreparation (sess : Session) : List Stmt → Thread
  | [] => .awaiting sess
  | stmts => .preparing sess stmts

/-- The statements of `Service.Close`; the message to the agent is best effort and touches nothing
here. -/
def closeStmts (sess : Session) (reason : String) : List Stmt :=
  (match sess.maintenanceSessionID with
    | some maintenanceID =>
      [.addEvent maintenanceID "terminal_closed" ("Remote terminal session closed: " ++ reason)
        (some sess.id), .closeMaintenance maintenanceID "completed" ("Terminal session closed: " ++
          reason)]
    | none => []) ++
    [.close sess.id .closed reason]

/-- What is left of `OpenTerminal` or `OpenTunnel` and its handler once the agent has answered. -/
def replyStmts (sess : Session) : OpenReply → List Stmt
  | .unreachable => [.close sess.id .failed "agent_unreachable"]
  | .rejected => [.close sess.id .failed "agent_rejected"]
  | .success =>
    .setState sess.id .active ::
      (if sess.kind = .terminal then [] else [.createTunnel sess.id]) ++
        [.register sess.id sess.deviceID sess.kind.streamKind]

/-- The loop of the disconnect handler. -/
def disconnectStmts (interrupted : List InterruptedSession) : List Stmt :=
  interrupted.flatMap fun i ↦
    .unregister i.id :: match i.maintenanceSessionID with
      | some maintenanceID =>
        [.closeMaintenance maintenanceID "interrupted"
          "Agent disconnected while session was active"]
      | none => []

/-- The loop at the start of the server. -/
def startupStmts (interrupted : List InterruptedSession) : List Stmt :=
  interrupted.flatMap fun i ↦
    match i.maintenanceSessionID with
    | some maintenanceID =>
      [.closeMaintenance maintenanceID "interrupted" "Server restarted while session was active"]
    | none => []

namespace State

def create (s : State) (id deviceID userID : UUID) (kind : Kind) (ttl : ℕ) : State × Session :=
  let sess : Session :=
    { id, deviceID, userID, kind, state := .requested, openedAt := s.now, closedAt := none,
      expiresAt := s.now + ttl, closeReason := none, maintenanceSessionID := none }
  ({ s with sessions := s.sessions ++ [sess] }, sess)

/-- `OpenTerminal` up to the row. -/
def openTerminal (s : State) (n : ℕ) (id deviceID userID : UUID) (customerID : Option UUID)
    (ttl : ℕ) : Option State :=
  if id ∈ s.sessions.map (·.id) then none
  else
    let (s', sess) := s.create id deviceID userID .terminal ttl
    s'.start (.request n) (.created sess customerID)

/-- `OpenTunnel` up to the row. -/
def openTunnel (s : State) (n : ℕ) (id deviceID userID : UUID) (kind : Kind) (ttl : ℕ) :
    Option State :=
  if id ∈ s.sessions.map (·.id) ∨ kind = .terminal then none
  else
    let (s', sess) := s.create id deviceID userID kind ttl
    s'.start (.request n) (.awaiting sess)

/-- `OpenTerminal` opens a maintenance session; when that fails it goes on without one. -/
def openMaintenance (s : State) (n : ℕ) (maintenanceID : Option UUID) : Option State :=
  match s.threads (.request n) with
  | some (.created sess customerID) =>
    match maintenanceID with
    | some mid =>
      if mid ∈ s.maintenance.map (·.id) then none
      else
        let m : MaintenanceSession :=
          { id := mid, deviceID := sess.deviceID, customerID, userID := sess.userID,
            startedAt := s.now, endedAt := none, result := none, summary := none }
        let stmts : List Stmt :=
          [.setMaintenanceSession sess.id mid,
            .addEvent mid "terminal_opened" "Remote terminal session opened" (some sess.id)]
        some ({ s with maintenance := s.maintenance ++ [m] }.setThread (.request n)
          (some (.preparing { sess with maintenanceSessionID := some mid } stmts)))
    | none => some (s.setThread (.request n) (some (.awaiting sess)))
  | _ => none

/-- `SendAndWait` returns. -/
def agentReply (s : State) (n : ℕ) (reply : OpenReply) : Option State :=
  match s.threads (.request n) with
  | some (.awaiting sess) =>
    some (s.setThread (.request n) (Thread.ofStmts (replyStmts sess reply)))
  | _ => none

/-- `handleCloseSession`: nothing more to do for a session that is not active. -/
def closeSession (s : State) (n : ℕ) (id : UUID) : Option State :=
  match s.get id with
  | some sess =>
    if sess.state = .active then
      s.start (.request n) (.running (closeStmts sess "admin_closed" ++ [.unregister id]))
    else some s
  | none => some s

/-- The session close handler of `NewRouter`. -/
def agentClose (s : State) (n : ℕ) (deviceID id : UUID) (reason : String) : Option State :=
  match s.get id with
  | some sess =>
    if sess.deviceID = deviceID ∧ sess.state = .active then
      s.start (.request n) (.running (.unregister id :: closeStmts sess ("agent_" ++ reason)))
    else some s
  | none => some s

/-- A stream handler loads the session. -/
def attach (s : State) (n : ℕ) (id : UUID) (helper : Bool) : Option State :=
  match s.get id with
  | some sess =>
    if helper ∧ sess.kind = .terminal then none
    else if sess.state = .active then
      s.start (.request n) (.attaching sess (if helper then "helper_disconnected"
        else "browser_disconnected"))
    else some s
  | none => some s

/-- A stream handler looks up the stream. -/
def getStream (s : State) (n : ℕ) : Option State :=
  match s.threads (.request n) with
  | some (.attaching sess reason) =>
    if (s.broker.get sess.id).isSome then
      some (s.setThread (.request n) (some (.streaming sess reason)))
    else some (s.setThread (.request n) none)
  | _ => none

/-- A stream handler's loops have ended. -/
def endStream (s : State) (n : ℕ) : Option State :=
  match s.threads (.request n) with
  | some (.streaming sess reason) =>
    some ({ s with broker := s.broker.unregister sess.id }.setThread (.request n)
      (some (.rereading sess reason)))
  | _ => none

/-- A stream handler closes the session it was attached to, if still active, as it was when it
attached. -/
def reread (s : State) (n : ℕ) : Option State :=
  match s.threads (.request n) with
  | some (.rereading sess reason) =>
    match s.get sess.id with
    | some current =>
      if current.state = .active then
        some (s.setThread (.request n) (some (.running (closeStmts sess reason))))
      else some (s.setThread (.request n) none)
    | none => some (s.setThread (.request n) none)
  | _ => none

/-- The disconnect handler of `NewRouter`. It returns when the query reports an error. -/
def interruptDevice (s : State) (c : ConnID) (deviceID : UUID) (out : Outcome)
    (rows : List InterruptedSession) : Option State :=
  let hit : Session → Bool := fun r ↦ r.deviceID = deviceID
  if s.threads (.disconnect c) = none ∧ rows.Perm (s.interrupted hit) then
    match out with
    | .ok => some ((s.interrupt hit "agent_disconnected").setThread (.disconnect c)
        (Thread.ofStmts (disconnectStmts rows)))
    | .failed => some s
    | .failedLate => some (s.interrupt hit "agent_disconnected")
  else none

/-- A handler executes its next statement. -/
def exec (s : State) (tid : ThreadID) (out : Outcome) : Option State :=
  match s.threads tid with
  | some (.preparing sess (stmt :: rest)) =>
    some ((stmt.attempt s out).setThread tid (some (Thread.ofPreparation sess rest)))
  | some (.running (stmt :: rest)) =>
    if out ≠ .ok ∧ stmt.fallible = false then none
    else
      some ((stmt.attempt s out).setThread tid
        (if out ≠ .ok ∧ stmt.required then none else Thread.ofStmts rest))
  | _ => none

/-- The server stops and starts again. -/
def restart (s : State) (out : Outcome) (rows : List InterruptedSession) : Option State :=
  let stopped : State := { s with broker := .empty, threads := fun _ ↦ none }
  if rows.Perm (s.interrupted fun _ ↦ true) then
    match out with
    | .ok => some ((stopped.interrupt (fun _ ↦ true) "server_restart").setThread .startup
        (Thread.ofStmts (startupStmts rows)))
    | .failed => some stopped
    | .failedLate => some (stopped.interrupt (fun _ ↦ true) "server_restart")
  else none

end State

/-- One step of the session service. -/
def step (s : State) : Label → Option State
  | .tick d => some { s with now := s.now + d }
  | .openTerminal n id deviceID userID customerID ttl =>
    s.openTerminal n id deviceID userID customerID ttl
  | .openTunnel n id deviceID userID kind ttl => s.openTunnel n id deviceID userID kind ttl
  | .openMaintenance n maintenanceID => s.openMaintenance n maintenanceID
  | .agentReply n reply => s.agentReply n reply
  | .closeSession n id => s.closeSession n id
  | .agentClose n deviceID id reason => s.agentClose n deviceID id reason
  | .attach n id helper => s.attach n id helper
  | .getStream n => s.getStream n
  | .endStream n => s.endStream n
  | .reread n => s.reread n
  | .interruptDevice c deviceID out rows => s.interruptDevice c deviceID out rows
  | .exec tid out => s.exec tid out
  | .restart out rows => s.restart out rows

end WartungsRemote.RemoteSession
