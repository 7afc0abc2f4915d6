import WartungsRemote.Auth.Requests
import WartungsRemote.RemoteSession.Privilege
import WartungsRemote.Transition.History

/-!
# Reauthentication

`Service.Reauth` verifies the password and a code of a user once more and issues a token;
`ConsumeReauth` consumes it with one conditional `UPDATE`. Four handlers ask for a token before they
grant a privilege, revoke a device, delete a device or change the own password. They **differ in
what they check first** (`start`): two of them refuse an empty `reauth_id`, the others leave this to
`ConsumeReauth`, and deleting a device looks at the row before.

As in the login, a request is a sequence of statements, each of which can fail, with an effect or
without. Other requests change users, second factors, devices and privileges in any way (`others`);
the table of tokens is written here only. Permissions are checked before and are left out, and so is
the agent that is told of a privilege.
-/

namespace WartungsRemote.Auth.Reauth

open Transition RemoteSession.Privilege

/-- A row of `reauth_tokens`. -/
structure Token where
  id : UUID
  userID : UUID
  createdAt : ℕ
  expiresAt : ℕ
  consumedAt : Option ℕ
  ip : Option Text
  deriving DecidableEq

/-- What needs a token. -/
inductive Action
  /-- `handleGrantPrivilege`, with the session that it has loaded. -/
  | grantPrivilege (sess : RemoteSession.Session) (durationSeconds : ℤ)
  | revokeDevice (deviceID : UUID)
  | deleteDevice (deviceID : UUID)
  | changePassword (newPassword : Text)

/-- The next statement of a request, and its local variables. -/
inductive Thread
  /-- `Reauth` reads the user. -/
  | verifyPassword (userID : UUID) (password code ip : Text)
  /-- `Reauth` has verified the password. -/
  | validateCode (userID : UUID) (code ip : Text)
  | insertToken (userID : UUID) (ip : Text)
  | consume (userID tokenID : UUID) (action : Action)
  /-- The token is consumed. -/
  | act (userID : UUID) (action : Action)

structure State where
  now : ℕ
  db : Tables
  mfaLimiter : RateLimiter
  tokens : List Token
  devices : Device.Repo
  privileges : List PrivilegeSession
  threads : ReqID → Option Thread
  /-- The requests that have begun. -/
  begun : List ReqID

def State.init : State where
  now := 0
  db := .empty
  mfaLimiter := .new 5 minute
  tokens := []
  devices := .empty
  privileges := []
  threads _ := none
  begun := []

/-- What a request asks for, on behalf of a user. -/
inductive Request
  | reauth (password code ip : Text)
  /-- One of the four handlers. -/
  | act (reauthID : Text) (action : Action)

inductive Label
  | tick (d : ℕ)
  | start (req : ReqID) (userID : UUID) (r : Request)
  /-- The request executes its next statement. `id` is what the database generates, and `hash` what
  `HashPassword` returns. -/
  | exec (req : ReqID) (out : Outcome) (id : UUID) (hash : Text)
  /-- What other requests do. -/
  | others (db : Tables) (devices : Device.Repo) (privileges : List PrivilegeSession)

/-- What has happened. -/
inductive Event
  /-- The password of a user was verified against the stored hash. -/
  | password (req : ReqID) (userID : UUID) (password hash : Text)
  /-- A code of a user was validated against the stored secret. -/
  | code (req : ReqID) (userID : UUID) (code secret : Text) (now : ℕ)
  | issued (req : ReqID) (tokenID userID : UUID) (expiresAt : ℕ)
  | consumed (req : ReqID) (tokenID userID : UUID) (now : ℕ)
  /-- The statement of an action was executed. -/
  | executed (req : ReqID) (userID : UUID) (action : Action)

/-! ### Statements -/

/-- The `WHERE` clause of `ConsumeReauth`. -/
def Token.Usable (r : Token) (now : ℕ) (userID : UUID) : Prop :=
  r.userID = userID ∧ r.consumedAt = none ∧ r.expiresAt > now
  deriving Decidable

namespace State

variable (s : State)

def setThread (req : ReqID) (th : Option Thread) : State :=
  { s with threads := Function.update s.threads req th }

/-- A request begins with the given thread, if it comes so far. -/
def begin (req : ReqID) (th : Option Thread) : Option State :=
  if req ∈ s.begun then none else some { s.setThread req th with begun := req :: s.begun }

/-- The `UPDATE` of `ConsumeReauth`. -/
def consume (tokenID userID : UUID) : State :=
  { s with
    tokens := s.tokens.map fun r ↦
      if r.id = tokenID ∧ r.Usable s.now userID then { r with consumedAt := some s.now } else r }

/-- The row that `ConsumeReauth` finds. -/
def usable (tokenID userID : UUID) : Option Token :=
  s.tokens.find? fun r ↦ r.id = tokenID ∧ r.Usable s.now userID

/-- `GrantPrivilege` up to the row. -/
def grantPrivilege (maxDuration : ℕ) (sess : RemoteSession.Session) (durationSeconds : ℤ)
    (id : UUID) : State :=
  { s with
    privileges := s.privileges ++
      [{ id, remoteSessionID := sess.id, userID := sess.userID, deviceID := sess.deviceID,
         createdAt := s.now, revokedAt := none, reason := "admin_requested",
         validUntil := s.now + grantedDuration (seconds durationSeconds) maxDuration }] }

/-- The statement of an action. Nothing is executed for a session that was not active when it was
loaded, or for a password of less than twelve bytes. -/
def act (maxDuration : ℕ) (userID : UUID) (id : UUID) (hash : Text) : Action → Option State
  | .grantPrivilege sess durationSeconds =>
    if sess.state = .active then some (s.grantPrivilege maxDuration sess durationSeconds id)
    else none
  | .revokeDevice deviceID => some { s with devices := s.devices.revoke s.now deviceID }
  | .deleteDevice deviceID => some { s with devices := s.devices.delete deviceID }
  | .changePassword newPassword =>
    if (Text.utf8 newPassword).length < 12 then none
    else some { s with db := s.db.apply s.now (.updatePasswordHash userID hash) }

end State

/-- What a statement does: the tables, what is remembered, and how the request goes on. -/
structure Effect where
  state : State
  events : List Event := []
  next : Option Thread := none

namespace Thread

variable (cfg : Config) (maxDuration : ℕ) (s : State) (req : ReqID) (id : UUID) (hash : Text)

/-- The next statement of a request, when the caller gets no error. -/
def run : Thread → Effect
  | verifyPassword userID password code ip =>
    match s.db.users.find? fun u ↦ u.id = userID with
    | none => { state := s }
    | some user =>
      -- an error in the format of the hash is a wrong password
      if cfg.verifyPassword password user.passwordHash = some true then
        { state := s
          events := [.password req userID password user.passwordHash]
          next := some (validateCode userID code ip) }
      else { state := s }
  | validateCode userID code ip =>
    match s.db.mfa userID with
    | none => { state := s }
    | some m =>
      if m.confirmedAt ≠ none ∧ cfg.validate code m.secret s.now = true then
        { state := s
          events := [.code req userID code m.secret s.now]
          next := some (insertToken userID ip) }
      else { state := s }
  | insertToken userID ip =>
    { state :=
        { s with
          tokens := s.tokens ++
            [{ id, userID, createdAt := s.now, expiresAt := s.now + 5 * minute, consumedAt := none,
               ip := if ip = [] then none else some ip }] }
      events := [.issued req id userID (s.now + 5 * minute)] }
  | consume userID tokenID action =>
    match s.usable tokenID userID with
    | none => { state := s }
    | some _ =>
      { state := s.consume tokenID userID
        events := [.consumed req tokenID userID s.now]
        next := some (act userID action) }
  | act userID action =>
    match s.act maxDuration userID id hash action with
    | none => { state := s }
    | some t => { state := t, events := [.executed req userID action] }

/-- The statement only reads. -/
def reads : Thread → Bool
  | verifyPassword _ _ _ _ | validateCode _ _ _ => true
  | insertToken _ _ | consume _ _ _ | act _ _ => false

/-- The next statement of a request. -/
def effect (out : Outcome) (th : Thread) : Effect :=
  match out with
  | .ok => th.run cfg maxDuration s req id hash
  | .failed => { state := s }
  | .lost =>
    if th.reads then { state := s } else { th.run cfg maxDuration s req id hash with next := none }

/-- The constraints of the tables: a generated id is new. -/
def Fits : Thread → Prop
  | insertToken _ _ => id ∉ s.tokens.map Token.id
  | act _ (.grantPrivilege _ _) => id ∉ s.privileges.map PrivilegeSession.id
  | _ => True

instance (th : Thread) : Decidable (th.Fits s id) := by
  unfold Thread.Fits
  split <;> infer_instance

end Thread

namespace State

variable (cfg : Config) (maxDuration : ℕ) (s : State)

/-- What a handler checks before `ConsumeReauth`. -/
def checks (reauthID : Text) : Action → Bool
  | .grantPrivilege _ _ => reauthID ≠ []
  | .revokeDevice deviceID => (s.devices.devices deviceID).isSome
  | .deleteDevice deviceID => (s.devices.devices deviceID).any fun d ↦ d.lastSeenAt.isNone
  | .changePassword newPassword => reauthID ≠ [] ∧ newPassword ≠ []

/-- A handler is called. -/
def start (req : ReqID) (userID : UUID) : Request → Option State
  | .reauth password code ip =>
    if password = [] ∨ code = [] then s.begin req none
    else
      let key := ['r', 'e', 'a', 'u', 't', 'h', ':'] ++ Uuid.string userID
      { s with mfaLimiter := s.mfaLimiter.allow s.now key }.begin req
        (if s.mfaLimiter.Allows s.now key then some (.verifyPassword userID password code ip)
          else none)
  | .act reauthID action =>
    s.begin req (if s.checks reauthID action then
        (Uuid.parse reauthID).map fun tokenID ↦ .consume userID tokenID action
      else none)

/-- The effect of a request's next statement. -/
def effect (req : ReqID) (out : Outcome) (id : UUID) (hash : Text) : Option Effect :=
  (s.threads req).bind fun th ↦
    if th.Fits s id then some (th.effect cfg maxDuration s req id hash out) else none

end State

/-- One step of the server. -/
def step (cfg : Config) (maxDuration : ℕ) (s : State) : Label → Option State
  | .tick d => some { s with now := s.now + d }
  | .start req userID r => s.start req userID r
  | .exec req out id hash =>
    (s.effect cfg maxDuration req out id hash).map fun e ↦ e.state.setThread req e.next
  | .others db devices privileges => some { s with db, devices, privileges }

/-- What happens in a step. -/
def State.events (cfg : Config) (maxDuration : ℕ) (s : State) : Label → List Event
  | .exec req out id hash => ((s.effect cfg maxDuration req out id hash).map Effect.events).getD []
  | _ => []

/-- The events of a run, the latest first. -/
abbrev History : Type := List Event

/-- The server, and what has happened. -/
abbrev Recorded : Type := State × History

abbrev recordedStep (cfg : Config) (maxDuration : ℕ) : Recorded → Label → Option Recorded :=
  withHistory (step cfg maxDuration) fun h s l _ ↦ s.events cfg maxDuration l ++ h

end WartungsRemote.Auth.Reauth
