import WartungsRemote.Auth.Tables
import WartungsRemote.Codec.Base64
import WartungsRemote.Codec.Uuid
import WartungsRemote.Transition.Run

/-!
# Concurrent logins

`handleLogin`, `handleTOTP` and `handleMFASetupConfirm`, with the parts of `auth.Service`,
`auth.MFAStore` and `auth.SessionStore` that they call, and `ConsumeRecoveryCode`. None of them uses
a transaction: a request is a sequence of single **statements**, and what it has read is in its
local variables while other requests write. So a request is a `Thread`, that is its next statement
with the local variables that are still needed, and a label executes the statement of one thread.
What is checked or computed between two statements belongs to the first of them (`Thread.run`).

A statement can fail, and it can take effect while the caller is told that it failed (`Outcome`).
Two errors are ignored by the code: the one of `ResetFailedLogins`, after which the session is
created all the same, and those of the last statement of a request that has failed anyway.

The clock of the server and the one of the database are the same. The hash of the passwords, the
TOTP codes, SHA-256 and the equality of `citext` are parameters. `history` remembers what the
requests have verified; no statement reads it.
-/

namespace WartungsRemote.Auth

open Transition (exec)

structure Config where
  /-- `VerifyPassword` of a password and a stored hash; `none` is an error in the format of the
  hash. -/
  verifyPassword : Text → Text → Option Bool
  /-- `totp.Validate` of a code, a secret and the time. `ValidateCode` passes its options to
  `totp.ValidateCustom`, so it is the same function. -/
  validate : Text → Text → ℕ → Bool
  /-- The equality of `users.username`. -/
  sameName : Text → Text → Bool
  sha256 : List UInt8 → List UInt8
  requireMFA : Bool
  absoluteTTL : ℕ
  idleTTL : ℕ

/-! ### Generated texts -/

/-- The alphabet of `encodeToken`. -/
def tokenAlphabet : List Char :=
  ['A', 'B', 'C', 'D', 'E', 'F', 'G', 'H', 'I', 'J', 'K', 'L', 'M', 'N', 'O', 'P', 'Q', 'R',
    'S', 'T', 'U', 'V', 'W', 'X', 'Y', 'Z', 'a', 'b', 'c', 'd', 'e', 'f', 'g', 'h', 'i', 'j', 'k',
      'l', 'm', 'n',
    'o', 'p', 'q', 'r', 's', 't', 'u', 'v', 'w', 'x', 'y', 'z', '0', '1', '2', '3', '4', '5',
      '6', '7',
    '8', '9']

def encodeToken (raw : List UInt8) : Text :=
  raw.map fun b ↦ tokenAlphabet.getD (b.toNat % tokenAlphabet.length) 'A'

/-- A hexadecimal digit. -/
def hexDigit (n : ℕ) : Char :=
  if n < 10 then Char.ofNat (48 + n) else Char.ofNat (87 + n)

/-- `hex.EncodeToString`. -/
def encodeHex (raw : List UInt8) : Text :=
  raw.flatMap fun b ↦ [hexDigit (b.toNat / 16), hexDigit (b.toNat % 16)]

/-- What is taken from the random generators and from the database in one step. -/
structure Choice where
  id : UUID
  secret : Text
  token : Fin 32 → UInt8
  recovery : Fin 10 → Fin 8 → UInt8

/-- The codes of `generateRecoveryCodes`. -/
def Choice.recoveryCodes (c : Choice) : List Text :=
  List.ofFn fun i ↦ encodeHex (List.ofFn (c.recovery i))

namespace Config

variable (cfg : Config)

def hashToken (token : Text) : List UInt8 :=
  cfg.sha256 (Text.utf8 token)

def hashRecoveryCode (code : Text) : Text :=
  Base64.encodeToString Base64.stdAlphabet (cfg.sha256 (Text.utf8 code))

end Config

/-! ### Requests -/

/-- Where a request comes from. -/
structure Client where
  ip : Text
  userAgent : Text
  deriving DecidableEq

/-- The body of a request, decoded. -/
inductive Request
  | login (username password : Text)
  | totp (challengeID code : Text)
  | setupConfirm (username password code : Text)

/-- The next statement of a request, and its local variables. -/
inductive Thread
  /-- `Login` reads the user. -/
  | login (username password : Text) (client : Client)
  /-- `Login` has verified the password and asks `IsConfirmed`. -/
  | checkMFA (userID : UUID) (mfaRequired : Bool) (client : Client)
  | beginSetup (userID : UUID)
  | createChallenge (userID : UUID) (client : Client)
  /-- `CompleteMFA` reads the challenge. -/
  | completeMFA (cid : UUID) (code : Text) (client : Client)
  | validateCode (cid userID : UUID) (code : Text) (client : Client)
  | countAttempt (cid : UUID)
  | consume (cid userID : UUID) (client : Client)
  /-- `handleMFASetupConfirm` reads the user. -/
  | setupConfirm (username password code : Text) (client : Client)
  /-- `ConfirmSetup` reads the secret. -/
  | confirmLoad (userID : UUID) (code : Text) (client : Client)
  /-- `ConfirmSetup` has validated the code against the secret, and generated the recovery codes. -/
  | confirmUpdate (userID : UUID) (secret : Text) (codes : List Text) (client : Client)
  | registerFailed (userID : UUID)
  | resetFailed (userID : UUID) (via : Via) (client : Client)
  | createSession (userID : UUID) (via : Via) (client : Client)
  /-- `ConsumeRecoveryCode` reads the hashes. -/
  | recover (userID : UUID) (code : Text)
  /-- `ConsumeRecoveryCode` has found the hash of its code among the hashes that it has read. -/
  | recoverUpdate (userID : UUID) (codeHash : Text) (recoveryCodeHashes : List Text)
  deriving DecidableEq

/-- The handlers that verify a password. -/
inductive Handler
  | login
  | setupConfirm
  deriving DecidableEq

/-- What has happened in a request. -/
inductive Event
  /-- The password of the user was verified. -/
  | password (req : ReqID) (handler : Handler) (userID : UUID) (password : Text)
  /-- A code was evaluated against the secret, for a challenge or for the setup. -/
  | evaluated (req : ReqID) (userID : UUID) (cid : Option UUID) (code secret : Text) (valid : Bool)
  /-- `ConfirmSetup` has returned the recovery codes, after it had validated its code against the
  secret. -/
  | confirmed (req : ReqID) (userID : UUID) (secret : Text) (codes : List Text)
  /-- A recovery code of the user was consumed. -/
  | recovered (userID : UUID)
  /-- `ConsumeRecoveryCode` has returned that the code is valid. -/
  | accepted (req : ReqID) (userID : UUID) (codeHash : Text)
  deriving DecidableEq

structure State where
  now : ℕ
  db : Tables
  loginLimiter : RateLimiter
  mfaLimiter : RateLimiter
  threads : ReqID → Option Thread
  /-- The requests that have begun. -/
  begun : List ReqID
  history : List Event

def State.init : State where
  now := 0
  db := .empty
  loginLimiter := .new 10 minute
  mfaLimiter := .new 5 minute
  threads _ := none
  begun := []
  history := []

inductive Outcome
  | ok
  /-- The statement has no effect, and the caller gets an error. -/
  | failed
  /-- The statement takes effect, and the caller gets an error. -/
  | lost
  deriving DecidableEq

inductive Label
  | tick (now : ℕ)
  | start (req : ReqID) (client : Client) (r : Request)
  /-- A call of `ConsumeRecoveryCode`. -/
  | recover (req : ReqID) (userID : UUID) (code : Text)
  /-- The request `req` executes its next statement. -/
  | exec (req : ReqID) (out : Outcome) (choice : Choice)
  /-- A statement of the user administration. -/
  | admin (w : Write)

/-! ### Statements -/

/-- What a statement does: what it writes, what is remembered, and how the request goes on. -/
structure Effect where
  write : Write := .none
  events : List Event := []
  next : Option Thread := none

/-- The first user with the name. -/
def State.getByUsername (cfg : Config) (s : State) (username : Text) : Option User :=
  s.db.users.find? fun u ↦ cfg.sameName u.username username

namespace Thread

variable (cfg : Config) (s : State) (req : ReqID) (choice : Choice)

/-- The next statement of a request, when the caller gets no error. -/
def run : Thread → Effect
  | login username password client =>
    match s.getByUsername cfg username with
    | none => {}
    | some user =>
      if user.status ≠ .active then {}
      else if user.Locked s.now then {}
      else
        match cfg.verifyPassword password user.passwordHash with
        | none => {}
        | some false => { next := some (registerFailed user.id) }
        | some true =>
          { events := [.password req .login user.id password]
            next := some (checkMFA user.id user.mfaRequired client) }
  | checkMFA userID mfaRequired client =>
    if ∃ m ∈ s.db.mfa userID, m.confirmedAt ≠ none then
      { next := some (createChallenge userID client) }
    else if cfg.requireMFA ∨ mfaRequired then { next := some (beginSetup userID) }
    else { next := some (resetFailed userID .login client) }
  | beginSetup userID => { write := .storeSecret userID choice.secret }
  | createChallenge userID client =>
    { write := .insertChallenge choice.id
        { userID, createdAt := s.now, expiresAt := s.now + 5 * minute, attempts := 0,
          consumedAt := none, ip := client.ip, issuedBy := req } }
  | completeMFA cid code client =>
    match s.db.challenges cid with
    | none => {}
    | some c =>
      if c.Open s.now then { next := some (validateCode cid c.userID code client) } else {}
  | validateCode cid userID code client =>
    match s.db.mfa userID with
    -- `ErrMFANotConfigured` is treated as a wrong code
    | none => { next := some (countAttempt cid) }
    | some m =>
      if m.confirmedAt = none then { next := some (countAttempt cid) }
      else
        { events := [.evaluated req userID (some cid) code m.secret
            (cfg.validate code m.secret s.now)]
          next := some (if cfg.validate code m.secret s.now then consume cid userID client
            else countAttempt cid) }
  | countAttempt cid => { write := .countAttempt cid }
  | consume cid userID client =>
    { write := .consumeChallenge cid, next := some (resetFailed userID (.challenge cid) client) }
  -- neither the status of the user nor `locked_until` is looked at
  | setupConfirm username password code client =>
    match s.getByUsername cfg username with
    | none => {}
    | some user =>
      if cfg.verifyPassword password user.passwordHash = some true then
        { events := [.password req .setupConfirm user.id password]
          next := some (confirmLoad user.id code client) }
      else { next := some (registerFailed user.id) }
  | confirmLoad userID code client =>
    match s.db.mfa userID with
    | none => {}
    | some m =>
      if m.confirmedAt ≠ none then {}
      else
        { events := [.evaluated req userID none code m.secret (cfg.validate code m.secret s.now)]
          next := if cfg.validate code m.secret s.now then
              some (confirmUpdate userID m.secret choice.recoveryCodes client)
            else none }
  | confirmUpdate userID secret codes client =>
    { write := .confirmMFA userID (codes.map cfg.hashRecoveryCode)
      events := [.confirmed req userID secret codes]
      next := some (resetFailed userID .setup client) }
  | registerFailed userID => { write := .registerFailedLogin userID }
  | resetFailed userID via client =>
    { write := .resetFailedLogins userID, next := some (createSession userID via client) }
  | createSession userID via client =>
    { write := .insertSession
        { id := choice.id, userID,
          tokenHash := cfg.hashToken (encodeToken (List.ofFn choice.token)),
          createdAt := s.now, lastSeenAt := s.now, expiresAt := s.now + cfg.absoluteTTL,
          idleExpiresAt := s.now + cfg.idleTTL, ip := client.ip, userAgent := client.userAgent,
          createdBy := req, via } }
  | recover userID code =>
    match s.db.mfa userID with
    | none => {}
    | some m =>
      if m.recoveryCodeHashes.contains (cfg.hashRecoveryCode code) then
        { next := some (recoverUpdate userID (cfg.hashRecoveryCode code) m.recoveryCodeHashes) }
      else {}
  | recoverUpdate userID codeHash recoveryCodeHashes =>
    -- the first hash that is equal is taken out
    { write := .setRecoveryCodeHashes userID (recoveryCodeHashes.erase codeHash)
      events := [.accepted req userID codeHash] }

/-- How a request goes on when the caller gets an error. -/
def onError : Thread → Option Thread
  | resetFailed userID via client => some (createSession userID via client)
  | _ => none

/-- The next statement of a request. -/
def effect (out : Outcome) (th : Thread) : Effect :=
  match out with
  | .ok => th.run cfg s req choice
  | .failed => { next := th.onError }
  | .lost => { write := (th.run cfg s req choice).write, next := th.onError }

end Thread

/-- What is remembered of a write: that a recovery code was consumed. -/
def Write.events : Write → List Event
  | .setRecoveryCodeHashes userID _ => [.recovered userID]
  | _ => []

/-- The statements of the user administration. -/
def Write.Administrative : Write → Prop
  | .createUser _ _ _ | .setStatus _ _ | .setMFARequired _ _ | .updatePasswordHash _ _ => True
  | _ => False

instance : DecidablePred Write.Administrative := by
  rintro (_ | _) <;> unfold Write.Administrative <;> infer_instance

namespace State

variable (cfg : Config) (s : State)

def setThread (req : ReqID) (th : Option Thread) : State :=
  { s with threads := Function.update s.threads req th }

/-- The effect of a statement. -/
def commit (req : ReqID) (e : Effect) : State :=
  { s.setThread req e.next with
    db := s.db.apply s.now e.write
    history := s.history ++ e.write.events ++ e.events }

/-- The request `req` executes its next statement. -/
def execute (req : ReqID) (out : Outcome) (choice : Choice) : Option State :=
  (s.threads req).bind fun th ↦
    let e := th.effect cfg s req choice out
    if e.write.Fits cfg.sameName s.db then some (s.commit req e) else none

/-- A request begins with the given thread, if it comes so far. -/
def begin (req : ReqID) (th : Option Thread) : Option State :=
  if req ∈ s.begun then none else some { s.setThread req th with begun := req :: s.begun }

/-- `LoginLimiter.Allow`, and then a thread. -/
def limitLogin (key : Text) (req : ReqID) (th : Thread) : Option State :=
  { s with loginLimiter := s.loginLimiter.allow s.now key }.begin req
    (if s.loginLimiter.Allows s.now key then some th else none)

/-- `MFALimiter.Allow`, and then a thread, if there is one. -/
def limitMFA (key : Text) (req : ReqID) (th : Option Thread) : Option State :=
  { s with mfaLimiter := s.mfaLimiter.allow s.now key }.begin req
    (if s.mfaLimiter.Allows s.now key then th else none)

/-- A handler is called. Until it has asked its limiter, it makes no statement. -/
def start (req : ReqID) (client : Client) : Request → Option State
  | .login username password =>
    if username = [] ∨ password = [] then s.begin req none
    else s.limitLogin (['l', 'o', 'g', 'i', 'n', ':'] ++ client.ip) req
      (.login username password client)
  | .totp challengeID code =>
    if challengeID = [] ∨ code = [] then s.begin req none
    else s.limitMFA (['m', 'f', 'a', ':'] ++ challengeID) req
      ((Uuid.parse challengeID).map fun cid ↦ .completeMFA cid code client)
  | .setupConfirm username password code =>
    if username = [] ∨ password = [] ∨ code = [] then s.begin req none
    else s.limitLogin (['m', 'f', 'a', '-', 's', 'e', 't', 'u', 'p', ':'] ++ client.ip) req
      (.setupConfirm username password code client)

/-- One step of the server. -/
def step : Label → Option State
  | .tick now => if s.now ≤ now then some { s with now } else none
  | .start req client r => s.start req client r
  | .recover req userID code => s.begin req (some (.recover userID code))
  | .exec req out choice => s.execute cfg req out choice
  | .admin w =>
    if w.Administrative ∧ w.Fits cfg.sameName s.db then
      some { s with db := s.db.apply s.now w } else none

end State

/-! ### A server with one user -/

namespace Sample

/-- Passwords and secrets stand for themselves. -/
def cfg : Config where
  verifyPassword password hash := some (password = hash)
  validate code secret _ := code = secret
  sameName x y := x = y
  sha256 := id
  requireMFA := true
  absoluteTTL := 720 * minute
  idleTTL := 30 * minute

def client : Client where
  ip := ['1']
  userAgent := []

def choice (n : ℕ) (secret : Text) : Choice where
  id := n
  secret := secret
  token _ := UInt8.ofNat n
  recovery i _ := UInt8.ofNat (n + i)

/-- The statements of a request, all of them with the same generated values. -/
def statements (req : ReqID) (c : Choice) (n : ℕ) : List Label :=
  List.replicate n (.exec req .ok c)

/-- The user logs in for the first time, with the secret `k`, and confirms it. -/
def setup : List Label :=
  [.admin (.createUser 1 ['u'] ['p']), .start 0 client (.login ['u'] ['p'])] ++
    statements 0 (choice 5 ['k']) 3 ++ [.start 1 client (.setupConfirm ['u'] ['p'] ['k'])] ++
    statements 1 (choice 6 []) 5

/-- The user logs in, and a challenge is issued. -/
def login (req : ReqID) : List Label :=
  .start req client (.login ['u'] ['p']) :: statements req (choice 7 []) 3

/-- The challenge, as it is printed. -/
def challengeID : Text :=
  List.replicate 8 '0' ++ ['-', '0', '0', '0', '0', '-', '0', '0', '0', '0', '-', '0', '0', '0',
    '0', '-'] ++ List.replicate 11 '0' ++ ['7']

/-- The challenge is completed with the right code. -/
def complete (req : ReqID) : List Label :=
  .start req client (.totp challengeID ['k']) :: statements req (choice (10 + req) []) 5

end Sample

end WartungsRemote.Auth
