import WartungsRemote.Auth.Requests
import WartungsRemote.Transition.History

/-!
# Web sessions

`auth.SessionStore`: a session is created with two times at which it ends, one that never changes
and one that every `Validate` that finds the session valid moves on. `Validate` reads the row, looks
at the clock, and **slides** the second time with an `UPDATE` of its own, so that several calls can
be at any of these places for the same session, and the update made last need not be the one of the
latest call. A revocation may come at any point in between.

Whatever the schedule, a `Validate` that succeeds finds a live session (`validatesLive`). The
invariant is about rows, whether they are stored or in the hands of a call: the two times of a row
are those of a creation or a slide in the past (`Backed`). An `UPDATE` whose reply is lost slides
the session although its `Validate` returns an error, so that the session can outlive every call
that succeeded (`not_validatesLive_alive`).

The database keeps whole microseconds.
-/

namespace WartungsRemote.Auth.SessionStore

open Transition List

/-- What the store is configured with. `hashToken` is SHA-256 of the token. -/
structure Config where
  absoluteTTL : ℕ
  idleTTL : ℕ
  hashToken : Text → List UInt8

/-- A row of `user_sessions`. -/
structure Session where
  id : UUID
  userID : UUID
  tokenHash : List UInt8
  createdAt : ℕ
  lastSeenAt : ℕ
  expiresAt : ℕ
  idleExpiresAt : ℕ
  revokedAt : Option ℕ
  ip : Option Text
  userAgent : Text
  deriving DecidableEq

/-- A time as it is stored: what is below a microsecond is cut off. -/
def timestamptz (t : ℕ) : ℕ :=
  t / 1000 * 1000

theorem timestamptz_le (t : ℕ) : timestamptz t ≤ t :=
  Nat.div_mul_le_self t 1000

/-- A call of the store, by the place it has reached. -/
inductive Call
  /-- `Create` has the token and the time; the row is not inserted, and has no id yet. -/
  | creating (sess : Session)
  /-- `Validate` has read the row. -/
  | loaded (token : Text) (sess : Session)
  /-- `Validate` has looked at the clock and found the session valid; the row is not updated. -/
  | sliding (token : Text) (sess : Session) (now : ℕ)

/-- The table and the calls in progress. -/
structure State where
  now : ℕ
  rows : List Session
  calls : ℕ → Option Call
  /-- The calls that have begun. -/
  begun : List ℕ

def State.init : State where
  now := 0
  rows := []
  calls _ := none
  begun := []

inductive Label
  | tick (d : ℕ)
  /-- `Create` generates a token and looks at the clock. -/
  | create (n : ℕ) (userID : UUID) (token ip userAgent : Text)
  /-- `Create` inserts the row, for which the database generates the id. -/
  | insert (n : ℕ) (id : UUID) (out : Outcome)
  /-- `Validate` reads the row. -/
  | load (n : ℕ) (token : Text) (ok : Bool)
  /-- `Validate` looks at the clock. -/
  | check (n : ℕ)
  /-- `Validate` updates the row. -/
  | slide (n : ℕ) (out : Outcome)
  | revoke (sessionID : UUID)
  | revokeAllForUser (userID : UUID)

namespace State

variable (cfg : Config) (s : State)

def setCall (n : ℕ) (call : Option Call) : State :=
  { s with calls := Function.update s.calls n call }

/-- A call begins. -/
def begin (n : ℕ) (call : Option Call) : Option State :=
  if n ∈ s.begun then none else some { s.setCall n call with begun := n :: s.begun }

/-- `Create`, up to the statement. -/
def create (n : ℕ) (userID : UUID) (token ip userAgent : Text) : Option State :=
  s.begin n (some (.creating
    { id := 0, userID, tokenHash := cfg.hashToken token, createdAt := s.now, lastSeenAt := s.now,
      expiresAt := s.now + cfg.absoluteTTL, idleExpiresAt := s.now + cfg.idleTTL, revokedAt := none,
      ip := if ip = [] then none else some ip, userAgent }))

/-- The row as it is stored under an id. -/
def stored (sess : Session) (id : UUID) : Session :=
  { sess with
    id
    createdAt := timestamptz sess.createdAt
    lastSeenAt := timestamptz sess.lastSeenAt
    expiresAt := timestamptz sess.expiresAt
    idleExpiresAt := timestamptz sess.idleExpiresAt }

local instance instLawfulBEqHash : LawfulBEq (List UInt8) := inferInstance

/-- The `INSERT` of `Create`. The id is new; a hash that is there already makes it fail. -/
def insert (n : ℕ) (id : UUID) (out : Outcome) : Option State :=
  match s.calls n with
  | some (.creating sess) =>
    if id ∈ s.rows.map Session.id then none
    else if out ≠ .failed ∧ sess.tokenHash ∉ s.rows.map Session.tokenHash then
      some { s.setCall n none with rows := s.rows ++ [stored sess id] }
    else some (s.setCall n none)
  | _ => none

/-- The `SELECT` of `Validate`; without a row it returns. -/
def load (n : ℕ) (token : Text) (ok : Bool) : Option State :=
  s.begin n (if ok then (s.rows.find? fun r ↦ r.tokenHash = cfg.hashToken token).map (.loaded token)
    else none)

/-- The checks of `Validate` on the row that it has read. -/
def check (n : ℕ) : Option State :=
  match s.calls n with
  | some (.loaded token sess) =>
    if sess.revokedAt ≠ none then some (s.setCall n none)
    else if s.now > sess.expiresAt ∨ s.now > sess.idleExpiresAt then some (s.setCall n none)
    else some (s.setCall n (some (.sliding token sess s.now)))
  | _ => none

/-- The time to which `Validate` moves the end of an idle session. -/
def newIdle (sess : Session) (now : ℕ) : ℕ :=
  if now + cfg.idleTTL > sess.expiresAt then sess.expiresAt else now + cfg.idleTTL

/-- The `UPDATE` of `Validate`. -/
def slide (n : ℕ) (out : Outcome) : Option State :=
  match s.calls n with
  | some (.sliding _ sess now) =>
    some { s.setCall n none with
      rows := if out ≠ .failed then
          s.rows.map fun r ↦
            if r.id = sess.id then
              { r with
                lastSeenAt := timestamptz now
                idleExpiresAt := timestamptz (newIdle cfg sess now) }
            else r
        else s.rows }
  | _ => none

/-- `UPDATE user_sessions SET revoked_at = now() WHERE ... AND revoked_at IS NULL`. -/
def revokeWhere (p : Session → Bool) : State :=
  { s with
    rows := s.rows.map fun r ↦
      if p r && decide (r.revokedAt = none) then { r with revokedAt := some s.now } else r }

end State

/-- One step of the store. -/
def step (cfg : Config) (s : State) : Label → Option State
  | .tick d => some { s with now := s.now + d }
  | .create n userID token ip userAgent => s.create cfg n userID token ip userAgent
  | .insert n id out => s.insert n id out
  | .load n token ok => s.load cfg n token ok
  | .check n => s.check n
  | .slide n out => s.slide cfg n out
  | .revoke sessionID => some (s.revokeWhere fun r ↦ r.id = sessionID)
  | .revokeAllForUser userID => some (s.revokeWhere fun r ↦ r.userID = userID)

/-! ### What has happened -/

inductive Event
  /-- A session was created, with the clock of its `Create`. -/
  | created (id : UUID) (tokenHash : List UInt8) (now : ℕ)
  /-- A `Validate` has read the row of a session. -/
  | read (n : ℕ) (id : UUID)
  /-- A `Validate` has succeeded, with its clock. -/
  | validated (n : ℕ) (token : Text) (id : UUID) (now : ℕ)
  /-- A `Validate` has slid a session and returned an error, with its clock. -/
  | slid (id : UUID) (now : ℕ)
  /-- A revocation of a session has committed. -/
  | revoked (id : UUID)
  deriving DecidableEq

/-- The session that a `Validate` returns as valid, with the token and the clock. -/
def State.validates (s : State) : Label → Option (ℕ × Text × UUID × ℕ)
  | .slide n .ok =>
    match s.calls n with
    | some (.sliding token sess now) => some (n, token, sess.id, now)
    | _ => none
  | _ => none

/-- What happens in a step. -/
def State.events (s : State) (t : State) : Label → List Event
  | .insert n id _ =>
    match s.calls n with
    | some (.creating sess) =>
      if id ∈ t.rows.map Session.id then [.created id sess.tokenHash sess.createdAt] else []
    | _ => []
  | .load n _ _ =>
    match t.calls n with
    | some (.loaded _ sess) => [.read n sess.id]
    | _ => []
  | .slide n out =>
    match s.calls n, out with
    | some (.sliding token sess now), .ok => [.validated n token sess.id now]
    | some (.sliding _ sess now), .lost => [.slid sess.id now]
    | _, _ => []
  | .revoke sessionID => (s.rows.filter fun r ↦ r.id = sessionID).map fun r ↦ .revoked r.id
  | .revokeAllForUser userID => (s.rows.filter fun r ↦ r.userID = userID).map fun r ↦ .revoked r.id
  | .tick _ | .create _ _ _ _ _ | .check _ => []

/-- The events of a run, the latest first. -/
abbrev History : Type := List Event

def History.record (h : History) (s : State) (l : Label) (t : State) : History :=
  s.events t l ++ h

/-- The store, and what has happened. -/
abbrev Recorded : Type := State × History

abbrev recordedStep (cfg : Config) : Recorded → Label → Option Recorded :=
  withHistory (step cfg) History.record

/-- The session was created, or a `Validate` of it has succeeded, with the clock at `now`. -/
def History.Alive (h : History) (id : UUID) (now : ℕ) : Prop :=
  (∃ hash, .created id hash now ∈ h) ∨ ∃ n token, .validated n token id now ∈ h

/-- The session was created, or a `Validate` of it has slid it, with the clock at `now`. -/
def History.Kept (h : History) (id : UUID) (now : ℕ) : Prop :=
  h.Alive id now ∨ .slid id now ∈ h

/-- When the call read the row, no revocation of the session had committed. -/
def History.ReadBeforeRevoked (h : History) (n : ℕ) (id : UUID) : Prop :=
  ∃ later earlier, h = later ++ .read n id :: earlier ∧ (∀ id', .read n id' ∉ later) ∧
    .revoked id ∉ earlier

/-- **A `Validate` succeeds only for a session that has not ended**: created at most `absoluteTTL`
before the clock of the call, active at most `idleTTL` before, and not revoked when the call read
it. -/
def ValidatesLive (cfg : Config) (Active : History → UUID → ℕ → Prop) (w : Recorded) (l : Label)
    (_ : Recorded) : Prop :=
  ∀ n token id now, w.1.validates l = some (n, token, id, now) →
    (∃ created, .created id (cfg.hashToken token) created ∈ w.2 ∧ created ≤ now ∧
      now ≤ created + cfg.absoluteTTL) ∧
    (∃ active, Active w.2 id active ∧ active ≤ now ∧ now ≤ active + cfg.idleTTL) ∧
    w.2.ReadBeforeRevoked n id

variable {cfg : Config} {s t : State} {l : Label} {w w' : Recorded} {h h' : History} {r : Session}

/-! ### The cases of a step -/

/-- The ways a step can go, with the events recorded. -/
inductive Step (cfg : Config) (s : State) : Label → State → List Event → Prop
  | tick (d : ℕ) : Step cfg s (.tick d) { s with now := s.now + d } []
  | created {n userID token ip userAgent sess} (fresh : n ∉ s.begun)
      (createdAt : sess.createdAt = s.now) (expiresAt : sess.expiresAt = s.now + cfg.absoluteTTL)
      (idleExpiresAt : sess.idleExpiresAt = s.now + cfg.idleTTL)
      (unrevoked : sess.revokedAt = none) : Step cfg s (.create n userID token ip userAgent)
        { s.setCall n (some (.creating sess)) with begun := n :: s.begun } []
  | inserted {n id out sess} (call : s.calls n = some (.creating sess))
      (fresh : id ∉ s.rows.map Session.id) :
      Step cfg s (.insert n id out)
      { s.setCall n none with rows := s.rows ++ [State.stored sess id] }
        [.created id sess.tokenHash sess.createdAt]
  | loaded {n token ok sess} (fresh : n ∉ s.begun) (mem : sess ∈ s.rows)
      (hash : sess.tokenHash = cfg.hashToken token) :
      Step cfg s (.load n token ok)
      { s.setCall n (some (.loaded token sess)) with begun := n :: s.begun }
        [.read n sess.id]
  /-- There is no row, or the statement has failed. -/
  | missed {n token ok} (fresh : n ∉ s.begun) :
      Step cfg s (.load n token ok) { s.setCall n none with begun := n :: s.begun } []
  | checked {n token sess} (call : s.calls n = some (.loaded token sess))
      (unrevoked : sess.revokedAt = none) (expiresAt : s.now ≤ sess.expiresAt)
      (idleExpiresAt : s.now ≤ sess.idleExpiresAt) :
      Step cfg s (.check n) (s.setCall n (some (.sliding token sess s.now))) []
  | slid {n out token sess now e} (call : s.calls n = some (.sliding token sess now))
      (event : out = .ok ∧ e = .validated n token sess.id now ∨ out = .lost ∧
        e = .slid sess.id now) :
      Step cfg s (.slide n out)
        { s.setCall n none with
          rows := s.rows.map fun r ↦
            if r.id = sess.id then
              { r with
                lastSeenAt := timestamptz now
                idleExpiresAt := timestamptz (State.newIdle cfg sess now) }
            else r }
        [e]
  /-- A call returns an error. -/
  | returned {n} {l : Label}
      (l_eq : (∃ id out, l = .insert n id out) ∨ l = .check n ∨ l = .slide n .failed) :
      Step cfg s l (s.setCall n none) []
  | revoked {l : Label} {p}
      (l_eq : (∃ id, l = .revoke id ∧ p = fun r ↦ decide (r.id = id)) ∨
        ∃ userID, l = .revokeAllForUser userID ∧ p = fun r ↦ decide (r.userID = userID)) :
      Step cfg s l (s.revokeWhere p) ((s.rows.filter p).map fun r ↦ .revoked r.id)

variable {n now : ℕ} {es : List Event}

theorem begin_eq_some_iff {call : Option Call} :
    s.begin n call = some t ↔ n ∉ s.begun ∧
      t = { s.setCall n call with begun := n :: s.begun } := by
  unfold State.begin
  split <;> simp_all [eq_comm]

variable {ok : Bool} {out : Outcome} {token : Text} {now' : ℕ}

theorem step_insert {id : UUID} (h : s.insert n id out = some t) :
    Step cfg s (.insert n id out) t (s.events t (.insert n id out)) := by
  unfold State.insert at h
  split at h
  next sess hcall =>
    split at h
    · cases h
    next hnew =>
      split at h
      · cases h
        convert Step.inserted hcall hnew using 1
        simp [State.events, hcall, State.stored]
      · cases h
        convert Step.returned (.inl ⟨id, out, rfl⟩) using 1
        simp only [State.events, hcall]
        exact if_neg hnew
  · cases h

theorem step_load (h : s.load cfg n token ok = some t) :
    Step cfg s (.load n token ok) t (s.events t (.load n token ok)) := by
  obtain ⟨hnew, rfl⟩ := begin_eq_some_iff.1 h
  cases hfnd : (if ok then (s.rows.find? fun r ↦ r.tokenHash = cfg.hashToken token).map
      (Call.loaded token) else none) with
  | none =>
    convert Step.missed hnew using 1
    simp [State.events, State.setCall]
  | some call =>
    obtain ⟨sess, hsess, rfl⟩ : ∃ sess, (s.rows.find? fun r ↦ r.tokenHash = cfg.hashToken token) =
        some sess ∧ Call.loaded token sess = call := by
      split at hfnd
      · exact Option.map_eq_some_iff.1 hfnd
      · cases hfnd
    convert Step.loaded hnew (mem_of_find?_eq_some hsess) (by simpa using find?_some hsess) using 1
    simp [State.events, State.setCall]

theorem step_check (h : s.check n = some t) : Step cfg s (.check n) t [] := by
  unfold State.check at h
  split at h
  next token sess hcall =>
    split at h
    · exact Option.some.inj h ▸ .returned (.inr (.inl rfl))
    next hrev =>
      split at h
      · exact Option.some.inj h ▸ .returned (.inr (.inl rfl))
      next hexpired =>
        rw [not_or, Nat.not_lt, Nat.not_lt] at hexpired
        exact Option.some.inj h ▸ .checked hcall (by simpa using hrev) hexpired.1 hexpired.2
  · cases h

theorem step_slide (h : s.slide cfg n out = some t) :
    Step cfg s (.slide n out) t (s.events t (.slide n out)) := by
  unfold State.slide at h
  split at h
  next token sess now hcall =>
    cases out with
    | ok =>
      have hevs : s.events t (.slide n .ok) = [.validated n token sess.id now] := by
        simp [State.events, hcall]
      rw [hevs]
      exact Option.some.inj h ▸ .slid hcall (.inl ⟨rfl, rfl⟩)
    | lost =>
      have hevs : s.events t (.slide n .lost) = [.slid sess.id now] := by
        simp [State.events, hcall]
      rw [hevs]
      exact Option.some.inj h ▸ .slid hcall (.inr ⟨rfl, rfl⟩)
    | failed =>
      have hevs : s.events t (.slide n .failed) = [] := by simp [State.events]
      rw [hevs]
      exact Option.some.inj h ▸ .returned (.inr (.inr rfl))
  · cases h

theorem step_cases (h : step cfg s l = some t) : Step cfg s l t (s.events t l) := by
  cases l with
  | tick d => exact Option.some.inj h ▸ .tick d
  | create =>
    obtain ⟨hnew, rfl⟩ := begin_eq_some_iff.1 h
    exact .created hnew rfl rfl rfl rfl
  | insert => exact step_insert h
  | load => exact step_load h
  | check => exact step_check h
  | slide => exact step_slide h
  | revoke sessionID => exact Option.some.inj h ▸ .revoked (.inl ⟨sessionID, rfl, rfl⟩)
  | revokeAllForUser userID => exact Option.some.inj h ▸ .revoked (.inr ⟨userID, rfl, rfl⟩)

/-! ### Rows and what is behind them -/

theorem History.Kept.mono {id : UUID} (hkept : h.Kept id now) (hsub : h ⊆ h') : h'.Kept id now := by
  obtain (⟨hash, hmem⟩ | ⟨n, token, hmem⟩) | hmem := hkept
  · exact .inl (.inl ⟨hash, hsub hmem⟩)
  · exact .inl (.inr ⟨n, token, hsub hmem⟩)
  · exact .inr (hsub hmem)

/-- The row has been created, and its end goes back to a creation or a slide not after `now`. -/
structure Backed (cfg : Config) (h : History) (now : ℕ) (r : Session) : Prop where
  created : ∃ created, .created r.id r.tokenHash created ∈ h ∧ created ≤ now ∧
    r.expiresAt ≤ created + cfg.absoluteTTL
  active : ∃ active, h.Kept r.id active ∧ active ≤ now ∧ r.idleExpiresAt ≤ active + cfg.idleTTL

theorem Backed.mono (hr : Backed cfg h now r) (hsub : h ⊆ h') (hle : now ≤ now') :
    Backed cfg h' now' r where
  created := hr.created.imp fun _ ⟨hmem, hpast, hend⟩ ↦ ⟨hsub hmem, hpast.trans hle, hend⟩
  active := hr.active.imp fun _ ⟨hkept, hpast, hend⟩ ↦ ⟨hkept.mono hsub, hpast.trans hle, hend⟩

/-- What is recorded later does not change where a call has read. -/
theorem History.ReadBeforeRevoked.append {id : UUID} (hread : h.ReadBeforeRevoked n id)
    (hes : ∀ id', .read n id' ∉ es) : History.ReadBeforeRevoked (es ++ h) n id := by
  obtain ⟨later, earlier, rfl, hlater, hearl⟩ := hread
  refine ⟨es ++ later, earlier, (append_assoc ..).symm, fun id' hmem ↦ ?_, hearl⟩
  rcases mem_append.1 hmem with hmem | hmem
  · exact hes id' hmem
  · exact hlater id' hmem

/-- What a call knows at the place that it has reached. -/
def Call.Fits (cfg : Config) (h : History) (now : ℕ) (n : ℕ) : Call → Prop
  | .creating sess => sess.createdAt ≤ now ∧ sess.expiresAt = sess.createdAt + cfg.absoluteTTL ∧
      sess.idleExpiresAt = sess.createdAt + cfg.idleTTL ∧ sess.revokedAt = none
  | .loaded token sess => Backed cfg h now sess ∧ sess.tokenHash = cfg.hashToken token ∧
      (sess.revokedAt = none → h.ReadBeforeRevoked n sess.id)
  | .sliding token sess checked => checked ≤ now ∧ Backed cfg h checked sess ∧
      sess.tokenHash = cfg.hashToken token ∧ h.ReadBeforeRevoked n sess.id ∧
        checked ≤ sess.expiresAt ∧
      checked ≤ sess.idleExpiresAt

theorem Call.Fits.append {call : Call} (hcall : call.Fits cfg h now n) (hes : ∀ id, .read n id ∉ es)
    (hle : now ≤ now') : call.Fits cfg (es ++ h) now' n := by
  have hsub : h ⊆ es ++ h := subset_append_right es h
  cases call with
  | creating => exact ⟨hcall.1.trans hle, hcall.2⟩
  | loaded =>
    exact ⟨hcall.1.mono hsub hle, hcall.2.1, fun hrev ↦ (hcall.2.2 hrev).append hes⟩
  | sliding =>
    obtain ⟨hpast, hback, hhash, hread, hend⟩ := hcall
    exact ⟨hpast.trans hle, hback.mono hsub le_rfl, hhash, hread.append hes, hend⟩

/-- **The invariant of the store**: rows and calls are backed by the history. -/
structure StoreInv (cfg : Config) (w : Recorded) : Prop where
  ids : (w.1.rows.map Session.id).Nodup
  backed : ∀ r ∈ w.1.rows, Backed cfg w.2 w.1.now r
  revoked : ∀ r ∈ w.1.rows, .revoked r.id ∈ w.2 → r.revokedAt ≠ none
  known : ∀ id, .revoked id ∈ w.2 → id ∈ w.1.rows.map Session.id
  read : ∀ n id, .read n id ∈ w.2 → n ∈ w.1.begun
  calls : ∀ n call, w.1.calls n = some call → n ∈ w.1.begun ∧ call.Fits cfg w.2 w.1.now n

theorem storeInv_init : StoreInv cfg (.init, []) := by
  constructor <;> simp [State.init]

theorem now_le_of_step (hs : Step cfg s l t es) : s.now ≤ t.now := by
  cases hs with
  | tick => exact Nat.le_add_right _ _
  | _ => exact le_rfl

theorem ids_of_step (hs : Step cfg s l t es) : t.rows.map Session.id = s.rows.map Session.id ∨
    ∃ id ∉ s.rows.map Session.id, t.rows.map Session.id = s.rows.map Session.id ++ [id] := by
  -- an `UPDATE` leaves the ids
  have hupd (f : Session → Session) (hf : ∀ r, (f r).id = r.id) :
      (s.rows.map f).map Session.id = s.rows.map Session.id := by
    have hids : Session.id ∘ f = Session.id := funext hf
    rw [map_map, hids]
  cases hs with
  | inserted _ hnew => exact .inr ⟨_, hnew, map_append⟩
  | slid | revoked => exact .inl (hupd _ fun r ↦ by split <;> rfl)
  | _ => exact .inl rfl

theorem read_of_step (hs : Step cfg s l t es) {id : UUID} (hmem : .read n id ∈ es) :
    n ∉ s.begun ∧ n ∈ t.begun := by
  cases hs with
  | loaded hnew =>
    cases mem_singleton.1 hmem
    exact ⟨hnew, mem_cons_self⟩
  | inserted => cases mem_singleton.1 hmem
  | slid _ hev =>
    cases mem_singleton.1 hmem
    obtain ⟨-, ⟨⟩⟩ | ⟨-, ⟨⟩⟩ := hev
  | revoked =>
    obtain ⟨r, -, hr⟩ := mem_map.1 hmem
    cases hr
  | _ => cases hmem

theorem begun_of_step (hs : Step cfg s l t es) (hn : n ∈ s.begun) : n ∈ t.begun := by
  cases hs with
  | created | loaded | missed => exact mem_cons_of_mem _ hn
  | _ => exact hn

namespace StoreInv

variable {es : List Event}

section

variable (hw : StoreInv cfg w)
include hw

section

variable (hs : Step cfg w.1 l t es)
include hs

/-- Every row still goes back to a creation or a slide in the past. -/
theorem backed_of_step : ∀ r ∈ t.rows, Backed cfg (es ++ w.2) t.now r := by
  have hold : ∀ r ∈ w.1.rows, Backed cfg (es ++ w.2) t.now r := fun r hr ↦
    (hw.backed r hr).mono (subset_append_right _ _) (now_le_of_step hs)
  cases hs with
  | @inserted n _ _ sess hcall =>
    intro r hr
    obtain hr | rfl := mem_snoc.1 hr
    · exact hold r hr
    · obtain ⟨-, hpast, hexp, hidle, -⟩ := hw.calls n _ hcall
      refine ⟨⟨sess.createdAt, mem_cons_self, hpast, ?_⟩,
        sess.createdAt, .inl (.inl ⟨sess.tokenHash, mem_cons_self⟩), hpast, ?_⟩
      · exact hexp ▸ timestamptz_le _
      · exact hidle ▸ timestamptz_le _
  | @slid n _ token sess now _ hcall hev =>
    intro r hr
    obtain ⟨r₀, hr₀, rfl⟩ := mem_map.1 hr
    split
    next hid =>
      -- the row is kept by the call that slides it, whether or not the call succeeds
      obtain ⟨-, hpast, -⟩ := hw.calls n _ hcall
      refine ⟨(hold r₀ hr₀).created, now, ?_, hpast, ?_⟩
      · show History.Kept _ r₀.id now
        rw [hid]
        obtain ⟨-, rfl⟩ | ⟨-, rfl⟩ := hev
        · exact .inl (.inr ⟨n, token, mem_cons_self⟩)
        · exact .inr mem_cons_self
      · refine (timestamptz_le _).trans ?_
        show State.newIdle cfg sess now ≤ _
        unfold State.newIdle
        split
        next hlt => exact hlt.le
        · exact le_rfl
    · exact hold r₀ hr₀
  | revoked =>
    intro r hr
    obtain ⟨r₀, hr₀, rfl⟩ := mem_map.1 hr
    split
    · exact ⟨(hold r₀ hr₀).created, (hold r₀ hr₀).active⟩
    · exact hold r₀ hr₀
  | _ => exact hold

theorem ids_of_step : (t.rows.map Session.id).Nodup := by
  rcases SessionStore.ids_of_step hs with hids | ⟨id, hnew, hids⟩
  · exact hids ▸ hw.ids
  · simpa [hids] using Nodup.concat hnew hw.ids

theorem revoked_of_step : ∀ r ∈ t.rows, .revoked r.id ∈ es ++ w.2 → r.revokedAt ≠ none := by
  intro r hr hmem
  -- nothing is revoked in the step
  have hold : ∀ r₀ ∈ w.1.rows, r₀.id = r.id → r₀.revokedAt = r.revokedAt → .revoked r.id ∉ es →
      r.revokedAt ≠ none := by
    intro r₀ hr₀ hid heq hes
    have hpast := (mem_append.1 hmem).resolve_left hes
    exact heq ▸ hw.revoked r₀ hr₀ (hid ▸ hpast)
  cases hs with
  | inserted _ hnew =>
    obtain hr | rfl := mem_snoc.1 hr
    · exact hold r hr rfl rfl (by simp)
    · exact absurd (hw.known _ ((mem_append.1 hmem).resolve_left (by simp))) hnew
  | slid _ hev =>
    obtain ⟨r₀, hr₀, rfl⟩ := mem_map.1 hr
    refine hold r₀ hr₀ ?_ ?_ ?_
    · split <;> rfl
    · split <;> rfl
    · obtain ⟨-, rfl⟩ | ⟨-, rfl⟩ := hev <;> simp
  | @revoked _ p =>
    obtain ⟨r₀, hr₀, rfl⟩ := mem_map.1 hr
    by_cases hp : (p r₀ && decide (r₀.revokedAt = none)) = true
    · simp [hp]
    rw [if_neg hp] at hmem ⊢
    rcases mem_append.1 hmem with hmem | hmem
    · obtain ⟨r₁, hr₁, heq⟩ := mem_map.1 hmem
      obtain ⟨hr₁, hp₁⟩ := mem_filter.1 hr₁
      obtain rfl : r₁ = r₀ := inj_on_of_nodup_map hw.ids hr₁ hr₀ (Event.revoked.inj heq)
      simpa [hp₁] using hp
    · exact hw.revoked r₀ hr₀ hmem
  | loaded => exact hold r hr rfl rfl (by simp)
  | _ => exact hold r hr rfl rfl not_mem_nil

theorem known_of_step : ∀ id, .revoked id ∈ es ++ w.2 → id ∈ t.rows.map Session.id := by
  intro id hmem
  have hsub : w.1.rows.map Session.id ⊆ t.rows.map Session.id := by
    rcases SessionStore.ids_of_step hs with hids | ⟨_, -, hids⟩ <;> simp [hids]
  refine hsub ?_
  rcases mem_append.1 hmem with hmem | hmem
  · cases hs with
    | revoked =>
      obtain ⟨r, hr, heq⟩ := mem_map.1 hmem
      cases heq
      exact mem_map_of_mem (mem_filter.1 hr).1
    | inserted | loaded => cases mem_singleton.1 hmem
    | slid _ hev =>
      cases mem_singleton.1 hmem
      obtain ⟨-, ⟨⟩⟩ | ⟨-, ⟨⟩⟩ := hev
    | _ => cases hmem
  · exact hw.known id hmem

theorem calls_of_eq {n : ℕ} {call : Call} (hcall : w.1.calls n = some call) :
    n ∈ t.begun ∧ call.Fits cfg (es ++ w.2) t.now n := by
  obtain ⟨hbeg, hfits⟩ := hw.calls n call hcall
  exact ⟨begun_of_step hs hbeg,
    hfits.append (fun id hmem ↦ (read_of_step hs hmem).1 hbeg) (now_le_of_step hs)⟩

/-- What a call knows stays true while others make their steps. -/
theorem calls_of_step : ∀ n call, t.calls n = some call → n ∈ t.begun ∧
    call.Fits cfg (es ++ w.2) t.now n := by
  -- one call moves
  have hsame : ∀ m, ∀ c ∈ w.1.calls m, m ∈ t.begun ∧ c.Fits cfg (es ++ w.2) t.now m :=
    fun _ _ ↦ hw.calls_of_eq hs
  have hmov (n) (call : Option Call) (hcall) :=
    (Function.forall_update_iff (a := n) (b := call) w.1.calls fun m call ↦ ∀ c ∈ call,
      m ∈ t.begun ∧ c.Fits cfg (es ++ w.2) t.now m).2 ⟨hcall, fun m _ ↦ hsame m⟩
  cases hs with
  | tick | revoked => exact hsame
  | created _ hcreated hexp hidle hrev =>
    refine hmov _ _ fun c hc ↦ ⟨mem_cons_self, ?_⟩
    cases hc
    exact ⟨hcreated.le, hcreated ▸ hexp, hcreated ▸ hidle, hrev⟩
  | @loaded _ _ _ sess _ hmem hhash =>
    refine hmov _ _ fun c hc ↦ ⟨mem_cons_self, ?_⟩
    cases hc
    refine ⟨(hw.backed sess hmem).mono (subset_append_right _ _) le_rfl, hhash, fun hrev ↦ ?_⟩
    exact ⟨[], w.2, rfl, fun _ ↦ not_mem_nil, fun hpast ↦ hw.revoked sess hmem hpast hrev⟩
  | @checked n _ _ hcall hrev hexp hidle =>
    obtain ⟨hbeg, hback, hhash, hread⟩ := hw.calls n _ hcall
    refine hmov _ _ fun c hc ↦ ⟨hbeg, ?_⟩
    cases hc
    exact ⟨le_rfl, hback, hhash, hread hrev, hexp, hidle⟩
  | inserted | missed | slid | returned =>
    refine hmov _ _ fun c hc ↦ ?_
    cases hc

end

theorem step (h : recordedStep cfg w l = some w') : StoreInv cfg w' := by
  obtain ⟨t, hstep, rfl⟩ := withHistory_eq_some_iff.1 h
  have hs := step_cases hstep
  refine ⟨hw.ids_of_step hs, hw.backed_of_step hs, hw.revoked_of_step hs, hw.known_of_step hs,
    fun n id hmem ↦ ?_, hw.calls_of_step hs⟩
  rcases mem_append.1 hmem with hmem | hmem
  · exact (read_of_step hs hmem).2
  · exact SessionStore.begun_of_step hs (hw.read n id hmem)

end

end StoreInv

theorem validates_eq_some {id : UUID} (h : s.validates l = some (n, token, id, now)) :
    ∃ sess, s.calls n = some (.sliding token sess now) ∧ sess.id = id := by
  unfold State.validates at h
  split at h
  · split at h
    next sess _ hcall =>
      cases h
      exact ⟨_, hcall, rfl⟩
    · cases h
  · cases h

/-- **Web sessions expire and stay dead**, under every schedule, if a slide counts as activity
whether or not its `Validate` succeeds. -/
theorem validatesLive (cfg : Config) (ls : List Label) :
    Along (recordedStep cfg) (ValidatesLive cfg History.Kept) (.init, []) ls := by
  refine along_of_exec (I := StoreInv cfg) (fun _ _ _ hw h ↦ hw.step h) ?_ storeInv_init
  intro w l w' hw _ n token id now hval
  obtain ⟨_, hcall, rfl⟩ := validates_eq_some hval
  obtain ⟨-, -, hback, hhash, hread, hexp, hidle⟩ := hw.calls n _ hcall
  obtain ⟨created, hcreated, hpast, hend⟩ := hback.created
  obtain ⟨active, hkept, hpast', hend'⟩ := hback.active
  exact ⟨⟨created, hhash ▸ hcreated, hpast, hexp.trans hend⟩,
    ⟨active, hkept, hpast', hidle.trans hend'⟩, hread⟩

/-- **A revoked session stays revoked**, under every schedule, and is told from every other by its
id. -/
theorem staysRevoked (cfg : Config) (ls : List Label) :
    Along (recordedStep cfg) (fun _ _ w ↦ (w.1.rows.map Session.id).Nodup ∧
      ∀ id, .revoked id ∈ w.2 → ∃ r ∈ w.1.rows, r.id = id ∧ r.revokedAt ≠ none) (.init, []) ls := by
  refine along_of_exec (I := StoreInv cfg) (fun _ _ _ hw h ↦ hw.step h) (fun w l w' hw h ↦
    ?_) storeInv_init
  have hw' := hw.step h
  refine ⟨hw'.ids, fun id hid ↦ ?_⟩
  obtain ⟨r, hr, rfl⟩ := mem_map.1 (hw'.known id hid)
  exact ⟨r, hr, rfl, hw'.revoked r hr hid⟩

namespace Sample

def config : Config where
  absoluteTTL := 10000
  idleTTL := 4000
  hashToken token := token.map fun c ↦ c.toNat.toUInt8

/-- Two calls of `Validate` slide the same session, the earlier one last. -/
def outOfOrder : List Label :=
  [.create 0 7 ['t'] [] [], .insert 0 1 .ok, .tick 1000, .load 1 ['t'] true, .check 1, .tick 2000,
    .load 2 ['t'] true, .check 2, .slide 2 .ok, .slide 1 .ok, .tick 2000, .load 3 ['t'] true,
      .check 3]

/-- The client of a `Validate` is gone when its `UPDATE` is answered; a later one is about to
succeed. -/
def lostReply : List Label :=
  [.create 0 7 ['t'] [] [], .insert 0 1 .ok, .tick 3000, .load 1 ['t'] true, .check 1,
    .slide 1 .lost, .tick 2000, .load 2 ['t'] true, .check 2]

end Sample

/-- The idle session ends as the earlier call says, and the third `Validate` is just in time. -/
example : ((exec (recordedStep Sample.config) (.init, []) Sample.outOfOrder).map fun w ↦
    (w.1.rows.map Session.idleExpiresAt, w.1.validates (.slide 3 .ok))) =
      some ([5000], some (3, ['t'], 1, 5000)) := by
  rfl

/-- The session was created 5000 before the clock of the only call that succeeds. -/
theorem not_validatesLive_alive : ¬ Along (recordedStep Sample.config)
    (ValidatesLive Sample.config History.Alive) (.init, [])
    (Sample.lostReply ++ [.slide 2 .ok]) := by
  obtain ⟨w, hrun, hval, hhist, hstep⟩ :
      ∃ w, exec (recordedStep Sample.config) (.init, []) Sample.lostReply = some w ∧
        w.1.validates (.slide 2 .ok) = some (2, ['t'], 1, 5000) ∧
        w.2 = [.read 2 1, .slid 1 3000, .read 1 1, .created 1 (Sample.config.hashToken ['t']) 0] ∧
        (recordedStep Sample.config w (.slide 2 .ok)).isSome = true :=
    exists_of_exec _ (by decide +kernel) fun _ _ h ↦ h
  intro halong
  obtain ⟨w', hw'⟩ := Option.isSome_iff_exists.1 hstep
  obtain ⟨hlive, -⟩ := ((along_append hrun).1 halong).2 w' hw'
  obtain ⟨-, ⟨active, halive, -, hidle⟩, -⟩ := hlive 2 ['t'] 1 5000 hval
  -- the creation is the only sign of life, and it is too long ago
  obtain rfl : active = 0 := by simpa [History.Alive, hhist] using halive
  exact absurd hidle (by decide)

end WartungsRemote.Auth.SessionStore
