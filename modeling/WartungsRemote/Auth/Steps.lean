import WartungsRemote.Auth.Requests

/-!
# What a step of the login can do

`Move` lists what the next statement of a request does, one case for each statement and each
outcome; `Step` lists the steps of the server. The invariants are proved by cases on these.
-/

namespace WartungsRemote.Auth

open Function List State
open Transition (exec)

variable {cfg : Config} {s t : State} {l : Label} {req q : ReqID} {th : Thread} {e : Effect}

/-- What the next statement of the request `req` can do. -/
inductive Move (cfg : Config) (s : State) (req : ReqID) : Thread → Effect → Prop
  /-- The statement fails, or the request ends after a check. -/
  | stop {th : Thread} : Move cfg s req th {}
  | wrongLogin {username password client user}
      (huser : s.getByUsername cfg username = some user) (hact : user.status = .active)
      (hlock : ¬ user.Locked s.now)
      (hver : cfg.verifyPassword password user.passwordHash = some false) :
      Move cfg s req (.login username password client) { next := some (.registerFailed user.id) }
  | rightLogin {username password client user}
      (huser : s.getByUsername cfg username = some user) (hact : user.status = .active)
      (hlock : ¬ user.Locked s.now)
      (hver : cfg.verifyPassword password user.passwordHash = some true) :
      Move cfg s req (.login username password client)
        { events := [.password req .login user.id password]
          next := some (.checkMFA user.id user.mfaRequired client) }
  | challenged {userID mfaRequired client}
      (hconf : ∃ m ∈ s.db.mfa userID, m.confirmedAt ≠ none) :
      Move cfg s req (.checkMFA userID mfaRequired client)
        { next := some (.createChallenge userID client) }
  | unconfirmed {userID mfaRequired client} :
      Move cfg s req (.checkMFA userID mfaRequired client) { next := some (.beginSetup userID) }
  | exempt {userID mfaRequired client} (hrequire : cfg.requireMFA = false)
      (hreqd : mfaRequired = false) :
      Move cfg s req (.checkMFA userID mfaRequired client)
        { next := some (.resetFailed userID .login client) }
  | beginSetup {userID secret} :
      Move cfg s req (.beginSetup userID) { write := .storeSecret userID secret }
  | createChallenge {userID client id} :
      Move cfg s req (.createChallenge userID client)
        { write := .insertChallenge id
            { userID, createdAt := s.now, expiresAt := s.now + 5 * minute, attempts := 0,
              consumedAt := none, ip := client.ip, issuedBy := req } }
  | openChallenge {cid code client c}
      (hchal : s.db.challenges cid = some c) (hopen : c.Open s.now) :
      Move cfg s req (.completeMFA cid code client)
        { next := some (.validateCode cid c.userID code client) }
  | notConfigured {cid userID code client} :
      Move cfg s req (.validateCode cid userID code client) { next := some (.countAttempt cid) }
  | wrongCode {cid userID code client m}
      (hmfa : s.db.mfa userID = some m) (hconf : m.confirmedAt ≠ none)
      (hval : cfg.validate code m.secret s.now = false) :
      Move cfg s req (.validateCode cid userID code client)
        { events := [.evaluated req userID (some cid) code m.secret false]
          next := some (.countAttempt cid) }
  | rightCode {cid userID code client m}
      (hmfa : s.db.mfa userID = some m) (hconf : m.confirmedAt ≠ none)
      (hval : cfg.validate code m.secret s.now = true) :
      Move cfg s req (.validateCode cid userID code client)
        { events := [.evaluated req userID (some cid) code m.secret true]
          next := some (.consume cid userID client) }
  | countAttempt {cid} : Move cfg s req (.countAttempt cid) { write := .countAttempt cid }
  | consume {cid userID client} :
      Move cfg s req (.consume cid userID client)
        { write := .consumeChallenge cid
          next := some (.resetFailed userID (.challenge cid) client) }
  | consumeLost {cid userID client} :
      Move cfg s req (.consume cid userID client) { write := .consumeChallenge cid }
  | wrongSetup {username password code client user}
      (huser : s.getByUsername cfg username = some user)
      (hver : cfg.verifyPassword password user.passwordHash ≠ some true) :
      Move cfg s req (.setupConfirm username password code client)
        { next := some (.registerFailed user.id) }
  | rightSetup {username password code client user}
      (huser : s.getByUsername cfg username = some user)
      (hver : cfg.verifyPassword password user.passwordHash = some true) :
      Move cfg s req (.setupConfirm username password code client)
        { events := [.password req .setupConfirm user.id password]
          next := some (.confirmLoad user.id code client) }
  | wrongSetupCode {userID code client m}
      (hmfa : s.db.mfa userID = some m) (hconf : m.confirmedAt = none)
      (hval : cfg.validate code m.secret s.now = false) :
      Move cfg s req (.confirmLoad userID code client)
        { events := [.evaluated req userID none code m.secret false] }
  | rightSetupCode {userID code client m} {codes : List Text}
      (hmfa : s.db.mfa userID = some m) (hconf : m.confirmedAt = none)
      (hval : cfg.validate code m.secret s.now = true) :
      Move cfg s req (.confirmLoad userID code client)
        { events := [.evaluated req userID none code m.secret true]
          next := some (.confirmUpdate userID m.secret codes client) }
  | confirm {userID secret codes client} :
      Move cfg s req (.confirmUpdate userID secret codes client)
        { write := .confirmMFA userID (codes.map cfg.hashRecoveryCode)
          events := [.confirmed req userID secret codes]
          next := some (.resetFailed userID .setup client) }
  | confirmLost {userID secret codes client} :
      Move cfg s req (.confirmUpdate userID secret codes client)
        { write := .confirmMFA userID (codes.map cfg.hashRecoveryCode) }
  | registerFailed {userID} :
      Move cfg s req (.registerFailed userID) { write := .registerFailedLogin userID }
  | resetFailed {userID via client} :
      Move cfg s req (.resetFailed userID via client)
        { write := .resetFailedLogins userID, next := some (.createSession userID via client) }
  /-- The error of `ResetFailedLogins` is ignored. -/
  | resetIgnored {userID via client} :
      Move cfg s req (.resetFailed userID via client)
        { next := some (.createSession userID via client) }
  | createSession {userID via client sess}
      (huser : sess.userID = userID) (hreq : sess.createdBy = req) (hvia : sess.via = via) :
      Move cfg s req (.createSession userID via client) { write := .insertSession sess }
  | recover {userID code m}
      (hmfa : s.db.mfa userID = some m) (hcode : cfg.hashRecoveryCode code ∈ m.recoveryCodeHashes) :
      Move cfg s req (.recover userID code)
        { next := some (.recoverUpdate userID (cfg.hashRecoveryCode code) m.recoveryCodeHashes) }
  | recoverUpdate {userID codeHash recoveryCodeHashes} :
      Move cfg s req (.recoverUpdate userID codeHash recoveryCodeHashes)
        { write := .setRecoveryCodeHashes userID (recoveryCodeHashes.erase codeHash)
          events := [.accepted req userID codeHash] }
  | recoverLost {userID codeHash recoveryCodeHashes} :
      Move cfg s req (.recoverUpdate userID codeHash recoveryCodeHashes)
        { write := .setRecoveryCodeHashes userID (recoveryCodeHashes.erase codeHash) }

theorem move_run (choice : Choice) (th : Thread) : Move cfg s req th (th.run cfg s req choice) := by
  cases th with
  | login =>
    simp only [Thread.run]
    split
    · exact .stop
    next user huser =>
      split_ifs with hact hlock
      · exact .stop
      · exact .stop
      · split
        · exact .stop
        next hver => exact .wrongLogin huser (not_not.1 hact) hlock hver
        next hver => exact .rightLogin huser (not_not.1 hact) hlock hver
  | checkMFA =>
    simp only [Thread.run]
    split_ifs with hconf hreq
    · exact .challenged hconf
    · exact .unconfirmed
    · rw [not_or, Bool.not_eq_true, Bool.not_eq_true] at hreq
      exact .exempt hreq.1 hreq.2
  | completeMFA =>
    simp only [Thread.run]
    split
    · exact .stop
    next c hchal =>
      split_ifs with hopen
      · exact .openChallenge hchal hopen
      · exact .stop
  | validateCode =>
    simp only [Thread.run]
    split
    · exact .notConfigured
    next m hmfa =>
      split_ifs with hconf hval
      · exact .notConfigured
      · rw [hval]
        exact .rightCode hmfa hconf hval
      · rw [Bool.not_eq_true] at hval
        rw [hval]
        exact .wrongCode hmfa hconf hval
  | setupConfirm =>
    simp only [Thread.run]
    split
    · exact .stop
    next user huser =>
      split_ifs with hver
      · exact .rightSetup huser hver
      · exact .wrongSetup huser hver
  | confirmLoad =>
    simp only [Thread.run]
    split
    · exact .stop
    next m hmfa =>
      split_ifs with hconf hval
      · exact .stop
      · rw [hval]
        exact .rightSetupCode hmfa (not_not.1 hconf) hval
      · rw [Bool.not_eq_true] at hval
        rw [hval]
        exact .wrongSetupCode hmfa (not_not.1 hconf) hval
  | createSession => exact .createSession rfl rfl rfl
  | recover =>
    simp only [Thread.run]
    split
    · exact .stop
    next m hmfa =>
      split_ifs with hcode
      · exact .recover hmfa (List.contains_iff_mem.1 hcode)
      · exact .stop
  -- the statements that only write do one thing
  | _ => constructor

/-- A statement that fails does nothing, and only after `ResetFailedLogins` the request goes on. -/
theorem move_failed (th : Thread) : Move cfg s req th { next := th.onError } := by
  cases th with
  | resetFailed => exact .resetIgnored
  | _ => exact .stop

theorem move_lost (choice : Choice) (th : Thread) :
    Move cfg s req th { write := (th.run cfg s req choice).write, next := th.onError } := by
  have hrun : Move cfg s req th (th.run cfg s req choice) := move_run choice th
  generalize th.run cfg s req choice = e at hrun
  cases hrun with
  | stop => exact move_failed th
  | consume | consumeLost => exact .consumeLost
  | confirm | confirmLost => exact .confirmLost
  | recoverUpdate | recoverLost => exact .recoverLost
  | createSession huser hreq hvia => exact .createSession huser hreq hvia
  | beginSetup | createChallenge | countAttempt | registerFailed | resetFailed | resetIgnored =>
    constructor
  | _ => exact .stop

/-- `Move` has everything that the next statement of a request can do. -/
theorem move_effect (out : Outcome) (choice : Choice) (th : Thread) :
    Move cfg s req th (th.effect cfg s req choice out) := by
  cases out with
  | ok => exact move_run choice th
  | failed => exact move_failed th
  | lost => exact move_lost choice th

/-! ### Steps of the server -/

/-- The thread that a handler starts. -/
def Thread.Answers (client : Client) : Request → Thread → Prop
  | .login username password, th => th = .login username password client
  | .totp challengeID code, th =>
    ∃ cid, Uuid.parse challengeID = some cid ∧ th = .completeMFA cid code client
  | .setupConfirm username password code, th => th = .setupConfirm username password code client

/-- The threads that a request starts with. They have read nothing. -/
def Thread.Entry : Thread → Prop
  | login _ _ _ | completeMFA _ _ _ | setupConfirm _ _ _ _ | recover _ _ => True
  | _ => False

variable {client : Client} {r : Request} {key : Text} {P : ReqID → Thread → Prop} {w : Write}
  {c : Challenge} {cid : UUID} {db : Tables} {now : ℕ} {sess : UserSession}

theorem Thread.Answers.entry (h : th.Answers client r) : th.Entry := by
  cases r with
  | login | setupConfirm => exact (show th = _ from h) ▸ trivial
  | totp =>
    obtain ⟨_, -, rfl⟩ := h
    trivial

/-- A new request begins, with a thread or without one. The tables stay as they are. -/
structure Opens (s : State) (req : ReqID) (th : Option Thread) (t : State) : Prop where
  fresh : req ∉ s.begun
  begun : t.begun = req :: s.begun
  threads : t.threads = update s.threads req th
  db : t.db = s.db
  history : t.history = s.history
  now : t.now = s.now

theorem opens_of_begin {s₀ : State} {th : Option Thread} (h : s.begin req th = some t)
    (hs : s.begun = s₀.begun) (hths : s.threads = s₀.threads) (hdb : s.db = s₀.db)
    (hhist : s.history = s₀.history) (hnow : s.now = s₀.now) : Opens s₀ req th t := by
  rw [begin] at h
  split_ifs at h with hnew
  cases h
  refine ⟨hs ▸ hnew, ?_, ?_, hdb, hhist, hnow⟩
  · show req :: s.begun = req :: s₀.begun
    rw [hs]
  · show update s.threads req th = _
    rw [hths]

theorem opens_of_limitLogin (h : s.limitLogin key req th = some t) :
    ∃ x, Opens s req x t ∧ ∀ y ∈ x, y = th := by
  rw [limitLogin] at h
  refine ⟨_, opens_of_begin h rfl rfl rfl rfl rfl, fun y hy ↦ ?_⟩
  split_ifs at hy
  · exact (Option.some.inj hy).symm
  · exact absurd hy nofun

theorem opens_of_limitMFA {x : Option Thread} (h : s.limitMFA key req x = some t) :
    ∃ y, Opens s req y t ∧ ∀ z ∈ y, z ∈ x := by
  rw [limitMFA] at h
  refine ⟨_, opens_of_begin h rfl rfl rfl rfl rfl, fun z hz ↦ ?_⟩
  split_ifs at hz
  · exact hz
  · exact absurd hz nofun

theorem opens_of_start (h : s.start req client r = some t) :
    ∃ th, Opens s req th t ∧ ∀ x ∈ th, x.Answers client r := by
  cases r with
  | login | setupConfirm =>
    simp only [start] at h
    split_ifs at h
    · exact ⟨none, opens_of_begin h rfl rfl rfl rfl rfl, nofun⟩
    · exact opens_of_limitLogin h
  | totp =>
    simp only [start] at h
    split_ifs at h
    · exact ⟨none, opens_of_begin h rfl rfl rfl rfl rfl, nofun⟩
    · obtain ⟨x, hopn, hx⟩ := opens_of_limitMFA h
      refine ⟨x, hopn, fun y hy ↦ ?_⟩
      obtain ⟨cid, hcid, hy⟩ := Option.map_eq_some_iff.1 (hx y hy)
      exact ⟨cid, hcid, hy.symm⟩

/-- The steps of the server. -/
inductive Step (cfg : Config) (s : State) : Label → State → Prop
  | tick {now : ℕ} (hnow : s.now ≤ now) : Step cfg s (.tick now) { s with now }
  | start {req : ReqID} {client : Client} {r : Request} {th : Option Thread} {t : State}
      (hopn : Opens s req th t) (hans : ∀ x ∈ th, x.Answers client r) :
      Step cfg s (.start req client r) t
  | recover {req : ReqID} {userID code} {t : State}
      (hopn : Opens s req (some (.recover userID code)) t) : Step cfg s (.recover req userID code) t
  | exec {req : ReqID} {out choice} {th : Thread}
      (hth : s.threads req = some th)
      (hfits : (th.effect cfg s req choice out).write.Fits cfg.sameName s.db) :
      Step cfg s (.exec req out choice) (s.commit req (th.effect cfg s req choice out))
  | admin {w : Write} (hadmin : w.Administrative) (hfits : w.Fits cfg.sameName s.db) :
      Step cfg s (.admin w) { s with db := s.db.apply s.now w }

theorem step_cases (h : s.step cfg l = some t) : Step cfg s l t := by
  cases l with
  | tick =>
    simp only [step] at h
    split_ifs at h with hnow
    exact Option.some.inj h ▸ .tick hnow
  | start =>
    obtain ⟨th, hopn, hans⟩ := opens_of_start h
    exact .start hopn hans
  | recover => exact .recover (opens_of_begin h rfl rfl rfl rfl rfl)
  | exec =>
    simp only [step, execute] at h
    obtain ⟨th, hth, h⟩ := Option.bind_eq_some_iff.1 h
    split_ifs at h with hfits
    exact Option.some.inj h ▸ .exec hth hfits
  | admin =>
    simp only [step] at h
    split_ifs at h with hw
    exact Option.some.inj h ▸ .admin hw.1 hw.2

/-! ### Threads and history -/

theorem Opens.forall_thread {th : Option Thread} (h : Opens s req th t)
    (hs : ∀ q x, s.threads q = some x → P q x) (hth : ∀ x ∈ th, P req x) :
    ∀ q x, t.threads q = some x → P q x := by
  rw [h.threads]
  exact (forall_update_iff s.threads fun q o ↦ ∀ x, o = some x → P q x).2 ⟨hth, fun q _ ↦ hs q⟩

theorem commit_threads_self : (s.commit req e).threads req = e.next :=
  update_self ..

theorem commit_threads_of_ne (hq : q ≠ req) : (s.commit req e).threads q = s.threads q :=
  update_of_ne hq ..

theorem forall_thread_commit
    (hs : ∀ q x, q ≠ req → s.threads q = some x → P q x) (hnext : ∀ x ∈ e.next, P req x) :
    ∀ q x, (s.commit req e).threads q = some x → P q x :=
  (forall_update_iff s.threads fun q o ↦ ∀ x, o = some x → P q x).2 ⟨hnext, fun q hq x ↦ hs q x hq⟩

theorem begun_of_step (hs : ∀ q x, s.threads q = some x → q ∈ s.begun) (h : s.step cfg l = some t) :
    ∀ q x, t.threads q = some x → q ∈ t.begun := by
  cases step_cases h with
  | tick | admin => exact hs
  | start hopn | recover hopn =>
    rw [hopn.begun]
    exact hopn.forall_thread (fun q x hx ↦ mem_cons_of_mem _ (hs q x hx)) fun x _ ↦ mem_cons_self
  | exec hth => exact forall_thread_commit (fun q x _ hx ↦ hs q x hx) fun _ _ ↦ hs _ _ hth

theorem begun_of_exec {ls : List Label} (h : exec (step cfg) .init ls = some t) :
    ∀ q x, t.threads q = some x → q ∈ t.begun :=
  Transition.invariant_of_exec (I := fun s ↦ ∀ q x, s.threads q = some x → q ∈ s.begun)
    (fun _ _ _ hs h ↦ begun_of_step hs h) nofun h

theorem mem_history_commit {ev : Event} :
    ev ∈ (s.commit req e).history ↔ ev ∈ s.history ∨ ev ∈ e.write.events ∨ ev ∈ e.events := by
  show ev ∈ s.history ++ e.write.events ++ e.events ↔ _
  rw [mem_append, mem_append, or_assoc]

/-! ### Steps that execute no statement of a request -/

/-- A step that executes no statement of a request. It does not write the tables of the second
factor; a new thread has read nothing. -/
structure Calm (s t : State) : Prop where
  mfa : t.db.mfa = s.db.mfa
  challenges : t.db.challenges = s.db.challenges
  sessions : t.db.sessions = s.db.sessions
  history : t.history = s.history
  threads : ∀ q x, t.threads q = some x → s.threads q = some x ∨ x.Entry
  kept : ∀ q x, s.threads q = some x → t.threads q = some x

theorem Opens.calm {th : Option Thread} (h : Opens s req th t) (hreq : s.threads req = none)
    (hth : ∀ x ∈ th, x.Entry) : Calm s t where
  mfa := by rw [h.db]
  challenges := by rw [h.db]
  sessions := by rw [h.db]
  history := h.history
  threads := h.forall_thread (fun _ _ hx ↦ .inl hx) fun x hx ↦ .inr (hth x hx)
  kept q x hx := by
    have hq : q ≠ req := by
      rintro rfl
      exact absurd (hreq.symm.trans hx) nofun
    rw [h.threads, update_of_ne hq]
    exact hx

theorem calm_admin (hw : w.Administrative) : Calm s { s with db := s.db.apply s.now w } := by
  cases w with
  | createUser | setStatus | setMFARequired | updatePasswordHash =>
    exact ⟨rfl, rfl, rfl, rfl, fun _ _ hx ↦ .inl hx, fun _ _ hx ↦ hx⟩
  | _ => exact hw.elim

theorem calm_or_exec (hs : ∀ q x, s.threads q = some x → q ∈ s.begun) (h : s.step cfg l = some t) :
    Calm s t ∨ ∃ req out choice th, l = .exec req out choice ∧ s.threads req = some th ∧
      (th.effect cfg s req choice out).write.Fits cfg.sameName s.db ∧
      t = s.commit req (th.effect cfg s req choice out) := by
  have hnone : ∀ {req}, req ∉ s.begun → s.threads req = none := fun hreq ↦
    Option.eq_none_iff_forall_ne_some.2 fun x hx ↦ hreq (hs _ x hx)
  cases step_cases h with
  | tick => exact .inl ⟨rfl, rfl, rfl, rfl, fun _ _ hx ↦ .inl hx, fun _ _ hx ↦ hx⟩
  | start hopn hans =>
    exact .inl (hopn.calm (hnone hopn.fresh) fun x hx ↦ (hans x hx).entry)
  | recover hopn =>
    exact .inl (hopn.calm (hnone hopn.fresh) fun x hx ↦ Option.some.inj hx ▸ trivial)
  | admin hadmin => exact .inl (calm_admin hadmin)
  | exec hth hfits => exact .inr ⟨_, _, _, _, rfl, hth, hfits, rfl⟩

/-! ### Challenges -/

/-- What a later version of a row of `mfa_challenges` has in common with it. -/
structure Challenge.Extends (c c' : Challenge) : Prop where
  userID : c'.userID = c.userID
  issuedBy : c'.issuedBy = c.issuedBy
  attempts : c.attempts ≤ c'.attempts
  consumedAt : c.consumedAt ≠ none → c'.consumedAt ≠ none

theorem Challenge.Extends.refl (c : Challenge) : c.Extends c :=
  ⟨rfl, rfl, le_rfl, id⟩

theorem challenges_apply
    (hfits : w.Fits cfg.sameName db) (hc : db.challenges cid = some c) :
    ∃ c', (db.apply now w).challenges cid = some c' ∧ c.Extends c' := by
  cases w with
  | insertChallenge id =>
    have hne : cid ≠ id := by
      rintro rfl
      rw [show db.challenges cid = none from hfits] at hc
      exact absurd hc nofun
    exact ⟨c, (update_of_ne hne ..).trans hc, .refl c⟩
  | countAttempt id =>
    rcases eq_or_ne cid id with rfl | hne
    · refine ⟨{ c with attempts := c.attempts + 1 }, ?_, rfl, rfl, Nat.le_succ _, id⟩
      rw [Tables.challenges_countAttempt, hc, Option.map_some]
    · exact ⟨c, (update_of_ne hne ..).trans hc, .refl c⟩
  | consumeChallenge id =>
    rcases eq_or_ne cid id with rfl | hne
    · refine ⟨{ c with consumedAt := some now }, ?_, rfl, rfl, le_rfl, fun _ ↦ nofun⟩
      rw [Tables.challenges_consumeChallenge, hc, Option.map_some]
    · exact ⟨c, (update_of_ne hne ..).trans hc, .refl c⟩
  | _ => exact ⟨c, hc, .refl c⟩

theorem of_challenges_apply {c' : Challenge} (hc' : (db.apply now w).challenges cid = some c') :
    (∃ c, db.challenges cid = some c ∧ c.Extends c') ∨ w = .insertChallenge cid c' := by
  cases w with
  | insertChallenge =>
    obtain ⟨rfl, h⟩ | ⟨-, h⟩ := update_apply_eq_iff.1 hc'
    · exact .inr (congrArg _ (Option.some.inj h))
    · exact .inl ⟨c', h, .refl c'⟩
  | countAttempt =>
    obtain ⟨rfl, h⟩ | ⟨-, h⟩ := update_apply_eq_iff.1 hc'
    · obtain ⟨c, hc, rfl⟩ := Option.map_eq_some_iff.1 h
      exact .inl ⟨c, hc, rfl, rfl, Nat.le_succ _, id⟩
    · exact .inl ⟨c', h, .refl c'⟩
  | consumeChallenge =>
    obtain ⟨rfl, h⟩ | ⟨-, h⟩ := update_apply_eq_iff.1 hc'
    · obtain ⟨c, hc, rfl⟩ := Option.map_eq_some_iff.1 h
      exact .inl ⟨c, hc, rfl, rfl, le_rfl, fun _ ↦ nofun⟩
    · exact .inl ⟨c', h, .refl c'⟩
  | _ => exact .inl ⟨c', hc', .refl c'⟩

/-! ### Rows that are inserted -/

theorem Move.of_insertSession (h : Move cfg s req th e) (hw : e.write = .insertSession sess) :
    sess.createdBy = req ∧ ∃ client, th = .createSession sess.userID sess.via client := by
  cases h with
  | createSession huser hreq hvia =>
    obtain rfl := Write.insertSession.inj hw
    exact ⟨hreq, _, by rw [huser, hvia]⟩
  | _ => exact absurd hw nofun

theorem Move.of_insertChallenge (h : Move cfg s req th e) (hw : e.write = .insertChallenge cid c) :
    c.issuedBy = req ∧ c.attempts = 0 ∧ ∃ client, th = .createChallenge c.userID client := by
  cases h with
  | @createChallenge _ client =>
    obtain ⟨-, rfl⟩ := Write.insertChallenge.inj hw
    exact ⟨rfl, rfl, client, rfl⟩
  | _ => exact absurd hw nofun

theorem mem_sessions_apply
    (h : sess ∈ (db.apply now w).sessions) : sess ∈ db.sessions ∨ w = .insertSession sess := by
  cases w with
  | insertSession new =>
    obtain h | h := mem_snoc.1 (show sess ∈ db.sessions ++ [new] from h)
    · exact .inl h
    · exact .inr (by rw [h])
  | _ => exact .inl h

end WartungsRemote.Auth
