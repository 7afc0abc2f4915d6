import WartungsRemote.Auth.Steps

/-!
# Requests for a user who is barred

A user is **barred** if the status is not `active` or `locked_until` is in the future. `Login` looks
at both before it verifies the password. The other two handlers do not: `handleTOTP` completes a
challenge issued before, and `handleMFASetupConfirm` counts a wrong password and confirms the setup
as for any other user (`not_spares_barred`).

So a request for a barred user creates no session and leaves `failed_login_count` and `locked_until`
alone exactly if it is **harmless**: whenever it evaluates a code, the code is not valid, and the
password that it brings to `handleMFASetupConfirm` is the right one (`spares_barred_iff`).
-/

namespace WartungsRemote.Auth

open List State Sample Transition

variable {cfg : Config} {s t : State} {l : Label} {req : ReqID} {th : Thread} {e : Effect}
  {userID : UUID}

/-! ### Barred users -/

def User.Barred (u : User) (now : ℕ) : Prop :=
  u.status ≠ .active ∨ u.Locked now
  deriving Decidable

/-- The user is barred. -/
def State.Barred (s : State) (userID : UUID) : Prop :=
  ∃ u ∈ s.db.users, u.id = userID ∧ u.Barred s.now
  deriving Decidable

/-- `failed_login_count` and `locked_until` of the user. -/
def State.lockout (s : State) (userID : UUID) : Option (ℕ × Option ℕ) :=
  (s.db.users.find? fun u ↦ u.id = userID).map fun u ↦ (u.failedLoginCount, u.lockedUntil)

/-- The sessions of the user. -/
def State.sessionsOf (s : State) (userID : UUID) : List UserSession :=
  s.db.sessions.filter fun sess ↦ sess.userID = userID

/-- The step creates no session for the user and does not change `failed_login_count` or
`locked_until`. -/
def Spares (userID : UUID) (s t : State) : Prop :=
  t.sessionsOf userID = s.sessionsOf userID ∧ t.lockout userID = s.lockout userID
  deriving Decidable

/-- The step executes a statement of the request. -/
def Label.Of (req : ReqID) : Label → Prop
  | .exec q _ _ => q = req
  | _ => False

instance (req : ReqID) : DecidablePred (Label.Of req) := by
  rintro (_ | _) <;> unfold Label.Of <;> infer_instance

/-- The statement of the request gets an answer. -/
def Label.Answered : Label → Prop
  | .exec _ out _ => out = .ok
  | _ => True

/-- The user that a request names: by their name, or by a challenge issued to them. -/
def Request.Names (cfg : Config) (s : State) (userID : UUID) : Request → Prop
  | .login username _ => ∃ u, s.getByUsername cfg username = some u ∧ u.id = userID
  | .totp challengeID _ =>
    ∃ cid c, Uuid.parse challengeID = some cid ∧ s.db.challenges cid = some c ∧
      c.userID = userID
  | .setupConfirm username _ _ => ∃ u, s.getByUsername cfg username = some u ∧ u.id = userID

/-- The code that the next statement evaluates is wrong, and the password it verifies is right. -/
def Thread.Harmless (cfg : Config) (s : State) : Thread → Prop
  | validateCode _ userID code _ =>
    ¬ ∃ m ∈ s.db.mfa userID, m.confirmedAt ≠ none ∧ cfg.validate code m.secret s.now = true
  | setupConfirm username password _ _ =>
    ∀ u ∈ s.getByUsername cfg username, cfg.verifyPassword password u.passwordHash = some true
  | confirmLoad userID code _ =>
    ¬ ∃ m ∈ s.db.mfa userID, m.confirmedAt = none ∧ cfg.validate code m.secret s.now = true
  | _ => True

instance (cfg : Config) (s : State) : DecidablePred (Thread.Harmless cfg s) := by
  rintro (_ | _) <;> unfold Thread.Harmless <;> infer_instance

/-- The steps of others do not lift the bar. -/
def KeepsBar (userID : UUID) (req : ReqID) (s : State) (l : Label) (t : State) : Prop :=
  ¬ l.Of req → s.Barred userID → t.Barred userID
  deriving Decidable

/-- A statement of the request is harmless. -/
def HarmlessStep (cfg : Config) (req : ReqID) (s : State) (l : Label) (_ : State) : Prop :=
  l.Of req → ∀ th ∈ s.threads req, th.Harmless cfg s
  deriving Decidable

/-- A statement creates no session for the user and keeps `failed_login_count`, `locked_until`. -/
def SparingStep (userID : UUID) (req : ReqID) (s : State) (l : Label) (t : State) : Prop :=
  l.Of req → Spares userID s t
  deriving Decidable

/-! ### The rows of `users` -/

/-- Ids and names of the users. -/
def Tables.names (db : Tables) : List (UUID × Text) :=
  db.users.map fun u ↦ (u.id, u.username)

variable {f : User → User} {users : List User} {w : Write} {username : Text} {ls : List Label}

theorem names_updateUser {id : UUID} (h : ∀ u, (f u).id = u.id ∧ (f u).username = u.username) :
    (updateUser users id f).map (fun u ↦ (u.id, u.username)) = users.map fun u ↦
    (u.id, u.username) := by
  rw [updateUser, map_map]
  refine map_congr_left fun u _ ↦ ?_
  show (fun u : User ↦ (u.id, u.username)) (if u.id = id then f u else u) = _
  split_ifs
  · exact Prod.ext (h u).1 (h u).2
  · rfl

/-- Ids and names of the users stay as they are, and new users have new ids. -/
theorem names_apply {db : Tables} (hfits : w.Fits cfg.sameName db) (now : ℕ) :
    (db.apply now w).names = db.names ∨
      ∃ id username, (db.apply now w).names = db.names ++ [(id, username)] ∧ ∀ p ∈ db.names,
        p.1 ≠ id := by
  cases w with
  | createUser id username =>
    refine .inr ⟨id, username, map_append, ?_⟩
    simp only [Tables.names, forall_mem_map]
    exact fun u hu ↦ (hfits u hu).1
  | setStatus | setMFARequired | updatePasswordHash | registerFailedLogin | resetFailedLogins =>
    left
    apply names_updateUser
    exact fun u ↦ ⟨rfl, rfl⟩
  | _ => exact .inl rfl

theorem map_id_getByUsername (username : Text) : (s.getByUsername cfg username).map User.id =
      (s.db.names.find? fun p ↦ cfg.sameName p.2 username).map Prod.fst := by
  rw [getByUsername, Tables.names, find?_map, Option.map_map]
  rfl

/-- What the rows of `users` have in common before and after a step. -/
structure SameUsers (s t : State) : Prop where
  names : s.db.names <+: t.db.names
  nodup : (s.db.names.map Prod.fst).Nodup → (t.db.names.map Prod.fst).Nodup

theorem sameUsers_apply (hfits : w.Fits cfg.sameName s.db) (hdb : t.db = s.db.apply s.now w) :
    SameUsers s t := by
  rcases names_apply hfits s.now with hnames | ⟨_, _, hnames, hnew⟩
  · rw [← hdb] at hnames
    exact ⟨hnames ▸ prefix_rfl, fun h ↦ hnames ▸ h⟩
  · rw [← hdb] at hnames
    refine ⟨hnames ▸ prefix_append _ _, fun h ↦ ?_⟩
    rw [hnames, map_append, map_singleton]
    refine nodup_append.2 ⟨h, nodup_singleton _, ?_⟩
    simpa [forall_mem_map] using fun a b hmem ↦ hnew (a, b) hmem

theorem sameUsers_of_step (h : s.step cfg l = some t) : SameUsers s t := by
  cases step_cases h with
  | tick => exact ⟨prefix_rfl, id⟩
  | start hopn | recover hopn => exact ⟨hopn.db ▸ prefix_rfl, fun h ↦ hopn.db ▸ h⟩
  | exec _ hfits | admin _ hfits => exact sameUsers_apply hfits rfl

theorem SameUsers.getByUsername (h : SameUsers s t)
    (hs : (s.getByUsername cfg username).map User.id = some userID) :
    (t.getByUsername cfg username).map User.id = some userID := by
  rw [map_id_getByUsername] at hs ⊢
  obtain ⟨_, hnew⟩ := h.names
  rw [← hnew, find?_append]
  obtain ⟨p, hp, hid⟩ := Option.map_eq_some_iff.1 hs
  rw [hp, Option.some_or, Option.map_some, hid]

theorem nodup_of_exec (h : exec (step cfg) .init ls = some t) : (t.db.names.map Prod.fst).Nodup :=
  invariant_of_exec (I := fun s ↦ (s.db.names.map Prod.fst).Nodup)
    (fun _ _ _ hs h ↦ (sameUsers_of_step h).nodup hs) nodup_nil h

theorem user_unique (hnd : (s.db.names.map Prod.fst).Nodup) {u v : User} (hu : u ∈ s.db.users)
    (hv : v ∈ s.db.users) (hid : u.id = v.id) : u = v := by
  have hids : (s.db.users.map User.id).Nodup := by
    rw [Tables.names, map_map] at hnd
    exact hnd
  exact inj_on_of_nodup_map hids hu hv hid

/-- A challenge stays with the user that it was issued to. -/
theorem challenges_of_step (hbeg : ∀ q x, s.threads q = some x → q ∈ s.begun)
    (h : s.step cfg l = some t) {cid : UUID} {c : Challenge} (hc : s.db.challenges cid = some c) :
    ∃ c', t.db.challenges cid = some c' ∧ c'.userID = c.userID := by
  obtain hcalm | ⟨_, _, _, _, rfl, -, hfits, rfl⟩ := calm_or_exec hbeg h
  · rw [hcalm.challenges]
    exact ⟨c, hc, rfl⟩
  · obtain ⟨c', hc', hext⟩ := challenges_apply hfits hc
    exact ⟨c', hc', hext.userID⟩

/-! ### A request that has done nothing to the user -/

/-- The request is for the user, and it has found nothing that leads to a session or to a failed
login. -/
def Thread.Concerns (cfg : Config) (s : State) (userID : UUID) : Thread → Prop
  | login username _ _ => (s.getByUsername cfg username).map User.id = some userID
  | setupConfirm username _ _ _ => (s.getByUsername cfg username).map User.id = some userID
  | completeMFA cid _ _ => ∃ c, s.db.challenges cid = some c ∧ c.userID = userID
  | validateCode _ id _ _ => id = userID
  | confirmLoad id _ _ => id = userID
  | countAttempt _ => True
  | _ => False

theorem Thread.Concerns.step (hth : th.Concerns cfg s userID)
    (hbeg : ∀ q x, s.threads q = some x → q ∈ s.begun) (h : s.step cfg l = some t) :
    th.Concerns cfg t userID := by
  cases th with
  | login | setupConfirm => exact (sameUsers_of_step h).getByUsername hth
  | completeMFA =>
    obtain ⟨c, hc, rfl⟩ := hth
    exact challenges_of_step hbeg h hc
  | validateCode | confirmLoad => exact hth
  | countAttempt => trivial
  | _ => exact hth.elim

theorem concerns_of_names {client : Client} {r : Request} (hth : th.Answers client r)
    (hnames : r.Names cfg s userID) : th.Concerns cfg s userID := by
  cases r with
  | login | setupConfirm =>
    obtain rfl := hth
    exact Option.map_eq_some_iff.2 hnames
  | totp =>
    obtain ⟨cid, hcid, rfl⟩ := hth
    obtain ⟨cid', c, hcid', hc, huser⟩ := hnames
    obtain rfl : cid' = cid := Option.some.inj (hcid'.symm.trans hcid)
    exact ⟨c, hc, huser⟩

theorem not_barred_of_login {user : User} (hnd : (s.db.names.map Prod.fst).Nodup)
    (hconc : (s.getByUsername cfg username).map User.id = some userID)
    (huser : s.getByUsername cfg username = some user) (hact : user.status = .active)
    (hlock : ¬ user.Locked s.now) : ¬ s.Barred userID := by
  rintro ⟨u, hu, hid, hbar⟩
  rw [huser] at hconc
  have hmem : user ∈ s.db.users := mem_of_find?_eq_some huser
  obtain rfl : u = user := user_unique hnd hu hmem (hid.trans (Option.some.inj hconc).symm)
  exact hbar.elim (fun h ↦ h hact) hlock

/-- A harmless statement for a barred user writes nothing but a counted code, and the request stays
so. -/
theorem Move.harmless (hmove : Move cfg s req th e) (hnd : (s.db.names.map Prod.fst).Nodup)
    (hbar : s.Barred userID) (hconc : th.Concerns cfg s userID) (hharm : th.Harmless cfg s) :
    (e.write = .none ∨ ∃ cid, e.write = .countAttempt cid) ∧ ∀ x ∈ e.next,
      x.Concerns cfg s userID := by
  cases hmove with
  | stop | wrongSetupCode => exact ⟨.inl rfl, nofun⟩
  | wrongLogin huser hact hlock | rightLogin huser hact hlock =>
    exact absurd hbar (not_barred_of_login hnd hconc huser hact hlock)
  | openChallenge hchal =>
    refine ⟨.inl rfl, fun x hx ↦ ?_⟩
    cases hx
    obtain ⟨c, hc, huser⟩ := hconc
    exact (congrArg Challenge.userID (Option.some.inj (hchal.symm.trans hc))).trans huser
  | notConfigured | wrongCode =>
    refine ⟨.inl rfl, fun x hx ↦ ?_⟩
    cases hx
    trivial
  | rightCode hmfa hconf hval | rightSetupCode hmfa hconf hval =>
    exact absurd ⟨_, hmfa, hconf, hval⟩ hharm
  | countAttempt => exact ⟨.inr ⟨_, rfl⟩, nofun⟩
  | wrongSetup huser hver => exact absurd (hharm _ huser) hver
  | rightSetup huser =>
    refine ⟨.inl rfl, fun x hx ↦ ?_⟩
    cases hx
    rw [Thread.Concerns, huser] at hconc
    exact Option.some.inj hconc
  | challenged | unconfirmed | exempt | beginSetup | createChallenge | consume | consumeLost
  | confirm
  | confirmLost | registerFailed | resetFailed | resetIgnored | createSession | recover
  | recoverUpdate
  | recoverLost =>
    exact hconc.elim

/-! ### Following a request -/

/-- A request for a barred user, which has done nothing to the user. -/
structure Watched (cfg : Config) (userID : UUID) (req : ReqID) (s : State) : Prop where
  begun : ∀ q x, s.threads q = some x → q ∈ s.begun
  nodup : (s.db.names.map Prod.fst).Nodup
  mem_begun : req ∈ s.begun
  barred : s.Barred userID
  concerns : ∀ x, s.threads req = some x → x.Concerns cfg s userID

theorem threads_of_not_of (hreq : req ∈ s.begun) (h : s.step cfg l = some t) (hl : ¬ l.Of req) :
    t.threads req = s.threads req ∧ req ∈ t.begun := by
  have hopn : ∀ {q th}, Opens s q th t → t.threads req = s.threads req ∧ req ∈ t.begun := by
    intro q th hopn
    have hne : req ≠ q := by
      rintro rfl
      exact hopn.fresh hreq
    rw [hopn.threads, hopn.begun]
    exact ⟨Function.update_of_ne hne .., mem_cons_of_mem _ hreq⟩
  cases step_cases h with
  | tick | admin => exact ⟨rfl, hreq⟩
  | start hopen | recover hopen => exact hopn hopen
  | exec => exact ⟨commit_threads_of_ne (Ne.symm hl), hreq⟩

theorem exec_of_of (h : s.step cfg l = some t) (hl : l.Of req) :
    ∃ out choice th, l = .exec req out choice ∧ s.threads req = some th ∧
      t = s.commit req (th.effect cfg s req choice out) := by
  cases step_cases h with
  | exec hth =>
    obtain rfl := hl
    exact ⟨_, _, _, rfl, hth, rfl⟩
  | tick | start | recover | admin => exact hl.elim

theorem frame_of_write (s : State) (req : ReqID)
    (hw : e.write = .none ∨ ∃ cid, e.write = .countAttempt cid) :
    (s.commit req e).db.users = s.db.users ∧ (s.commit req e).db.sessions = s.db.sessions := by
  show s.db.applyUsers s.now e.write = _ ∧ s.db.applySessions e.write = _
  rcases hw with hw | ⟨_, hw⟩ <;> rw [hw] <;> exact ⟨rfl, rfl⟩

/-- A harmless step of the request spares the user; the others keep the bar. -/
theorem Watched.step (hs : Watched cfg userID req s) (h : s.step cfg l = some t)
    (hkeep : KeepsBar userID req s l t) (hharm : HarmlessStep cfg req s l t) :
    Watched cfg userID req t ∧ SparingStep userID req s l t := by
  have hbeg := begun_of_step hs.begun h
  have hnd := (sameUsers_of_step h).nodup hs.nodup
  by_cases hl : l.Of req
  · obtain ⟨out, choice, th, rfl, hth, rfl⟩ := exec_of_of h hl
    obtain ⟨hw, hnext⟩ := (move_effect out choice th).harmless hs.nodup hs.barred
      (hs.concerns th hth) (hharm hl th hth)
    obtain ⟨husers, hsess⟩ := frame_of_write s req hw
    refine ⟨⟨hbeg, hnd, hs.mem_begun, ?_, fun x hx ↦ ?_⟩, fun _ ↦ ⟨?_, ?_⟩⟩
    · unfold Barred
      rw [husers]
      exact hs.barred
    · rw [commit_threads_self] at hx
      exact (hnext x hx).step hs.begun h
    · unfold sessionsOf
      rw [hsess]
    · unfold lockout
      rw [husers]
  · obtain ⟨hthr, hreq⟩ := threads_of_not_of hs.mem_begun h hl
    refine ⟨⟨hbeg, hnd, hreq, hkeep hl hs.barred, fun x hx ↦ ?_⟩, fun hof ↦ absurd hof hl⟩
    exact (hs.concerns x (hthr ▸ hx)).step hs.begun h

/-! ### A request that is bound to do something to the user -/

/-- The next statements of the request create a session for the user or count a failed login. -/
def Thread.Doomed (userID : UUID) : Thread → Prop
  | registerFailed id => id = userID
  | consume _ id _ => id = userID
  | confirmUpdate id _ _ _ => id = userID
  | resetFailed id _ _ => id = userID
  | createSession id _ _ => id = userID
  | _ => False

/-- What is not harmless leads there. -/
theorem doomed_of_not_harmless (choice : Choice) (hconc : th.Concerns cfg s userID)
    (hnot : ¬ th.Harmless cfg s) : ∃ x, (th.run cfg s req choice).next = some x ∧
      x.Doomed userID := by
  cases th with
  | validateCode cid id _ client =>
    obtain ⟨m, hm, hconf, hval⟩ := not_not.1 hnot
    refine ⟨.consume cid id client, ?_, hconc⟩
    simp only [Thread.run, show s.db.mfa id = some m from hm, if_neg hconf, if_pos hval]
  | setupConfirm _ password =>
    obtain ⟨user, huser, hid⟩ := Option.map_eq_some_iff.1 hconc
    have hver : cfg.verifyPassword password user.passwordHash ≠ some true := by
      intro h
      refine hnot fun u hu ↦ ?_
      rw [Option.some.inj (hu.symm.trans huser)]
      exact h
    refine ⟨.registerFailed user.id, ?_, hid⟩
    simp only [Thread.run, huser, if_neg hver]
  | confirmLoad id _ client =>
    obtain ⟨m, hm, hconf, hval⟩ := not_not.1 hnot
    refine ⟨.confirmUpdate id m.secret choice.recoveryCodes client, ?_, hconc⟩
    simp only [Thread.run, show s.db.mfa id = some m from hm, if_neg (not_not.2 hconf), if_pos hval]
  | _ => exact absurd trivial hnot

theorem find?_updateUser {id : UUID} (hf : ∀ u, (f u).id = u.id) :
    (updateUser users id f).find? (fun u ↦ u.id = id) = (users.find? fun u ↦ u.id = id).map f := by
  induction users with
  | nil => rfl
  | cons u users ih =>
    show ((if u.id = id then f u else u) :: updateUser users id f).find? _ = _
    by_cases hu : u.id = id
    · rw [if_pos hu, find?_cons_of_pos (by simpa [hf] using hu),
        find?_cons_of_pos (by simpa using hu), Option.map_some]
    · rw [if_neg hu, find?_cons_of_neg (by simpa using hu), find?_cons_of_neg (by simpa using hu),
        ih]

theorem not_spares_registerFailed (huser : userID ∈ s.db.names.map Prod.fst) :
    ¬ Spares userID s (s.commit req { write := .registerFailedLogin userID }) := by
  rintro ⟨-, hlockout⟩
  obtain ⟨p, hp, rfl⟩ := mem_map.1 huser
  obtain ⟨u, hu, rfl⟩ := mem_map.1 hp
  have hsome : (s.db.users.find? fun v ↦ v.id = u.id).isSome := by
    rw [find?_isSome]
    exact ⟨u, hu, by simp⟩
  obtain ⟨v, hv⟩ := Option.isSome_iff_exists.1 hsome
  have haft : (s.commit req { write := .registerFailedLogin u.id }).db.users.find?
      (fun v ↦ v.id = u.id) = some (v.registerFailedLogin s.now) := by
    show (updateUser s.db.users u.id (User.registerFailedLogin s.now)).find? _ = _
    rw [find?_updateUser (f := User.registerFailedLogin s.now) fun _ ↦ rfl, hv, Option.map_some]
  unfold lockout at hlockout
  rw [haft, hv, Option.map_some, Option.map_some] at hlockout
  have hcnt : v.failedLoginCount + 1 = v.failedLoginCount :=
    congrArg Prod.fst (Option.some.inj hlockout)
  omega

theorem not_spares_createSession {sess : UserSession} {next : Option Thread}
    (hsess : sess.userID = userID) :
    ¬ Spares userID s (s.commit req { write := .insertSession sess, next }) := by
  rintro ⟨hsessions, -⟩
  have haft : (s.commit req { write := .insertSession sess, next }).sessionsOf userID =
      s.sessionsOf userID ++ [sess] := by
    show (s.db.sessions ++ [sess]).filter _ = _
    rw [filter_append, filter_cons_of_pos (by simpa using hsess), filter_nil]
    rfl
  rw [haft] at hsessions
  exact absurd (congrArg length hsessions) (by simp)

/-- A doomed request that ends, with an answer to each statement, has not spared the user. -/
theorem not_spares_of_doomed (hrun : exec (step cfg) s ls = some t) (hth : s.threads req = some th)
    (hdoomed : th.Doomed userID) (hreq : req ∈ s.begun) (huser : userID ∈ s.db.names.map Prod.fst)
    (hans : ∀ l ∈ ls, l.Of req → l.Answered) (hend : t.threads req = none) :
    ¬ Along (step cfg) (SparingStep userID req) s ls := by
  induction ls generalizing s th with
  | nil =>
    obtain rfl : s = t := by simpa using hrun
    exact absurd (hth.symm.trans hend) nofun
  | cons l ls ih =>
    intro hspar
    obtain ⟨u, hu, hrest⟩ := (exec_cons_eq_some_iff _).1 hrun
    obtain ⟨hspare, htail⟩ := hspar u hu
    have huser' : userID ∈ u.db.names.map Prod.fst :=
      ((sameUsers_of_step hu).names.map Prod.fst).subset huser
    have hans' : ∀ l ∈ ls, l.Of req → l.Answered := fun l hl ↦
      hans l (mem_cons_of_mem _ hl)
    by_cases hl : l.Of req
    · obtain ⟨out, _, th', rfl, hth', rfl⟩ := exec_of_of hu hl
      obtain rfl : th' = th := Option.some.inj (hth'.symm.trans hth)
      obtain rfl : out = .ok := hans _ mem_cons_self hl
      cases th' with
      | registerFailed id =>
        obtain rfl : id = userID := hdoomed
        exact not_spares_registerFailed huser (hspare hl)
      | createSession id =>
        obtain rfl : id = userID := hdoomed
        exact not_spares_createSession rfl (hspare hl)
      | consume | confirmUpdate | resetFailed =>
        exact ih hrest commit_threads_self hdoomed hreq huser' hans' htail
      | _ => exact hdoomed.elim
    · obtain ⟨hthr, hreq'⟩ := threads_of_not_of hreq hu hl
      exact ih hrest (hthr.trans hth) hdoomed hreq' huser' hans' htail

/-- A request that spares the user was harmless in each of its statements. -/
theorem harmless_of_spares (hs : Watched cfg userID req s) (hrun : exec (step cfg) s ls = some t)
    (hans : ∀ l ∈ ls, l.Of req → l.Answered) (hend : t.threads req = none)
    (hkeep : Along (step cfg) (KeepsBar userID req) s ls)
    (hspar : Along (step cfg) (SparingStep userID req) s ls) :
    Along (step cfg) (HarmlessStep cfg req) s ls := by
  induction ls generalizing s with
  | nil => trivial
  | cons l ls ih =>
    obtain ⟨u, hu, hrest⟩ := (exec_cons_eq_some_iff _).1 hrun
    have hans' : ∀ l ∈ ls, l.Of req → l.Answered := fun l hl ↦
      hans l (mem_cons_of_mem _ hl)
    have hharm : HarmlessStep cfg req s l u := by
      intro hl th hth
      by_contra hnot
      obtain ⟨out, choice, th', rfl, hth', rfl⟩ := exec_of_of hu hl
      obtain rfl : th' = th := Option.some.inj (hth'.symm.trans hth)
      obtain rfl : out = .ok := hans _ mem_cons_self hl
      obtain ⟨x, hx, hdoomed⟩ := doomed_of_not_harmless choice (hs.concerns _ hth) hnot
      have huser : userID ∈ s.db.names.map Prod.fst := by
        obtain ⟨v, hv, rfl, -⟩ := hs.barred
        exact mem_map.2 ⟨_, mem_map.2 ⟨v, hv, rfl⟩, rfl⟩
      exact not_spares_of_doomed hrest (commit_threads_self.trans hx) hdoomed hs.mem_begun
        (((sameUsers_of_step hu).names.map Prod.fst).subset huser) hans' hend (hspar _ hu).2
    refine .cons hu hharm ?_
    exact ih (hs.step hu (hkeep u hu).1 hharm).1 hrest hans' (hkeep u hu).2 (hspar u hu).2

/-! ### The theorem -/

/-- **Requests for a barred user.** A request to one of the three handlers is followed from its
start, in a state that can be reached, while others make their steps and do not lift the bar. If it
is harmless in each of its statements, then it creates no session for the user and does not change
`failed_login_count` or `locked_until`. Conversely, if it does none of this and has come to its end,
with an answer to each of its statements, then it was harmless. -/
theorem spares_barred_iff {before ls : List Label} {client : Client} {r : Request}
    (hreach : exec (step cfg) .init before = some s) (hnames : r.Names cfg s userID)
    (hbar : s.Barred userID) (hrun : exec (step cfg) s (.start req client r :: ls) = some t)
    (hkeep : Along (step cfg) (KeepsBar userID req) s
      (.start req client r :: ls)) :
      (Along (step cfg) (HarmlessStep cfg req) s (.start req client r :: ls) →
        Along (step cfg) (SparingStep userID req) s (.start req client r :: ls)) ∧
    ((∀ l ∈ ls, l.Of req → l.Answered) → t.threads req = none →
      Along (step cfg) (SparingStep userID req) s (.start req client r :: ls) →
      Along (step cfg) (HarmlessStep cfg req) s (.start req client r :: ls)) := by
  obtain ⟨u, hu, hrest⟩ := (exec_cons_eq_some_iff _).1 hrun
  obtain ⟨_, hopn, hanswers⟩ := opens_of_start hu
  have hnd := nodup_of_exec hreach
  have hbeg := begun_of_exec hreach
  have hwatched : Watched cfg userID req u := by
    refine ⟨begun_of_step hbeg hu, (sameUsers_of_step hu).nodup hnd, ?_, (hkeep u hu).1 id hbar, ?_⟩
    · rw [hopn.begun]
      exact mem_cons_self
    · intro x hx
      rw [hopn.threads, Function.update_self] at hx
      exact (concerns_of_names (hanswers x hx) hnames).step hbeg hu
  simp only [along_cons_of_eq hu]
  constructor
  · rintro ⟨-, hharm⟩
    refine ⟨fun h ↦ h.elim, ?_⟩
    exact along_of_invariant (fun s l t hs h hP ↦ (hs.step h hP.1 hP.2).1)
      (fun s l t hs h hP ↦ (hs.step h hP.1 hP.2).2) hwatched ((hkeep u hu).2.and hharm)
  · rintro hans hend ⟨-, hspar⟩
    exact ⟨fun h ↦ h.elim, harmless_of_spares hwatched hrest hans hend (hkeep u hu).2 hspar⟩

namespace Sample

/-- The user has set up the second factor, logs in with the password and is then disabled. -/
def disabled : List Label :=
  setup ++ login 2 ++ [.admin (.setStatus 1 .disabled)]

/-- Another login. -/
def relogin : List Label :=
  .start 3 client (.login ['u'] ['p']) :: statements 3 (choice 8 []) 1

/-- A confirmation of the setup with a wrong password. -/
def reconfirm : List Label :=
  .start 3 client (.setupConfirm ['u'] ['x'] ['k']) :: statements 3 (choice 8 []) 2

end Sample

/-- A disabled user tries to log in. -/
theorem spares_barred_iff_sample :
    ∃ s, exec (State.step Sample.cfg) .init Sample.disabled = some s ∧ s.Barred 1 ∧
      Along (State.step Sample.cfg) (SparingStep 1 3) s Sample.relogin := by
  refine exists_of_exec (fun s ↦ (s.getByUsername cfg ['u']).map User.id = some 1 ∧ s.Barred 1 ∧
        (exec (step cfg) s relogin).isSome ∧
        Along (step cfg) (KeepsBar 1 3) s relogin ∧
        Along (step cfg) (HarmlessStep cfg 3) s relogin) (by decide +kernel)
    fun s hs ⟨huser, hbar, hrun, hkeep, hharm⟩ ↦ ?_
  obtain ⟨t, ht⟩ := Option.isSome_iff_exists.1 hrun
  have hnames : (Request.login ['u'] ['p']).Names cfg s 1 := Option.map_eq_some_iff.1 huser
  exact ⟨hbar, (spares_barred_iff hs hnames hbar ht hkeep).1 hharm⟩

/-- A disabled user completes a challenge issued before, and a session is created; and a wrong
password sent to `handleMFASetupConfirm` is counted. -/
theorem not_spares_barred : ∃ s, exec (State.step Sample.cfg) .init Sample.disabled = some s ∧
    s.Barred 1 ∧
      ((Request.totp Sample.challengeID ['k']).Names Sample.cfg s 1 ∧
        ¬ Along (State.step Sample.cfg) (SparingStep 1 3) s (Sample.complete 3)) ∧
      (Request.setupConfirm ['u'] ['x'] ['k']).Names Sample.cfg s 1 ∧
        ¬ Along (State.step Sample.cfg) (SparingStep 1 3) s Sample.reconfirm := by
  refine exists_of_exec (fun s ↦ s.Barred 1 ∧ Uuid.parse challengeID = some 7 ∧
        (s.db.challenges 7).map Challenge.userID = some 1 ∧
        (s.getByUsername cfg ['u']).map User.id = some 1 ∧
        ¬ Along (step cfg) (SparingStep 1 3) s (complete 3) ∧
        ¬ Along (step cfg) (SparingStep 1 3) s reconfirm) (by decide +kernel)
    fun s hs ⟨hbar, hparse, hchal, huser, hcomp, hreconfirm⟩ ↦ ?_
  obtain ⟨c, hc, hid⟩ := Option.map_eq_some_iff.1 hchal
  exact ⟨hbar, ⟨⟨7, c, hparse, hc, hid⟩, hcomp⟩, Option.map_eq_some_iff.1 huser, hreconfirm⟩

end WartungsRemote.Auth
