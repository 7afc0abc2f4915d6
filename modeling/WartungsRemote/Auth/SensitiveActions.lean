import WartungsRemote.Auth.Reauth

/-!
# Every sensitive action has a token of its own

Whatever the schedule, the actions executed can be **mapped injectively to tokens**
(`reauthenticated`). Concurrent requests may carry the same token, and all of them may be past their
checks: it is the conditional `UPDATE` that lets only one go on, since a row that is consumed is
never usable again.

What has happened is read off the history, where **the order of events is that of a sublist**: an
action lies above the consumption of its token, this above the issuing, and this above the two
verifications.
-/

namespace WartungsRemote.Auth.Reauth

open Transition Function List Reauth.State

/-- The request that has executed its action. -/
def Event.executedBy : Event → Option ReqID
  | executed req _ _ => some req
  | password .. | code .. | issued .. | consumed .. => none

/-- The consumed token. -/
def Event.consumedToken : Event → Option UUID
  | consumed _ tokenID _ _ => some tokenID
  | password .. | code .. | issued .. | executed .. => none

/-- What a request of `Reauth` has verified. -/
structure Credentials where
  req : ReqID
  password : Text
  hash : Text
  code : Text
  secret : Text
  now : ℕ

namespace Credentials

/-- The password fits the stored hash, and the code the stored secret. -/
def Correct (cfg : Config) (c : Credentials) : Prop :=
  cfg.verifyPassword c.password c.hash = some true ∧ cfg.validate c.code c.secret c.now = true

/-- The two verifications, the latest first. -/
def events (c : Credentials) (userID : UUID) : List Event :=
  [.code c.req userID c.code c.secret c.now, .password c.req userID c.password c.hash]

end Credentials

/-- The token was issued to the user after a correct password and a correct code. -/
def Issued (cfg : Config) (h : History) (tokenID userID : UUID) (expiresAt : ℕ) : Prop :=
  ∃ c : Credentials, c.Correct cfg ∧ (Event.issued c.req tokenID userID expiresAt ::
    c.events userID).Sublist h

/-- The request consumed the token before it expired, issued to the same user before. -/
def Consumed (cfg : Config) (h : History) (req : ReqID) (tokenID userID : UUID) : Prop :=
  ∃ (c : Credentials) (expiresAt now : ℕ), c.Correct cfg ∧ now < expiresAt ∧
    (Event.consumed req tokenID userID now :: .issued c.req tokenID userID expiresAt ::
      c.events userID).Sublist h

/-- The request has executed the action, and has consumed the token before. -/
def Backed (cfg : Config) (h : History) (req : ReqID) (userID : UUID) (action : Action)
    (tokenID : UUID) : Prop :=
  ∃ (c : Credentials) (expiresAt now : ℕ), c.Correct cfg ∧ now < expiresAt ∧
    (Event.executed req userID action :: .consumed req tokenID userID now ::
      .issued c.req tokenID userID expiresAt :: c.events userID).Sublist h

/-- Every executed action has a token of its own. -/
structure Reauthenticated (cfg : Config) (h : History) : Prop where
  /-- A request executes one action at most, so that an action can be named by its request. -/
  executedOnce : (h.filterMap Event.executedBy).Nodup
  consumedOnce : (h.filterMap Event.consumedToken).Nodup
  tokens : ∃ token : ReqID → UUID, Set.InjOn token {req | req ∈ h.filterMap Event.executedBy} ∧
    ∀ req userID action, .executed req userID action ∈ h →
      Backed cfg h req userID action (token req)

/-! ### What a step does -/

variable {cfg : Config} {maxDuration : ℕ} {s t : State} {h : History}

/-- A request goes on to another thread, or ends. -/
structure Next (s t : State) (req : ReqID) (next : Option Thread) : Prop where
  begun : t.begun = s.begun
  threads : t.threads = update s.threads req next

/-- The place where a request begins. -/
def Thread.Initial : Thread → Prop
  | verifyPassword .. | consume .. => True
  | validateCode .. | insertToken .. | act .. => False

/-- One way a step can go. -/
inductive Act (cfg : Config) (s t : State) : List Event → Prop
  /-- Nothing happens; requests may begin or end. -/
  | quiet (htoks : t.tokens = s.tokens) (hbeg : s.begun ⊆ t.begun)
      (hths : ∀ req th, t.threads req = some th →
        s.threads req = some th ∨ req ∉ s.begun ∧ req ∈ t.begun ∧ th.Initial) : Act cfg s t []
  | password {req userID password code ip hash}
      (hthr : s.threads req = some (.verifyPassword userID password code ip))
      (hok : cfg.verifyPassword password hash = some true) (htoks : t.tokens = s.tokens)
      (hnext : Next s t req (some (.validateCode userID code ip))) :
      Act cfg s t [.password req userID password hash]
  | code {req userID code ip secret}
      (hthr : s.threads req = some (.validateCode userID code ip))
      (hok : cfg.validate code secret s.now = true) (htoks : t.tokens = s.tokens)
      (hnext : Next s t req (some (.insertToken userID ip))) :
      Act cfg s t [.code req userID code secret s.now]
  | issued {req userID ip r}
      (hthr : s.threads req = some (.insertToken userID ip))
      (hid : r.id ∉ s.tokens.map Token.id) (hr : r.userID = userID)
      (hunconsumed : r.consumedAt = none) (htoks : t.tokens = s.tokens ++ [r])
      (hnext : Next s t req none) : Act cfg s t [.issued req r.id userID r.expiresAt]
  | consumed {req userID action r next}
      (hthr : s.threads req = some (.consume userID r.id action))
      (hr : r ∈ s.tokens) (huse : r.Usable s.now userID)
      (htoks : t.tokens = (s.consume r.id userID).tokens)
      (hfollow : ∀ th ∈ next, th = .act userID action) (hnext : Next s t req next) :
      Act cfg s t [.consumed req r.id userID s.now]
  | executed {req userID action}
      (hthr : s.threads req = some (.act userID action)) (htoks : t.tokens = s.tokens)
      (hnext : Next s t req none) : Act cfg s t [.executed req userID action]

theorem act_of_ended (req : ReqID) : Act cfg s (s.setThread req none) [] := by
  refine .quiet rfl (Subset.refl _) fun req' th hth ↦ .inl ?_
  replace hth : update s.threads req none req' = some th := hth
  by_cases hreq : req' = req
  · rw [hreq, update_self] at hth
    exact absurd hth nofun
  · rwa [update_of_ne hreq] at hth

variable {req : ReqID} {userID : UUID} {th : Thread}

theorem act_of_begin {s' : State} {next : Option Thread} (hbegin : s'.begin req next = some t)
    (htoks : s'.tokens = s.tokens) (hbeg : s'.begun = s.begun) (hths : s'.threads = s.threads)
    (hinitial : ∀ th ∈ next, th.Initial) : Act cfg s t [] := by
  rw [begin, hbeg] at hbegin
  split_ifs at hbegin with hreq
  cases hbegin
  refine .quiet htoks (subset_cons_self _ _) fun req' th hth ↦ ?_
  replace hth : update s'.threads req next req' = some th := hth
  by_cases heq : req' = req
  · rw [heq, update_self] at hth
    exact .inr ⟨heq ▸ hreq, heq ▸ mem_cons_self, hinitial th hth⟩
  · rw [update_of_ne heq, hths] at hth
    exact .inl hth

theorem act_of_start {r : Request} (hstart : s.start req userID r = some t) : Act cfg s t [] := by
  cases r with
  | reauth =>
    rw [start] at hstart
    split_ifs at hstart with hemp
    · exact act_of_begin hstart rfl rfl rfl fun th hth ↦ absurd hth (Option.not_mem_none th)
    · refine act_of_begin hstart rfl rfl rfl fun th hth ↦ ?_
      split_ifs at hth
      · cases hth
        trivial
      · exact absurd hth nofun
  | act =>
    refine act_of_begin hstart rfl rfl rfl fun th hth ↦ ?_
    split_ifs at hth
    · obtain ⟨_, -, rfl⟩ := Option.map_eq_some_iff.1 hth
      trivial
    · exact absurd hth nofun

/-- What an action changes is not the business of `Reauth`. -/
theorem next_of_act {id : UUID} {hash : Text} {action : Action}
    (hact : s.act maxDuration userID id hash action = some t) :
    t.tokens = s.tokens ∧ Next s (t.setThread req none) req none := by
  cases action with
  | grantPrivilege | changePassword =>
    rw [act] at hact
    split_ifs at hact
    cases hact
    exact ⟨rfl, rfl, rfl⟩
  | revokeDevice | deleteDevice =>
    cases hact
    exact ⟨rfl, rfl, rfl⟩

/-- A statement whose caller goes on as `run` says, or gets an error although the statement was
executed. -/
theorem act_of_run {id : UUID} {hash : Text} {next : Option Thread} (hthr : s.threads req = some th)
    (hfits : th.Fits s id)
    (hnext : next = (th.run cfg maxDuration s req id hash).next ∨ next = none ∧ th.reads = false) :
    Act cfg s ((th.run cfg maxDuration s req id hash).state.setThread req next)
      (th.run cfg maxDuration s req id hash).events := by
  cases th with
  | verifyPassword _ password =>
    obtain rfl | ⟨-, hreads⟩ := hnext
    · rw [Thread.run]
      split
      · exact act_of_ended req
      · split_ifs with hok
        · exact .password hthr hok rfl ⟨rfl, rfl⟩
        · exact act_of_ended req
    · exact absurd hreads nofun
  | validateCode _ code =>
    obtain rfl | ⟨-, hreads⟩ := hnext
    · rw [Thread.run]
      split
      · exact act_of_ended req
      · split_ifs with hok
        · exact .code hthr hok.2 rfl ⟨rfl, rfl⟩
        · exact act_of_ended req
    · exact absurd hreads nofun
  | insertToken userID =>
    obtain rfl : next = none := hnext.elim (fun heq ↦ heq) And.left
    exact .issued (r := ⟨id, userID, s.now, s.now + 5 * minute, none, _⟩) hthr hfits rfl rfl rfl
      ⟨rfl, rfl⟩
  | consume userID tokenID =>
    rw [Thread.run] at hnext ⊢
    cases huse : s.usable tokenID userID with
    | none =>
      rw [huse] at hnext
      obtain rfl : next = none := hnext.elim (fun heq ↦ heq) And.left
      exact act_of_ended req
    | some r =>
      rw [huse] at hnext
      have hr : r.id = tokenID ∧ r.Usable s.now userID := by simpa using find?_some huse
      obtain rfl := hr.1
      refine .consumed hthr (mem_of_find?_eq_some huse) hr.2 rfl (fun th hth ↦ ?_) ⟨rfl, rfl⟩
      obtain rfl | ⟨rfl, -⟩ := hnext
      · exact (Option.some.inj hth).symm
      · exact absurd hth (Option.not_mem_none th)
  | act userID action =>
    rw [Thread.run] at hnext ⊢
    cases hact : s.act maxDuration userID id hash action with
    | none =>
      rw [hact] at hnext
      obtain rfl : next = none := hnext.elim (fun heq ↦ heq) And.left
      exact act_of_ended req
    | some =>
      rw [hact] at hnext
      obtain rfl : next = none := hnext.elim (fun heq ↦ heq) And.left
      obtain ⟨htoks, hnext'⟩ := next_of_act hact
      exact .executed hthr htoks hnext'

theorem act_of_effect {out : Outcome} {id : UUID} {hash : Text} (hthr : s.threads req = some th)
    (hfits : th.Fits s id) : Act cfg s
      ((th.effect cfg maxDuration s req id hash out).state.setThread req
        (th.effect cfg maxDuration s req id hash out).next)
      (th.effect cfg maxDuration s req id hash out).events := by
  cases out with
  | ok => exact act_of_run hthr hfits (.inl rfl)
  | failed => exact act_of_ended req
  | lost =>
    rw [Thread.effect]
    split_ifs with hreads
    · exact act_of_ended req
    · exact act_of_run hthr hfits (.inr ⟨rfl, by simpa using hreads⟩)

/-- `Act` has everything that a step can do. -/
theorem act_of_step {l : Label} (hstep : step cfg maxDuration s l = some t) :
    Act cfg s t (s.events cfg maxDuration l) := by
  cases l with
  | tick | others =>
    cases hstep
    exact .quiet rfl (Subset.refl _) fun _ _ hth ↦ .inl hth
  | start => exact act_of_start hstep
  | exec =>
    obtain ⟨e, he, rfl⟩ := Option.map_eq_some_iff.1 hstep
    rw [events, he]
    obtain ⟨_, hthr, hth⟩ := Option.bind_eq_some_iff.1 he
    split_ifs at hth with hfits
    cases hth
    exact act_of_effect hthr hfits

/-! ### What is remembered stays -/

theorem Issued.append {tokenID : UUID} {expiresAt : ℕ}
    (hiss : Issued cfg h tokenID userID expiresAt) (es : List Event) :
    Issued cfg (es ++ h) tokenID userID expiresAt := by
  obtain ⟨c, hc, hsub⟩ := hiss
  exact ⟨c, hc, hsub.trans (sublist_append_right es h)⟩

theorem Consumed.append {tokenID : UUID} (hcons : Consumed cfg h req tokenID userID)
    (es : List Event) : Consumed cfg (es ++ h) req tokenID userID := by
  obtain ⟨c, expiresAt, now, hc, hnow, hsub⟩ := hcons
  exact ⟨c, expiresAt, now, hc, hnow, hsub.trans (sublist_append_right es h)⟩

theorem Backed.append {tokenID : UUID} {action : Action}
    (hback : Backed cfg h req userID action tokenID) (es : List Event) :
    Backed cfg (es ++ h) req userID action tokenID := by
  obtain ⟨c, expiresAt, now, hc, hnow, hsub⟩ := hback
  exact ⟨c, expiresAt, now, hc, hnow, hsub.trans (sublist_append_right es h)⟩

/-- What has happened when a request has come to a statement. -/
def Thread.Follows (cfg : Config) (h : History) (req : ReqID) : Thread → Prop
  | verifyPassword .. | consume .. => True
  | validateCode userID _ _ =>
    ∃ password hash, cfg.verifyPassword password hash = some true ∧
      .password req userID password hash ∈ h
  | insertToken userID _ =>
    ∃ c : Credentials, c.req = req ∧ c.Correct cfg ∧ (c.events userID).Sublist h
  | act userID _ => ∃ tokenID, Consumed cfg h req tokenID userID

theorem Thread.Initial.follows (hinitial : th.Initial) (cfg : Config) (h : History) (req : ReqID) :
    th.Follows cfg h req := by
  cases th with
  | verifyPassword | consume => trivial
  | validateCode | insertToken | act => exact hinitial.elim

theorem Thread.Follows.append (hth : th.Follows cfg h req) (es : List Event) :
    th.Follows cfg (es ++ h) req := by
  cases th with
  | verifyPassword | consume => trivial
  | validateCode =>
    obtain ⟨password, hash, hok, hmem⟩ := hth
    exact ⟨password, hash, hok, mem_append_right es hmem⟩
  | insertToken =>
    obtain ⟨c, hreq, hc, hsub⟩ := hth
    exact ⟨c, hreq, hc, hsub.trans (sublist_append_right es h)⟩
  | act =>
    obtain ⟨tokenID, hcons⟩ := hth
    exact ⟨tokenID, hcons.append es⟩

/-! ### Tokens -/

/-- The rows and what has happened to them. -/
structure TokenInv (cfg : Config) (tokens : List Token) (h : History) : Prop where
  ids : (tokens.map Token.id).Nodup
  issued : ∀ r ∈ tokens, Issued cfg h r.id r.userID r.expiresAt
  known : ∀ id ∈ h.filterMap Event.consumedToken, id ∈ tokens.map Token.id
  unconsumed : ∀ r ∈ tokens, r.consumedAt = none → r.id ∉ h.filterMap Event.consumedToken
  consumedOnce : (h.filterMap Event.consumedToken).Nodup

namespace TokenInv

variable {tokens : List Token}

theorem append (hinv : TokenInv cfg tokens h) {es : List Event}
    (hes : es.filterMap Event.consumedToken = []) : TokenInv cfg tokens (es ++ h) := by
  have hcons : (es ++ h).filterMap Event.consumedToken = h.filterMap Event.consumedToken := by
    rw [filterMap_append, hes, nil_append]
  refine ⟨hinv.ids, fun r hr ↦ (hinv.issued r hr).append es, ?_, ?_, ?_⟩ <;> rw [hcons]
  exacts [hinv.known, hinv.unconsumed, hinv.consumedOnce]

theorem insert (hinv : TokenInv cfg tokens h) {r : Token} (hid : r.id ∉ tokens.map Token.id)
    (hr : Issued cfg h r.id r.userID r.expiresAt) : TokenInv cfg (tokens ++ [r]) h where
  ids := by
    rw [map_append, map_singleton]
    exact hinv.ids.append (nodup_singleton _) (disjoint_singleton.2 hid)
  issued r' hr' := by
    obtain hmem | rfl := mem_snoc.1 hr'
    · exact hinv.issued r' hmem
    · exact hr
  known id hmem := by
    rw [map_append]
    exact mem_append_left _ (hinv.known id hmem)
  unconsumed r' hr' hnone := by
    obtain hmem | rfl := mem_snoc.1 hr'
    · exact hinv.unconsumed r' hmem hnone
    · exact fun hmem ↦ hid (hinv.known r'.id hmem)
  consumedOnce := hinv.consumedOnce

theorem exists_of_mem_consume {tokenID userID : UUID} {r' : Token}
    (hr' : r' ∈ (s.consume tokenID userID).tokens) :
    ∃ r ∈ s.tokens, r'.id = r.id ∧ r'.userID = r.userID ∧ r'.expiresAt = r.expiresAt ∧
      (r'.consumedAt = none → r.consumedAt = none ∧ ¬(r.id = tokenID ∧ r.Usable s.now userID)) := by
  obtain ⟨r, hr, rfl⟩ := mem_map.1 hr'
  refine ⟨r, hr, ?_⟩
  split_ifs with hif
  · exact ⟨rfl, rfl, rfl, nofun⟩
  · exact ⟨rfl, rfl, rfl, fun hnone ↦ ⟨hnone, hif⟩⟩

theorem map_id_consume (tokenID userID : UUID) :
    (s.consume tokenID userID).tokens.map Token.id = s.tokens.map Token.id := by
  rw [consume, map_map]
  refine map_congr_left fun r _ ↦ ?_
  rw [comp_apply]
  split_ifs <;> rfl

theorem consume (hinv : TokenInv cfg s.tokens h) {r : Token} {req : ReqID} {userID : UUID}
    (hr : r ∈ s.tokens) (huse : r.Usable s.now userID) :
    TokenInv cfg (s.consume r.id userID).tokens (.consumed req r.id userID s.now :: h) where
  ids := by
    rw [map_id_consume]
    exact hinv.ids
  issued r' hr' := by
    obtain ⟨r₀, hr₀, hid, huser, hexp, -⟩ := exists_of_mem_consume hr'
    rw [hid, huser, hexp]
    exact (hinv.issued r₀ hr₀).append [_]
  known id hmem := by
    rw [map_id_consume]
    obtain rfl | hmem := mem_cons.1 hmem
    · exact mem_map_of_mem hr
    · exact hinv.known id hmem
  unconsumed r' hr' hnone := by
    obtain ⟨r₀, hr₀, hid, -, -, himp⟩ := exists_of_mem_consume hr'
    obtain ⟨hnone₀, hnot⟩ := himp hnone
    rw [hid]
    -- the row with the consumed id is `r` itself, and that one was usable
    intro hmem
    obtain heq | hmem := mem_cons.1 hmem
    · obtain rfl := inj_on_of_nodup_map hinv.ids hr₀ hr heq
      exact hnot ⟨rfl, huse⟩
    · exact hinv.unconsumed r₀ hr₀ hnone₀ hmem
  consumedOnce := nodup_cons.2 ⟨hinv.unconsumed r hr huse.2.1, hinv.consumedOnce⟩

end TokenInv

/-! ### Requests -/

/-- The requests and what they have done. -/
structure RequestInv (cfg : Config) (s : State) (h : History) : Prop where
  threads : ∀ req th, s.threads req = some th →
    req ∈ s.begun ∧ req ∉ h.filterMap Event.executedBy ∧ th.Follows cfg h req
  executed : ∀ req ∈ h.filterMap Event.executedBy, req ∈ s.begun
  executedOnce : (h.filterMap Event.executedBy).Nodup
  backed : ∀ req userID action, .executed req userID action ∈ h →
    ∃ tokenID, Backed cfg h req userID action tokenID

namespace RequestInv

theorem quiet (hinv : RequestInv cfg s h) (hbeg : s.begun ⊆ t.begun)
    (hths : ∀ req th, t.threads req = some th →
      s.threads req = some th ∨ req ∉ s.begun ∧ req ∈ t.begun ∧ th.Initial) :
      RequestInv cfg t h where
  threads req th hth := by
    obtain hold | ⟨hnew, hreq, hinitial⟩ := hths req th hth
    · obtain ⟨hreq, hnot, hfol⟩ := hinv.threads req th hold
      exact ⟨hbeg hreq, hnot, hfol⟩
    · exact ⟨hreq, fun hmem ↦ hnew (hinv.executed req hmem), hinitial.follows cfg h req⟩
  executed req hmem := hbeg (hinv.executed req hmem)
  executedOnce := hinv.executedOnce
  backed := hinv.backed

/-- A request goes on, and executes an action only as the last thing that it does. -/
theorem next (hinv : RequestInv cfg s h) {req : ReqID} {th : Thread} {next : Option Thread}
    {es : List Event} (hthr : s.threads req = some th) (hnext : Next s t req next)
    (hes : es.filterMap Event.executedBy = [] ∨ es.filterMap Event.executedBy = [req] ∧ next = none)
    (hfol : ∀ th ∈ next, th.Follows cfg (es ++ h) req)
    (hback : ∀ req userID action, .executed req userID action ∈ es →
      ∃ tokenID, Backed cfg (es ++ h) req userID action tokenID) : RequestInv cfg t (es ++ h) := by
  obtain ⟨hreq, hnot, -⟩ := hinv.threads req th hthr
  constructor
  case threads =>
    intro req' th' hth'
    rw [hnext.threads] at hth'
    rw [hnext.begun, filterMap_append, mem_append, not_or]
    by_cases heq : req' = req
    · rw [heq, update_self] at hth'
      obtain hes | ⟨-, rfl⟩ := hes
      · exact heq ▸ ⟨hreq, ⟨by simp [hes], hnot⟩, hfol th' hth'⟩
      · cases hth'
    · rw [update_of_ne heq] at hth'
      obtain ⟨hreq', hnot', hold⟩ := hinv.threads req' th' hth'
      refine ⟨hreq', ⟨?_, hnot'⟩, hold.append es⟩
      obtain hes | ⟨hes, -⟩ := hes <;> simp [hes, heq]
  case executed =>
    rw [hnext.begun, filterMap_append]
    obtain hes | ⟨hes, -⟩ := hes <;> rw [hes]
    · exact hinv.executed
    · exact forall_mem_cons.2 ⟨hreq, hinv.executed⟩
  case executedOnce =>
    rw [filterMap_append]
    obtain hes | ⟨hes, -⟩ := hes <;> rw [hes]
    · exact hinv.executedOnce
    · exact nodup_cons.2 ⟨hnot, hinv.executedOnce⟩
  case backed =>
    intro req' userID action hmem
    obtain hmem | hmem := mem_append.1 hmem
    · exact hback req' userID action hmem
    · obtain ⟨tokenID, hold⟩ := hinv.backed req' userID action hmem
      exact ⟨tokenID, hold.append es⟩

end RequestInv

/-! ### Runs -/

/-- What every reachable state and its history have in common. -/
structure Inv (cfg : Config) (w : Recorded) : Prop where
  token : TokenInv cfg w.1.tokens w.2
  request : RequestInv cfg w.1 w.2

theorem Inv.init (cfg : Config) : Inv cfg (.init, []) where
  token := ⟨nodup_nil, nofun, nofun, nofun, nodup_nil⟩
  request :=
    ⟨nofun, nofun, nodup_nil, nofun⟩

/-- **Issuing, consuming and acting keep the history in order.** -/
theorem Inv.act {es : List Event} (hinv : Inv cfg (s, h)) (hact : Act cfg s t es) :
    Inv cfg (t, es ++ h) := by
  obtain ⟨htoken, hreq⟩ := hinv
  cases hact with
  | quiet htoks hbeg hths => exact ⟨by rwa [htoks], hreq.quiet hbeg hths⟩
  | password hthr hok htoks hnext =>
    refine ⟨htoks ▸ htoken.append rfl, hreq.next hthr hnext (.inl rfl) ?_ (by simp)⟩
    intro th hth
    cases hth
    exact ⟨_, _, hok, mem_cons_self⟩
  | @code req _ code _ secret hthr hok htoks hnext =>
    obtain ⟨-, -, password, hash, hpw, hmem⟩ := hreq.threads _ _ hthr
    refine ⟨htoks ▸ htoken.append rfl, hreq.next hthr hnext (.inl rfl) ?_ (by simp)⟩
    intro th hth
    cases hth
    exact ⟨⟨req, password, hash, code, secret, s.now⟩, rfl, ⟨hpw, hok⟩,
      (singleton_sublist.2 hmem).cons_cons _⟩
  | issued hthr hid hr _ htoks hnext =>
    obtain ⟨-, -, c, rfl, hc, hsub⟩ := hreq.threads _ _ hthr
    subst hr
    refine ⟨?_, hreq.next hthr hnext (.inl rfl) nofun (by simp)⟩
    rw [htoks]
    exact (htoken.append rfl).insert hid ⟨c, hc, hsub.cons_cons _⟩
  | @consumed _ _ _ r next hthr hr huse htoks hfollow hnext =>
    obtain ⟨c, hc, hsub⟩ := htoken.issued r hr
    refine ⟨?_, hreq.next hthr hnext (.inl rfl) (fun th hth ↦ ?_) (by simp)⟩
    · rw [htoks]
      exact htoken.consume hr huse
    · obtain rfl := hfollow th hth
      obtain ⟨rfl, -, hexp⟩ := huse
      exact ⟨r.id, c, r.expiresAt, s.now, hc, hexp, hsub.cons_cons _⟩
  | executed hthr htoks hnext =>
    obtain ⟨-, -, tokenID, c, expiresAt, now, hc, hnow, hsub⟩ := hreq.threads _ _ hthr
    refine ⟨htoks ▸ htoken.append rfl, hreq.next hthr hnext (.inr ⟨rfl, rfl⟩) nofun ?_⟩
    intro req' userID' action' hmem
    obtain ⟨rfl, rfl, rfl⟩ := Event.executed.inj (mem_singleton.1 hmem)
    exact ⟨tokenID, c, expiresAt, now, hc, hnow, hsub.cons_cons _⟩

theorem Inv.step {w w' : Recorded} {l : Label} (hinv : Inv cfg w)
    (hstep : recordedStep cfg maxDuration w l = some w') :
    Inv cfg w' := by
  obtain ⟨t, ht, rfl⟩ := withHistory_eq_some_iff.1 hstep
  exact hinv.act (act_of_step ht)

/-- Two events counted under the same key are the same, if every key is counted once. -/
theorem eq_of_nodup_filterMap {α β : Type*} {f : α → Option β} {l : List α}
    (hl : (l.filterMap f).Nodup) {x y : α} {b : β} (hx : x ∈ l) (hy : y ∈ l) (hfx : f x = some b)
    (hfy : f y = some b) : x = y := by
  have hsymm : Std.Symm fun x y ↦ ∀ b, f x = some b → ∀ b', f y = some b' → b ≠ b' :=
    ⟨fun x y hxy b hb b' hb' ↦ (hxy b' hb' b hb).symm⟩
  by_contra hne
  exact (pairwise_filterMap.1 hl).forall hx hy hne b hfx b hfy rfl

theorem exists_of_executedBy {e : Event} (hby : e.executedBy = some req) :
    ∃ userID action, e = .executed req userID action := by
  cases e with
  | executed _ userID action =>
    cases hby
    exact ⟨userID, action, rfl⟩
  | password | code | issued | consumed => exact absurd hby nofun

theorem Inv.history {w : Recorded} (hinv : Inv cfg w) : Reauthenticated cfg w.2 := by
  have hexecuted : ∀ req ∈ w.2.filterMap Event.executedBy, ∃ tokenID, ∀ userID action,
      .executed req userID action ∈ w.2 → Backed cfg w.2 req userID action tokenID := by
    intro req hreq
    obtain ⟨e, he, hby⟩ := mem_filterMap.1 hreq
    obtain ⟨userID, action, rfl⟩ := exists_of_executedBy hby
    obtain ⟨tokenID, hback⟩ := hinv.request.backed req userID action he
    refine ⟨tokenID, fun userID' action' he' ↦ ?_⟩
    have heq := eq_of_nodup_filterMap hinv.request.executedOnce he' he rfl rfl
    obtain ⟨-, rfl, rfl⟩ := Event.executed.inj heq
    exact hback
  choose! token htoken using hexecuted
  have hcons : ∀ req ∈ w.2.filterMap Event.executedBy, ∃ userID now,
      .consumed req (token req) userID now ∈ w.2 := by
    intro req hreq
    obtain ⟨e, he, hby⟩ := mem_filterMap.1 hreq
    obtain ⟨userID, action, rfl⟩ := exists_of_executedBy hby
    obtain ⟨c, _, now, -, -, hsub⟩ := htoken req hreq userID action he
    exact ⟨userID, now, hsub.subset (mem_cons_of_mem _ mem_cons_self)⟩
  refine ⟨hinv.request.executedOnce, hinv.token.consumedOnce, token, ?_, fun req userID action he ↦
    ?_⟩
  · intro req₁ h₁ req₂ h₂ heq
    obtain ⟨_, _, hmem₁⟩ := hcons req₁ h₁
    obtain ⟨_, _, hmem₂⟩ := hcons req₂ h₂
    rw [← heq] at hmem₂
    -- a token that both have consumed was consumed in one event
    exact (Event.consumed.inj (eq_of_nodup_filterMap hinv.token.consumedOnce hmem₁ hmem₂ rfl rfl)).1
  · exact htoken req (mem_filterMap.2 ⟨_, he, rfl⟩) userID action he

namespace Sample

/-- User 7 has a password and a confirmed second factor. -/
def db : Tables :=
  { Tables.empty with
    users := [⟨7, ['u'], ['p'], .active, true, 0, none, none⟩]
    mfa := update (fun _ ↦ none) 7 (some ⟨['k'], some 0, []⟩) }

/-- Two requests carry one token: the one that consumes it deletes a device, the other ends. -/
def sharedToken : List Label :=
  [.others db (Device.Repo.empty.insert 3 4 "host" "1.0" []) [],
    .start 0 7 (.reauth ['p'] ['k'] []), .exec 0 .ok 1 [], .exec 0 .ok 1 [], .exec 0 .ok 1 [],
      .start 1 7 (.act (Uuid.string 1) (.revokeDevice 3)),
    .start 2 7 (.act (Uuid.string 1) (.deleteDevice 3)), .exec 2 .ok 0 [], .exec 1 .ok 0 [],
      .exec 2 .ok 0 []]

end Sample

example : ((exec (recordedStep Auth.Sample.cfg 0) (.init, []) Sample.sharedToken).map fun w ↦
    (w.2.filterMap Event.consumedToken, w.2.filterMap Event.executedBy)) = some ([1], [2]) := by
  decide +kernel

end WartungsRemote.Auth.Reauth
