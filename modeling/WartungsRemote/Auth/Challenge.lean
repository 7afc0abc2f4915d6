import WartungsRemote.Auth.Steps

/-!
# The limits of a challenge

A challenge is meant to be completed once, and to take at most five wrong codes. `CompleteMFA` reads
`consumed_at` and `attempts` in one statement and writes them in a later one, which does not look at
them again. Calls that overlap between the two read the same row: each of them evaluates a code, and
each can create a session (`not_challenge_limits_overlapping`). The rate limiter does not stand in
the way, because it counts the calls by the **text** of the id, which has many spellings.

If calls do not overlap in this way and all wrong codes are counted, at most one request is
**engaged** with the challenge, that is between the statement that reads it and the one that writes
it, or on the way from there to its session. `Consistent` says what the tables and the history have,
for each way in which a request can be engaged.
-/

namespace WartungsRemote.Auth

open Function List Option Transition

variable {cfg : Config} {s t : State} {l : Label} {req : ReqID} {th : Thread} {e : Effect}
  {cid : UUID}

/-! ### Requests engaged with a challenge -/

/-- The request has read the challenge and not written it. -/
def Thread.Pending (cid : UUID) : Thread → Prop
  | validateCode id _ _ _ => id = cid
  | countAttempt id => id = cid
  | consume id _ _ => id = cid
  | _ => False

instance (cid : UUID) : DecidablePred (Thread.Pending cid) := by
  rintro (_ | _) <;> unfold Thread.Pending <;> infer_instance

/-- The request has consumed the challenge and is on the way to its session. -/
def Thread.Redeems (cid : UUID) : Thread → Prop
  | resetFailed _ via _ => via = .challenge cid
  | createSession _ via _ => via = .challenge cid
  | _ => False

def Thread.Engaged (cid : UUID) (th : Thread) : Prop :=
  th.Pending cid ∨ th.Redeems cid

/-- The engaged requests are exactly the given one. -/
def State.Engages (s : State) (cid : UUID) (o : Option (ReqID × Thread)) : Prop :=
  ∀ q th, s.threads q = some th ∧ th.Engaged cid ↔ o = some (q, th)

/-- The sessions created from the challenge. -/
def State.sessionsFrom (s : State) (cid : UUID) : ℕ :=
  s.db.sessions.countP fun sess ↦ sess.via = .challenge cid

/-- A wrong code was evaluated against the challenge. -/
def Event.IsWrong (cid : UUID) : Event → Bool
  | .evaluated _ _ id _ _ valid => id = some cid && !valid
  | _ => false

/-- The wrong codes evaluated against the challenge. -/
def State.wrongCodes (s : State) (cid : UUID) : ℕ :=
  s.history.countP (Event.IsWrong cid)

/-- What a challenge, the sessions created from it and the wrong codes have to do with each other,
for a request engaged with it. -/
def Consistent : Option Thread → Option Challenge → ℕ → ℕ → Prop
  | none, none, sessions, wrong => sessions = 0 ∧ wrong = 0
  | none, some c, sessions, wrong =>
    sessions ≤ 1 ∧ (sessions ≠ 0 → c.consumedAt ≠ none) ∧ wrong ≤ c.attempts ∧ c.attempts ≤ 5
  | some (.validateCode _ _ _ _), some c, sessions, wrong =>
    sessions = 0 ∧ c.consumedAt = none ∧ wrong ≤ c.attempts ∧ c.attempts < 5
  | some (.consume _ _ _), some c, sessions, wrong =>
    sessions = 0 ∧ c.consumedAt = none ∧ wrong ≤ c.attempts ∧ c.attempts < 5
  | some (.countAttempt _), some c, sessions, wrong =>
    sessions = 0 ∧ c.consumedAt = none ∧ wrong ≤ c.attempts + 1 ∧ c.attempts < 5
  | some (.resetFailed _ _ _), some c, sessions, wrong =>
    sessions = 0 ∧ c.consumedAt ≠ none ∧ wrong ≤ c.attempts ∧ c.attempts ≤ 5
  | some (.createSession _ _ _), some c, sessions, wrong =>
    sessions = 0 ∧ c.consumedAt ≠ none ∧ wrong ≤ c.attempts ∧ c.attempts ≤ 5
  | _, _, _, _ => False

/-- The invariant of a challenge. -/
def ChallengeInv (cid : UUID) (s : State) : Prop :=
  ∃ o, s.Engages cid o ∧
    Consistent (o.map Prod.snd) (s.db.challenges cid) (s.sessionsFrom cid) (s.wrongCodes cid)

variable {sessions : ℕ} {o : Option (ReqID × Thread)} {y : Thread} {c : Challenge}

theorem Consistent.limits {o : Option Thread} {row : Option Challenge} {wrong : ℕ}
    (h : Consistent o row sessions wrong) : sessions ≤ 1 ∧ wrong ≤ 5 := by
  unfold Consistent at h
  split at h <;> first | omega | exact h.elim

/-! ### How requests become engaged -/

theorem State.Engages.commit_self (h : s.Engages cid o) (ho : ∀ p ∈ o, p.1 = req)
    {x : Option (ReqID × Thread)} (hx : ∀ y, e.next = some y ∧ y.Engaged cid ↔ x = some (req, y))
    (hreq : ∀ p ∈ x, p.1 = req) : (s.commit req e).Engages cid x := by
  intro q th
  rcases eq_or_ne q req with rfl | hq
  · rw [commit_threads_self]
    exact hx th
  · rw [commit_threads_of_ne hq, h q th]
    exact ⟨fun hpair ↦ absurd (ho _ hpair) hq, fun hpair ↦ absurd (hreq _ hpair) hq⟩

theorem State.Engages.leave (h : s.Engages cid o) (ho : ∀ p ∈ o, p.1 = req)
    (hnext : ∀ y, e.next = some y → ¬ y.Engaged cid) : (s.commit req e).Engages cid none :=
  h.commit_self ho (fun y ↦ ⟨fun hy ↦ absurd hy.2 (hnext y hy.1), nofun⟩) nofun

theorem State.Engages.enter (h : s.Engages cid o) (ho : ∀ p ∈ o, p.1 = req)
    (hnext : e.next = some y) (hy : y.Engaged cid) :
    (s.commit req e).Engages cid (some (req, y)) := by
  refine h.commit_self ho (fun z ↦ ?_) fun p hp ↦ (some.inj hp) ▸ rfl
  rw [hnext]
  constructor
  · rintro ⟨hz, -⟩
    rw [some.inj hz]
  · intro hz
    obtain rfl : y = z := congrArg Prod.snd (some.inj hz)
    exact ⟨rfl, hy⟩

theorem State.Engages.other (h : s.Engages cid o) (hth : s.threads req = some th)
    (hnot : ¬ th.Engaged cid) (hnext : ∀ y, e.next = some y → ¬ y.Engaged cid) :
    (s.commit req e).Engages cid o := by
  intro q x
  rcases eq_or_ne q req with rfl | hq
  · rw [commit_threads_self, ← h q x, hth]
    constructor
    · rintro ⟨hx, heng⟩
      exact absurd heng (hnext x hx)
    · rintro ⟨hx, heng⟩
      exact absurd (some.inj hx ▸ heng) hnot
  · rw [commit_threads_of_ne hq]
    exact h q x

/-! ### What a statement does to the numbers -/

/-- The sessions from the challenge that a write inserts. -/
def Write.sessionsFrom (cid : UUID) : Write → ℕ
  | .insertSession sess => if sess.via = .challenge cid then 1 else 0
  | _ => 0

theorem sessionsFrom_commit :
    (s.commit req e).sessionsFrom cid = s.sessionsFrom cid + e.write.sessionsFrom cid := by
  show ((s.db.apply s.now e.write).sessions.countP _) = _
  cases hw : e.write with
  | insertSession sess =>
    show (s.db.sessions ++ [sess]).countP _ = _
    rw [countP_append, countP_singleton]
    simp only [Write.sessionsFrom, decide_eq_true_eq]
    rfl
  | _ => rfl

theorem wrongCodes_commit :
    (s.commit req e).wrongCodes cid = s.wrongCodes cid + e.events.countP (Event.IsWrong cid) := by
  have hwrite : e.write.events.countP (Event.IsWrong cid) = 0 := by
    cases e.write <;> rfl
  show (s.history ++ e.write.events ++ e.events).countP _ = _
  rw [countP_append, countP_append, hwrite, Nat.add_zero]
  rfl

/-- The row of a challenge is written by three kinds of statements. -/
theorem challenges_apply_eq {db : Tables} {now : ℕ} {w : Write}
    (hins : ∀ c, w ≠ .insertChallenge cid c) (hcnt : w ≠ .countAttempt cid)
    (hconsume : w ≠ .consumeChallenge cid) :
    (db.apply now w).challenges cid = db.challenges cid := by
  cases w with
  | insertChallenge _ c =>
    refine update_of_ne (fun h ↦ hins c ?_) ..
    rw [h]
  | countAttempt =>
    refine update_of_ne (fun h ↦ hcnt ?_) ..
    rw [h]
  | consumeChallenge =>
    refine update_of_ne (fun h ↦ hconsume ?_) ..
    rw [h]
  | _ => rfl

/-- What a request does that has nothing to do with the challenge. -/
structure Apart (cid : UUID) (e : Effect) : Prop where
  next : ∀ y, e.next = some y → ¬ y.Engaged cid
  events : e.events.countP (Event.IsWrong cid) = 0
  sessions : e.write.sessionsFrom cid = 0
  count : e.write ≠ .countAttempt cid
  consume : e.write ≠ .consumeChallenge cid

theorem not_engaged_of_eq_some {x : Thread} (hx : ¬ x.Engaged cid) (h : some x = some y) :
    ¬ y.Engaged cid :=
  some.inj h ▸ hx

theorem Move.apart (h : Move cfg s req th e) (hnot : ¬ th.Engaged cid)
    (hread : ∀ code client, th ≠ .completeMFA cid code client) : Apart cid e := by
  cases h with
  -- a request engaged with another challenge stays so
  | openChallenge =>
    refine ⟨fun y ↦ not_engaged_of_eq_some ?_, rfl, rfl, nofun, nofun⟩
    rintro (rfl | h)
    · exact hread _ _ rfl
    · exact h
  | notConfigured | resetFailed | resetIgnored =>
    exact ⟨fun y ↦ not_engaged_of_eq_some hnot, rfl, rfl, nofun, nofun⟩
  | wrongCode =>
    refine ⟨fun y ↦ not_engaged_of_eq_some hnot, ?_, rfl, nofun, nofun⟩
    simpa [Event.IsWrong, Thread.Engaged, Thread.Pending, Thread.Redeems] using hnot
  | rightCode =>
    refine ⟨fun y ↦ not_engaged_of_eq_some hnot, ?_, rfl, nofun, nofun⟩
    simp [Event.IsWrong]
  | countAttempt =>
    refine ⟨nofun, rfl, rfl, ?_, nofun⟩
    rintro h
    exact hnot (.inl (Write.countAttempt.inj h))
  | consume =>
    refine ⟨fun y ↦ not_engaged_of_eq_some ?_, rfl, rfl, nofun, fun h ↦ ?_⟩
    · rintro (h | h)
      · exact h
      · exact hnot (.inl (Via.challenge.inj h))
    · exact hnot (.inl (Write.consumeChallenge.inj h))
  | consumeLost =>
    refine ⟨nofun, rfl, rfl, nofun, fun h ↦ ?_⟩
    exact hnot (.inl (Write.consumeChallenge.inj h))
  | createSession _ _ hvia =>
    refine ⟨nofun, rfl, if_neg fun h ↦ hnot (.inr ?_), nofun, nofun⟩
    exact hvia.symm.trans h
  -- the others do not come near a challenge
  | exempt | confirm =>
    refine ⟨fun y ↦ not_engaged_of_eq_some ?_, rfl, rfl, nofun, nofun⟩
    rintro (h | h) <;> cases h
  | rightLogin | wrongLogin | challenged | unconfirmed | wrongSetup | rightSetup | rightSetupCode
  | recover =>
    refine ⟨fun y ↦ not_engaged_of_eq_some ?_, rfl, rfl, nofun, nofun⟩
    rintro (h | h) <;> exact h
  | stop | beginSetup | createChallenge | wrongSetupCode | confirmLost | registerFailed
  | recoverUpdate
  | recoverLost =>
    exact ⟨nofun, rfl, rfl, nofun, nofun⟩

/-! ### The invariant is kept -/

variable (hs : ChallengeInv cid s)
include hs

/-- A statement that has nothing to do with the challenge. -/
theorem ChallengeInv.apart (hth : s.threads req = some th)
    (hmove : Move cfg s req th e) (hfits : e.write.Fits cfg.sameName s.db) (hnot : ¬ th.Engaged cid)
    (hapart : Apart cid e) : ChallengeInv cid (s.commit req e) := by
  obtain ⟨o, heng, hcons⟩ := hs
  refine ⟨o, heng.other hth hnot hapart.next, ?_⟩
  rw [sessionsFrom_commit, wrongCodes_commit, hapart.sessions, hapart.events, Nat.add_zero,
    Nat.add_zero]
  by_cases hins : ∃ c, e.write = .insertChallenge cid c
  · -- the challenge is new: nothing has happened to it
    obtain ⟨c, hw⟩ := hins
    have hnone : s.db.challenges cid = none := by
      rw [hw] at hfits
      exact hfits
    have hrow : (s.commit req e).db.challenges cid = some c := by
      show (s.db.apply s.now e.write).challenges cid = _
      rw [hw, Tables.challenges_insertChallenge]
    rw [hnone] at hcons
    rw [hrow]
    rcases o with _ | ⟨q, x⟩
    · obtain ⟨hsess, hwrong⟩ := hcons
      have hatt := (hmove.of_insertChallenge hw).2.1
      exact ⟨by omega, by omega, by omega, by omega⟩
    · cases x <;> exact hcons.elim
  · have hrow : (s.commit req e).db.challenges cid = s.db.challenges cid :=
      challenges_apply_eq (fun c hw ↦ hins ⟨c, hw⟩) hapart.count hapart.consume
    rw [hrow]
    exact hcons

/-- A request reads the open challenge, and nobody else is about to write it. -/
theorem ChallengeInv.read {code : Text} {client : Client}
    (hpending : ∀ q x, s.threads q = some x → ¬ x.Pending cid) (hrow : s.db.challenges cid = some c)
    (hopen : c.Open s.now) :
    ChallengeInv cid (s.commit req { next := some (.validateCode cid c.userID code client) }) := by
  obtain ⟨o, heng, hcons⟩ := hs
  have hnone : o = none := by
    rcases o with _ | ⟨q, x⟩
    · rfl
    -- a request engaged and not pending has consumed the challenge
    obtain ⟨hx, hpend | hredeems⟩ := (heng q x).2 rfl
    · exact absurd hpend (hpending q x hx)
    · rw [hrow] at hcons
      cases x with
      | resetFailed | createSession => exact absurd hopen.1 hcons.2.1
      | _ => exact hredeems.elim
  subst hnone
  refine ⟨_, heng.enter nofun rfl (.inl rfl), ?_⟩
  have hrow' : (s.commit req
      { next := some (.validateCode cid c.userID code client) }).db.challenges cid = some c := hrow
  rw [sessionsFrom_commit, wrongCodes_commit, hrow']
  rw [hrow] at hcons
  obtain ⟨-, hconsumed, hwrong, -⟩ := hcons
  have hsess : s.sessionsFrom cid = 0 := by
    by_contra h
    exact hconsumed h hopen.1
  exact ⟨hsess, hopen.1, hwrong, hopen.2.2⟩

/-- A statement of the engaged request, which changes the row by `f`: what is left to show is that
the numbers fit. -/
theorem ChallengeInv.engaged (hth : s.threads req = some th)
    (heng : th.Engaged cid) (hnext : ∀ y, e.next = some y → y.Engaged cid)
    (f : Challenge → Challenge)
    (hrow : ∀ c, s.db.challenges cid = some c → (s.db.apply s.now e.write).challenges cid =
      some (f c)) (hcons : ∀ c sessions wrong, Consistent (some th) (some c) sessions wrong →
        Consistent e.next (some (f c)) (sessions + e.write.sessionsFrom cid)
        (wrong + e.events.countP (Event.IsWrong cid))) : ChallengeInv cid (s.commit req e) := by
  obtain ⟨o, hengages, hbef⟩ := hs
  obtain rfl := (hengages req th).1 ⟨hth, heng⟩
  have ho : ∀ p ∈ some (req, th), p.1 = req := fun p hp ↦ some.inj hp ▸ rfl
  have haft : Consistent e.next ((s.commit req e).db.challenges cid)
      ((s.commit req e).sessionsFrom cid) ((s.commit req e).wrongCodes cid) := by
    rcases hc : s.db.challenges cid with _ | c <;> rw [hc] at hbef
    · cases th <;> exact hbef.elim
    · rw [sessionsFrom_commit, wrongCodes_commit,
        show (s.commit req e).db.challenges cid = some (f c) from hrow c hc]
      exact hcons c _ _ hbef
  rcases hy : e.next with _ | y <;> rw [hy] at haft
  · exact ⟨none, hengages.leave ho fun y h ↦ absurd (hy.symm.trans h) nofun, haft⟩
  · exact ⟨some (req, y), hengages.enter ho hy (hnext y hy), haft⟩

omit hs in
theorem Consistent.stop {wrong : ℕ} (h : Consistent (some th) (some c) sessions wrong)
    (hcnt : ∀ id, th ≠ .countAttempt id) : Consistent none (some c) sessions wrong := by
  cases th with
  | countAttempt id => exact absurd rfl (hcnt id)
  | validateCode | consume =>
    obtain ⟨hsess, hcons, hwrong, hatt⟩ := h
    exact ⟨by omega, by omega, hwrong, by omega⟩
  | resetFailed | createSession =>
    obtain ⟨hsess, hcons, hwrong, hatt⟩ := h
    exact ⟨by omega, fun _ ↦ hcons, hwrong, hatt⟩
  | _ => exact h.elim

/-- The statements of an engaged request, apart from the one that counts a wrong code. -/
theorem ChallengeInv.move (hth : s.threads req = some th)
    (hmove : Move cfg s req th e) (heng : th.Engaged cid) (hcnt : ∀ id, th ≠ .countAttempt id) :
    ChallengeInv cid (s.commit req e) := by
  cases hmove with
  | stop => exact hs.engaged hth heng nofun id (fun c hc ↦ hc) fun c _ _ h ↦ h.stop hcnt
  | @notConfigured id =>
    obtain rfl : id = cid := heng.resolve_right nofun
    refine hs.engaged hth heng (fun y hy ↦ some.inj hy ▸ .inl rfl) (fun c ↦ c) (fun c hc ↦ hc) ?_
    rintro c sessions wrong ⟨hsess, hcons, hwrong, hatt⟩
    exact ⟨hsess, hcons, Nat.le_succ_of_le hwrong, hatt⟩
  | @wrongCode id userID code _ m =>
    obtain rfl : id = cid := heng.resolve_right nofun
    refine hs.engaged hth heng (fun y hy ↦ some.inj hy ▸ .inl rfl) (fun c ↦ c) (fun c hc ↦ hc) ?_
    rintro c sessions wrong ⟨hsess, hcons, hwrong, hatt⟩
    have hone : [Event.evaluated req userID (some id) code m.secret false].countP
        (Event.IsWrong id) = 1 := by
      simp [Event.IsWrong]
    rw [hone]
    exact ⟨hsess, hcons, Nat.succ_le_succ hwrong, hatt⟩
  | @rightCode id userID code _ m =>
    obtain rfl : id = cid := heng.resolve_right nofun
    refine hs.engaged hth heng (fun y hy ↦ some.inj hy ▸ .inl rfl) (fun c ↦ c) (fun c hc ↦ hc)
      fun c sessions wrong h ↦ ?_
    have hzero : [Event.evaluated req userID (some id) code m.secret true].countP
        (Event.IsWrong id) = 0 := by
      simp [Event.IsWrong]
    rw [hzero]
    exact h
  | countAttempt => exact absurd rfl (hcnt _)
  | @consume id =>
    obtain rfl : id = cid := heng.resolve_right nofun
    refine hs.engaged hth heng (fun y hy ↦ some.inj hy ▸ .inr rfl)
      (fun c ↦ { c with consumedAt := some s.now }) (fun c hc ↦ ?_) ?_
    · rw [Tables.challenges_consumeChallenge, hc, map_some]
    · rintro c sessions wrong ⟨hsess, hcons, hwrong, hatt⟩
      exact ⟨hsess, nofun, hwrong, hatt.le⟩
  | @consumeLost id =>
    obtain rfl : id = cid := heng.resolve_right nofun
    refine hs.engaged hth heng nofun (fun c ↦ { c with consumedAt := some s.now }) (fun c hc ↦
      ?_) ?_
    · rw [Tables.challenges_consumeChallenge, hc, map_some]
    · rintro c sessions wrong ⟨hsess, hcons, hwrong, hatt⟩
      exact ⟨by rw [hsess]; exact Nat.zero_le _, fun _ ↦ nofun, hwrong, hatt.le⟩
  | resetFailed | resetIgnored =>
    exact hs.engaged hth heng (fun y hy ↦ some.inj hy ▸ .inr (heng.resolve_left id)) id
      (fun c hc ↦ hc) fun c _ _ h ↦ h
  | @createSession _ _ _ sess _ _ hvia =>
    refine hs.engaged hth heng nofun id (fun c hc ↦ hc) ?_
    rintro c sessions wrong ⟨hsess, hcons, hwrong, hatt⟩
    have hone : Write.sessionsFrom cid (.insertSession sess) = 1 :=
      if_pos (hvia.trans (heng.resolve_left id))
    show Consistent none (some c) (sessions + Write.sessionsFrom cid (.insertSession sess)) _
    rw [hone]
    exact ⟨by omega, fun _ ↦ hcons, hwrong, hatt⟩
  | exempt | confirm | confirmLost | challenged | unconfirmed | beginSetup | createChallenge
  | wrongLogin
  | rightLogin | openChallenge | wrongSetup | rightSetup | wrongSetupCode | rightSetupCode
  | registerFailed
  | recover | recoverUpdate | recoverLost => exact heng.elim False.elim False.elim

/-- A wrong code was evaluated, and is counted now. -/
theorem ChallengeInv.count (hth : s.threads req = some (.countAttempt cid)) :
    ChallengeInv cid (s.commit req { write := .countAttempt cid }) := by
  refine hs.engaged hth (.inl rfl) nofun (fun c ↦ { c with attempts := c.attempts + 1 }) (fun c hc ↦
    ?_) ?_
  · rw [Tables.challenges_countAttempt, hc, map_some]
  · rintro c sessions wrong ⟨hsess, -, hwrong, hatt⟩
    exact ⟨by rw [hsess]; exact Nat.zero_le _, fun h ↦ absurd hsess h, hwrong, hatt⟩

theorem ChallengeInv.calm (hcalm : Calm s t) : ChallengeInv cid t := by
  obtain ⟨o, hengages, hcons⟩ := hs
  refine ⟨o, fun q x ↦ ?_, ?_⟩
  · rw [← hengages q x]
    constructor
    · rintro ⟨hx, heng⟩
      refine ⟨(hcalm.threads q x hx).resolve_right fun hentry ↦ ?_, heng⟩
      cases x <;> first | exact hentry | exact heng.elim id id
    · rintro ⟨hx, heng⟩
      exact ⟨hcalm.kept q x hx, heng⟩
  · rw [hcalm.challenges]
    unfold State.sessionsFrom State.wrongCodes at hcons ⊢
    rw [hcalm.sessions, hcalm.history]
    exact hcons

omit hs

/-! ### Calls that do not overlap -/

/-- The next statement of the request reads the challenge. -/
def Thread.Reads (cid : UUID) : Thread → Prop
  | completeMFA id _ _ => id = cid
  | _ => False

instance (cid : UUID) : DecidablePred (Thread.Reads cid) := by
  rintro (_ | _) <;> unfold Thread.Reads <;> infer_instance

/-- When a request reads the challenge, no other one has read it and not yet written it; a wrong
code is counted. -/
def Orderly (cid : UUID) (s : State) : Label → Prop
  | .exec req out _ =>
    (∀ th ∈ s.threads req, th.Reads cid → ∀ q ∈ s.begun, ∀ x ∈ s.threads q, ¬ x.Pending cid) ∧
      (s.threads req = some (.countAttempt cid) → out ≠ .failed)
  | _ => True

instance (cid : UUID) (s : State) : DecidablePred (Orderly cid s) := by
  rintro (_ | _) <;> unfold Orderly <;> infer_instance

include hs in
/-- **Every orderly step keeps the limits of the challenge.** -/
theorem ChallengeInv.step (hbeg : ∀ q x, s.threads q = some x → q ∈ s.begun)
    (h : s.step cfg l = some t) (hgrd : Orderly cid s l) : ChallengeInv cid t := by
  obtain hcalm | ⟨req, out, choice, th, rfl, hth, hfits, rfl⟩ := calm_or_exec hbeg h
  · exact hs.calm hcalm
  have hmove : Move cfg s req th (th.effect cfg s req choice out) := move_effect out choice th
  by_cases heng : th.Engaged cid
  · by_cases hcnt : ∃ id, th = .countAttempt id
    · -- the write takes effect, whether the caller is told so or not
      obtain ⟨id, rfl⟩ := hcnt
      obtain rfl : id = cid := heng.resolve_right nofun
      cases out with
      | ok | lost => exact hs.count hth
      | failed => exact absurd rfl (hgrd.2 hth)
    · exact hs.move hth hmove heng fun id h ↦ hcnt ⟨id, h⟩
  · by_cases hreads : th.Reads cid
    · have hpend : ∀ q x, s.threads q = some x → ¬ x.Pending cid := fun q x hx ↦
        hgrd.1 th hth hreads q (hbeg q x hx) x hx
      generalize th.effect cfg s req choice out = e at hmove hfits
      cases hmove with
      | @openChallenge id _ _ _ hchal hopen =>
        obtain rfl : id = cid := hreads
        exact hs.read hpend hchal hopen
      | stop => exact hs.apart hth .stop hfits heng ⟨nofun, rfl, rfl, nofun, nofun⟩
      | _ => exact hreads.elim
    · refine hs.apart hth hmove hfits heng (hmove.apart heng ?_)
      rintro code client rfl
      exact hreads rfl

/-- **The limits of a challenge.** If the calls of `CompleteMFA` for a challenge do not overlap and
the wrong codes are counted, at most one session is created from it, and at most five wrong codes
are evaluated against it. -/
theorem challenge_limits {ls : List Label} (h : exec (State.step cfg) .init ls = some t)
    (hgrd : Along (State.step cfg) (fun s l _ ↦ Orderly cid s l) .init ls) :
    t.sessionsFrom cid ≤ 1 ∧ t.wrongCodes cid ≤ 5 := by
  have hinv : ChallengeInv cid t := by
    refine (invariant_of_along
      (I := fun s ↦ ChallengeInv cid s ∧ ∀ q x, s.threads q = some x → q ∈ s.begun) ?_ ?_ h hgrd).1
    · rintro s l t ⟨hs, hbeg⟩ hstep hord
      exact ⟨hs.step hbeg hstep hord, begun_of_step hbeg hstep⟩
    · refine ⟨⟨none, fun q x ↦ ⟨fun hx ↦ absurd hx.1 nofun, nofun⟩, rfl, rfl⟩, nofun⟩
  obtain ⟨o, -, hcons⟩ := hinv
  exact hcons.limits

/-- A login completed at the first try. -/
theorem challenge_limits_sample :
    ∃ t, exec (State.step Sample.cfg) .init (Sample.setup ++ Sample.login 2 ++ Sample.complete 3) =
      some t ∧ t.sessionsFrom 7 = 1 ∧ t.sessionsFrom 7 ≤ 1 ∧ t.wrongCodes 7 ≤ 5 := by
  refine exists_of_exec (fun t ↦ t.sessionsFrom 7 = 1) (by decide +kernel) fun t ht hsess ↦ ?_
  exact ⟨hsess, challenge_limits ht (by decide +kernel)⟩

/-! ### Calls that overlap -/

namespace Sample

/-- Two calls with the right code both read the challenge before one of them consumes it. -/
def overlap : List Label :=
  setup ++ login 2 ++
    [.start 3 client (.totp challengeID ['k']), .start 4 client (.totp challengeID ['k']),
      .exec 3 .ok (choice 13 []), .exec 4 .ok (choice 14 [])] ++
    statements 3 (choice 13 []) 4 ++ statements 4 (choice 14 []) 4

/-- The same id without dashes. -/
def respelled : Text :=
  replicate 31 '0' ++ ['7']

/-- A call with a wrong code reads the challenge. -/
def guess (spelling : Text) (req : ReqID) : List Label :=
  [.start req client (.totp spelling ['x']), .exec req .ok (choice req [])]

/-- Six calls with a wrong code all read the challenge before one of them counts its code. The rate
limiter would not allow the sixth in the same spelling. -/
def guesses : List Label :=
  setup ++ login 2 ++ [3, 4, 5, 6, 7].flatMap (guess challengeID) ++ guess respelled 8 ++
    [3, 4, 5, 6, 7, 8].flatMap fun req ↦ statements req (choice req []) 1

end Sample

/-- Overlapping calls create two sessions from one challenge, and try six wrong codes on it. -/
theorem not_challenge_limits_overlapping :
    (∃ t, exec (State.step Sample.cfg) .init Sample.overlap = some t ∧ t.sessionsFrom 7 = 2) ∧
      ∃ t, exec (State.step Sample.cfg) .init Sample.guesses = some t ∧ t.wrongCodes 7 = 6 := by
  exact ⟨exists_of_exec _ (by decide +kernel) fun _ _ h ↦
    h, exists_of_exec _ (by decide +kernel) fun _ _ h ↦ h⟩

end WartungsRemote.Auth
