import WartungsRemote.Auth.Setup

/-!
# Recovery codes

`ConsumeRecoveryCode` reads the hashes of the user, takes one out and writes the whole list back,
without a lock. **A code is used once** along every run in which each write of a call replaces the
list that the call has read, and the call learns of it (`recovery_once`). Two calls that read before
either writes accept the same code, and a write whose reply is lost takes away a code that was not
accepted (`not_recovery_once`).
-/

namespace WartungsRemote.Auth

open Function List Option Sample State Transition

variable {cfg : Config} {s t : State} {l : Label} {req : ReqID} {th : Thread} {e : Effect}
  {userID : UUID} {m : UserMFA} {codeHash : Text} {hashes accepted₀ hashes₀ : List Text}
      {ls₀ ls : List Label}

/-- The hash accepted for the user. -/
def Event.acceptedHash (userID : UUID) : Event → Option Text
  | accepted _ id codeHash => if id = userID then some codeHash else none
  | _ => none

/-- The hashes accepted for the user so far. -/
def State.accepted (s : State) (userID : UUID) : List Text :=
  s.history.filterMap (Event.acceptedHash userID)

/-- The statement does not set up the second factor of the user. If it stores the recovery codes
left, it fails, or it replaces the list the call has read and the call gets the reply. -/
def Thread.Replaces (userID : UUID) (s : State) (out : Outcome) : Thread → Prop
  | recoverUpdate id _ recoveryCodeHashes => id = userID →
      out = .failed ∨ out = .ok ∧ ∀ m ∈ s.db.mfa id, m.recoveryCodeHashes = recoveryCodeHashes
  | th => ¬ th.WritesSecret userID

instance (userID : UUID) (s : State) (out : Outcome) :
    DecidablePred (Thread.Replaces userID s out) := by
  rintro (_ | _) <;> unfold Thread.Replaces <;> infer_instance

def Replacing (userID : UUID) (s : State) : Label → Prop
  | .exec req out _ => ∀ th ∈ s.threads req, th.Replaces userID s out
  | _ => True

instance (userID : UUID) (s : State) : DecidablePred (Replacing userID s) := by
  rintro (_ | _) <;> unfold Replacing <;> infer_instance

/-! ### What a statement does to the codes -/

/-- A call that is about to write has found its hash in the list. -/
def Thread.Found : Thread → Prop
  | recoverUpdate _ codeHash recoveryCodeHashes => codeHash ∈ recoveryCodeHashes
  | _ => True

theorem Thread.Entry.found (h : th.Entry) : th.Found := by
  cases th with
  | recoverUpdate => exact h.elim
  | _ => trivial

theorem Move.found (h : Move cfg s req th e) : ∀ x ∈ e.next, x.Found := by
  intro x hx
  cases h with
  | recover _ hcode => exact some.inj hx ▸ hcode
  | stop | beginSetup | createChallenge | countAttempt | consumeLost | wrongSetupCode | confirmLost
  | registerFailed | createSession | recoverUpdate | recoverLost => exact absurd hx nofun
  | _ => exact some.inj hx ▸ trivial

/-- Only the events of the statement count, not those of its write. -/
theorem accepted_commit : (s.commit req e).accepted userID =
    s.accepted userID ++ e.events.filterMap (Event.acceptedHash userID) := by
  have hwrite : e.write.events.filterMap (Event.acceptedHash userID) = [] := by
    cases e.write <;> rfl
  show (s.history ++ e.write.events ++ e.events).filterMap _ = _
  rw [filterMap_append, filterMap_append, hwrite, append_nil]
  rfl

/-- A statement that neither sets up the second factor of the user nor stores the codes left. -/
theorem Move.keeps_codes (h : Move cfg s req th e) (hsec : ¬ th.WritesSecret userID)
    (hrecs : ∀ codeHash hashes, th ≠ .recoverUpdate userID codeHash hashes) :
    (s.commit req e).db.mfa userID = s.db.mfa userID ∧
      (s.commit req e).accepted userID = s.accepted userID := by
  rw [accepted_commit]
  suffices hkeep : (∀ secret, e.write ≠ .storeSecret userID secret) ∧
      (∀ hashes, e.write ≠ .confirmMFA userID hashes) ∧
      (∀ hashes, e.write ≠ .setRecoveryCodeHashes userID hashes) ∧
      e.events.filterMap (Event.acceptedHash userID) = [] by
    obtain ⟨hstore, hconf, hset, hevs⟩ := hkeep
    exact ⟨mfa_apply_eq hstore hconf hset, by rw [hevs, append_nil]⟩
  cases h with
  | beginSetup =>
    refine ⟨fun _ hw ↦ hsec ?_, nofun, nofun, rfl⟩
    exact (Write.storeSecret.inj hw).1
  | confirm | confirmLost =>
    refine ⟨nofun, fun _ hw ↦ hsec ?_, nofun, rfl⟩
    exact (Write.confirmMFA.inj hw).1
  | @recoverUpdate id codeHash hashes =>
    have hid : id ≠ userID := fun hid ↦ hrecs codeHash hashes (hid ▸ rfl)
    refine ⟨nofun, nofun, fun _ hw ↦ hid (Write.setRecoveryCodeHashes.inj hw).1, ?_⟩
    simp [Event.acceptedHash, hid]
  | @recoverLost id codeHash hashes =>
    have hid : id ≠ userID := fun hid ↦ hrecs codeHash hashes (hid ▸ rfl)
    exact ⟨nofun, nofun, fun _ hw ↦ hid (Write.setRecoveryCodeHashes.inj hw).1, rfl⟩
  | _ => exact ⟨nofun, nofun, nofun, rfl⟩

/-! ### The codes are conserved -/

/-- The calls in progress have found their codes. -/
structure RecoveryInv (s : State) : Prop where
  begun : ∀ q x, s.threads q = some x → q ∈ s.begun
  found : ∀ q x, s.threads q = some x → x.Found

/-- What was accepted after `accepted₀` and what is left is what was stored. -/
def Conserves (userID : UUID) (accepted₀ hashes₀ : List Text) (s : State) : Prop :=
  ∃ codes m, s.accepted userID = accepted₀ ++ codes ∧ s.db.mfa userID = some m ∧
    (codes ++ m.recoveryCodeHashes).Perm hashes₀

/-- A call that is about to write has found its code in the list it has read. -/
theorem RecoveryInv.step (hs : RecoveryInv s) (h : s.step cfg l = some t) : RecoveryInv t := by
  refine ⟨begun_of_step hs.begun h, ?_⟩
  obtain hcalm | ⟨req, out, choice, th, rfl, -, -, rfl⟩ := calm_or_exec hs.begun h
  · intro q x hx
    rcases hcalm.threads q x hx with hold | hentry
    · exact hs.found q x hold
    · exact hentry.found
  · exact forall_thread_commit (fun q x _ hx ↦ hs.found q x hx) (move_effect out choice th).found

/-- The write of a call whose list is the one in the row takes out what is accepted. -/
theorem Conserves.replace (hs : Conserves userID accepted₀ hashes₀ s) (hfnd : codeHash ∈ hashes)
    (hcurr : ∀ m ∈ s.db.mfa userID, m.recoveryCodeHashes = hashes) :
    Conserves userID accepted₀ hashes₀ (s.commit req
      { write := .setRecoveryCodeHashes userID (hashes.erase codeHash)
        events := [.accepted req userID codeHash] }) := by
  obtain ⟨codes, m, hacc, hm, hperm⟩ := hs
  obtain rfl := hcurr m hm
  have hrow : (s.db.apply s.now (.setRecoveryCodeHashes userID
      (m.recoveryCodeHashes.erase codeHash))).mfa userID =
          some { m with recoveryCodeHashes := m.recoveryCodeHashes.erase codeHash } := by
    rw [Tables.mfa_setRecoveryCodeHashes, hm, map_some]
  refine ⟨codes ++ [codeHash], _, ?_, hrow, ?_⟩
  · rw [accepted_commit, hacc]
    simp [Event.acceptedHash]
  · calc
      codes ++ [codeHash] ++ m.recoveryCodeHashes.erase codeHash
        = codes ++ codeHash :: m.recoveryCodeHashes.erase codeHash := by simp
      _ ~ codes ++ m.recoveryCodeHashes := (perm_cons_erase hfnd).symm.append_left codes
      _ ~ hashes₀ := hperm

theorem Conserves.of_eq (hs : Conserves userID accepted₀ hashes₀ s)
    (hmfa : t.db.mfa userID = s.db.mfa userID) (hacc : t.accepted userID = s.accepted userID) :
    Conserves userID accepted₀ hashes₀ t := by
  rw [Conserves, hmfa, hacc]
  exact hs

/-- **A code moves from the stored ones to the accepted ones**, and none comes back. -/
theorem Conserves.step (hs : Conserves userID accepted₀ hashes₀ s) (hinv : RecoveryInv s)
    (h : s.step cfg l = some t) (hrepl : Replacing userID s l) :
    Conserves userID accepted₀ hashes₀ t := by
  obtain hcalm | ⟨req, out, choice, th, rfl, hth, -, rfl⟩ := calm_or_exec hinv.begun h
  · exact hs.of_eq (by rw [hcalm.mfa]) (by rw [State.accepted, hcalm.history]; rfl)
  have hreplaces := hrepl th hth
  by_cases hrecs : ∃ codeHash hashes, th = .recoverUpdate userID codeHash hashes
  · obtain ⟨codeHash, hashes, rfl⟩ := hrecs
    obtain rfl | ⟨rfl, hcurr⟩ := hreplaces rfl
    · exact hs.of_eq rfl (accepted_commit.trans (append_nil _))
    · exact hs.replace (hinv.found req _ hth) hcurr
  · have hsec : ¬ th.WritesSecret userID := by
      cases th with
      | recoverUpdate => exact id
      | _ => exact hreplaces
    obtain ⟨hmfa, hacc⟩ := (move_effect out choice th).keeps_codes hsec
      fun codeHash hashes heq ↦ hrecs ⟨codeHash, hashes, heq⟩
    exact hs.of_eq hmfa hacc

/-- **Recovery codes are used once.** From any state that the server reaches, along a run in which
every write of `ConsumeRecoveryCode` for the user replaces the list its call has read, the codes
accepted and those left are together the ones stored. -/
theorem recovery_once (hs : exec (step cfg) .init ls₀ = some s) (hm : s.db.mfa userID = some m)
    (hrun : exec (step cfg) s ls = some t)
    (hrepl : Along (step cfg) (fun s l _ ↦ Replacing userID s l) s ls) :
    ∃ codes m', t.accepted userID = s.accepted userID ++ codes ∧ t.db.mfa userID = some m' ∧
      (codes ++ m'.recoveryCodeHashes).Perm m.recoveryCodeHashes := by
  have hinit : RecoveryInv .init := ⟨nofun, nofun⟩
  have hinv : RecoveryInv s := invariant_of_exec (fun _ _ _ hs h ↦ hs.step h) hinit hs
  have hstart : Conserves userID (s.accepted userID) m.recoveryCodeHashes s :=
    ⟨[], m, (append_nil _).symm, hm, Perm.refl _⟩
  refine (invariant_of_along (I := fun s' ↦ RecoveryInv s' ∧
    Conserves userID (s.accepted userID) _ s') (fun _ _ _ hs h hrepl ↦ ?_) ⟨hinv, hstart⟩ hrun
      hrepl).2
  exact ⟨hs.1.step h, hs.2.step hs.1 h hrepl⟩

namespace Sample

/-- The recovery codes of the user. -/
def recoveryCode (i : Fin 10) : Text :=
  encodeHex (ofFn ((choice 6 []).recovery i))

/-- Two calls with different codes, one after the other. -/
def sequential : List Label :=
  .recover 2 1 (recoveryCode 0) :: statements 2 (choice 0 []) 2 ++
    .recover 3 1 (recoveryCode 1) :: statements 3 (choice 0 []) 2

/-- Two calls with the same code, which both read before either writes. -/
def concurrent : List Label :=
  [.recover 2 1 (recoveryCode 0), .recover 3 1 (recoveryCode 0)] ++
    [2, 3, 2, 3].map fun req ↦ .exec req .ok (choice 0 [])

/-- A call whose reply is lost. -/
def unanswered : List Label :=
  [.recover 2 1 (recoveryCode 0), .exec 2 .ok (choice 0 []), .exec 2 .lost (choice 0 [])]

end Sample

theorem recovery_once_sequential : ∃ s m t, exec (step Sample.cfg) .init setup = some s ∧
    s.db.mfa 1 = some m ∧ exec (step Sample.cfg) s sequential = some t ∧
    ∃ codes m', t.accepted 1 = s.accepted 1 ++ codes ∧ t.db.mfa 1 = some m' ∧
      (codes ++ m'.recoveryCodeHashes).Perm m.recoveryCodeHashes := by
  obtain ⟨s, hs, hmfa, hrun, hrepl⟩ : ∃ s, exec (step Sample.cfg) .init setup = some s ∧
      (s.db.mfa 1).isSome = true ∧ (exec (step Sample.cfg) s sequential).isSome = true ∧
      Along (step Sample.cfg) (fun s l _ ↦ Replacing 1 s l) s sequential :=
    exists_of_exec _ (by decide +kernel) fun _ _ h ↦ h
  obtain ⟨m, hm⟩ := isSome_iff_exists.1 hmfa
  obtain ⟨t, ht⟩ := isSome_iff_exists.1 hrun
  exact ⟨s, m, t, hs, hm, ht, recovery_once hs hm ht hrepl⟩

/-- One of ten codes is accepted twice; a code is gone, and none was accepted. -/
theorem not_recovery_once :
    (∃ s t codeHash, exec (step Sample.cfg) .init setup = some s ∧
      exec (step Sample.cfg) s concurrent = some t ∧
        (s.db.mfa 1).map (·.recoveryCodeHashes.count codeHash) = some 1 ∧
          t.accepted 1 = [codeHash, codeHash]) ∧
    ∃ s t, exec (step Sample.cfg) .init setup = some s ∧ exec (step Sample.cfg) s unanswered =
      some t ∧ (s.db.mfa 1).map (·.recoveryCodeHashes.length) = some 10 ∧
      (t.db.mfa 1).map (·.recoveryCodeHashes.length) = some 9 ∧ t.accepted 1 = [] := by
  obtain ⟨s, hs, hcnt, hconcurrent, hlen, huna⟩ : ∃ s, exec (step Sample.cfg) .init setup = some s ∧
      (s.db.mfa 1).map (·.recoveryCodeHashes.count (Sample.cfg.hashRecoveryCode (recoveryCode 0))) =
        some 1 ∧
      (exec (step Sample.cfg) s concurrent).map (·.accepted 1) =
        some (replicate 2 (Sample.cfg.hashRecoveryCode (recoveryCode 0))) ∧
      (s.db.mfa 1).map (·.recoveryCodeHashes.length) = some 10 ∧
      (exec (step Sample.cfg) s unanswered).map
        (fun t ↦ ((t.db.mfa 1).map (·.recoveryCodeHashes.length), t.accepted 1)) =
            some (some 9, []) :=
    exists_of_exec _ (by decide +kernel) fun _ _ h ↦ h
  obtain ⟨t, ht, hacc⟩ := map_eq_some_iff.1 hconcurrent
  obtain ⟨u, hu, hleft⟩ := map_eq_some_iff.1 huna
  exact ⟨⟨s, t, _, hs, ht, hcnt, hacc⟩, s, u, hs, hu, hlen, Prod.mk.inj hleft⟩

end WartungsRemote.Auth
