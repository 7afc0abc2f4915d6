import WartungsRemote.Auth.Steps

/-!
# The setup of the second factor

`ConfirmSetup` reads the secret of the user, validates the code against it, and then marks the row
of the user as confirmed, **whatever its secret is by then**. In between a login of the same user
can store another secret, which is then confirmed although no code was validated against it, or a
second call can confirm the row and return its own recovery codes (`not_setup_binds_overlapping`).

The binding holds if no statement that writes the secret or confirms it falls between the two
statements of another call for the same user (`setup_binds`). That a confirmed secret is never
replaced holds in every interleaving.
-/

namespace WartungsRemote.Auth

open Function List Option Sample Transition

variable {cfg : Config} {s t : State} {l : Label} {req : ReqID} {th : Thread} {e : Effect}
  {userID : UUID}

/-- `ConfirmSetup` has read the secret of the user and not written the row. -/
def Thread.Confirms (userID : UUID) : Thread → Prop
  | confirmUpdate id _ _ _ => id = userID
  | _ => False

instance (userID : UUID) : DecidablePred (Thread.Confirms userID) := by
  rintro (_ | _) <;> unfold Thread.Confirms <;> infer_instance

/-- The next statement stores a secret of the user or confirms it. -/
def Thread.WritesSecret (userID : UUID) : Thread → Prop
  | beginSetup id => id = userID
  | confirmUpdate id _ _ _ => id = userID
  | _ => False

instance (userID : UUID) : DecidablePred (Thread.WritesSecret userID) := by
  rintro (_ | _) <;> unfold Thread.WritesSecret <;> infer_instance

/-- When a secret of the user is stored or confirmed, no other `ConfirmSetup` for the user is
between its two statements. -/
def Undisturbed (userID : UUID) (s : State) : Label → Prop
  | .exec req _ _ => ∀ th ∈ s.threads req, th.WritesSecret userID →
      ∀ q ∈ s.begun, q ≠ req → ∀ x ∈ s.threads q, ¬ x.Confirms userID
  | _ => True

instance (userID : UUID) (s : State) : DecidablePred (Undisturbed userID s) := by
  rintro (_ | _) <;> unfold Undisturbed <;> infer_instance

/-! ### The row of a user -/

/-- The row is written by three kinds of statements. -/
theorem mfa_apply_eq {db : Tables} {now : ℕ} {w : Write}
    (hstore : ∀ secret, w ≠ .storeSecret userID secret)
    (hconf : ∀ hashes, w ≠ .confirmMFA userID hashes)
    (hset : ∀ hashes, w ≠ .setRecoveryCodeHashes userID hashes) :
    (db.apply now w).mfa userID = db.mfa userID := by
  cases w with
  | storeSecret _ secret =>
    refine update_of_ne (fun h ↦ hstore secret ?_) ..
    rw [h]
  | confirmMFA _ hashes =>
    refine update_of_ne (fun h ↦ hconf hashes ?_) ..
    rw [h]
  | setRecoveryCodeHashes _ hashes =>
    refine update_of_ne (fun h ↦ hset hashes ?_) ..
    rw [h]
  | _ => rfl

variable {m : UserMFA} {codes : List Text} {q : ReqID}

theorem storeSecret_of_confirmed (hm : m.confirmedAt ≠ none) (secret : Text) :
    storeSecret (some m) secret = m :=
  if_neg hm

/-- The confirmed secret of the user, if there is one, stays. -/
def KeepsSecret (userID : UUID) (s t : State) : Prop :=
  ∀ m, s.db.mfa userID = some m → m.confirmedAt ≠ none →
    ∃ m', t.db.mfa userID = some m' ∧ m'.confirmedAt ≠ none ∧ m'.secret = m.secret

theorem keepsSecret_commit : KeepsSecret userID s (s.commit req e) := by
  intro m hm hconf
  show ∃ m', (s.db.apply s.now e.write).mfa userID = some m' ∧ _
  by_cases hstore : ∃ secret, e.write = .storeSecret userID secret
  · obtain ⟨secret, hw⟩ := hstore
    rw [hw, Tables.mfa_storeSecret, hm, storeSecret_of_confirmed hconf]
    exact ⟨m, rfl, hconf, rfl⟩
  by_cases hconfirm : ∃ hashes, e.write = .confirmMFA userID hashes
  · obtain ⟨hashes, hw⟩ := hconfirm
    rw [hw, Tables.mfa_confirmMFA, hm]
    exact ⟨_, rfl, nofun, rfl⟩
  by_cases hset : ∃ hashes, e.write = .setRecoveryCodeHashes userID hashes
  · obtain ⟨hashes, hw⟩ := hset
    rw [hw, Tables.mfa_setRecoveryCodeHashes, hm]
    exact ⟨_, rfl, hconf, rfl⟩
  · rw [mfa_apply_eq (fun secret h ↦ hstore ⟨secret, h⟩) (fun hashes h ↦ hconfirm ⟨hashes, h⟩)
      fun hashes h ↦ hset ⟨hashes, h⟩]
    exact ⟨m, hm, hconf, rfl⟩

/-- A confirmed secret is never replaced. -/
theorem keepsSecret_of_step (hbeg : ∀ q x, s.threads q = some x → q ∈ s.begun)
    (h : s.step cfg l = some t) :
    KeepsSecret userID s t := by
  obtain hcalm | ⟨_, _, _, _, rfl, -, -, rfl⟩ := calm_or_exec hbeg h
  · intro m hm hconf
    rw [hcalm.mfa]
    exact ⟨m, hm, hconf, rfl⟩
  · exact keepsSecret_commit

/-! ### The invariant -/

/-- The row has the secret that the code of the request was validated against, and the returned
recovery codes, unless one of them has been consumed since. -/
def Binds (cfg : Config) (userID : UUID) (s : State) : Prop :=
  ∀ before after req secret codes, s.history = before ++ .confirmed req userID secret codes ::
    after → (∃ code, .evaluated req userID none code secret true ∈ before) ∧
      ∃ m, s.db.mfa userID = some m ∧ m.confirmedAt ≠ none ∧ m.secret = secret ∧
        (.recovered userID ∉ after → m.recoveryCodeHashes = codes.map cfg.hashRecoveryCode)

/-- A call that is between its two statements: the row is as the call has read it. -/
def Current (userID : UUID) (s : State) (q : ReqID) : Thread → Prop
  | .confirmUpdate id secret _ _ => id = userID →
      (∃ code, .evaluated q userID none code secret true ∈ s.history) ∧
        ∃ m, s.db.mfa userID = some m ∧ m.confirmedAt = none ∧ m.secret = secret
  | _ => True

/-- The confirmations in progress are about the stored secret, and the row binds. -/
structure SetupInv (cfg : Config) (userID : UUID) (s : State) : Prop where
  begun : ∀ q x, s.threads q = some x → q ∈ s.begun
  current : ∀ q x, s.threads q = some x → Current userID s q x
  binds : Binds cfg userID s

theorem split_append {α : Type*} {h news before after : List α} {x : α}
    (heq : h ++ news = before ++ x :: after) :
    (∃ after', h = before ++ x :: after' ∧ after = after' ++ news) ∨ x ∈ news := by
  rcases append_eq_append_iff.1 heq with ⟨_, -, hnews⟩ | ⟨after', hh, haft⟩
  · exact .inr (hnews ▸ mem_append_right _ mem_cons_self)
  · rcases after' with _ | ⟨y, after'⟩
    · have hnews : news = x :: after := haft.symm
      exact .inr (hnews ▸ mem_cons_self)
    · obtain ⟨rfl, rfl⟩ := cons.inj haft
      exact .inl ⟨after', hh, rfl⟩

/-- What has to be shown of a step that returns no recovery codes of the user. -/
theorem Binds.grow {news : List Event} (hs : Binds cfg userID s)
    (hhist : t.history = s.history ++ news)
    (hnews : ∀ req secret codes, .confirmed req userID secret codes ∉ news)
    (hrow : ∀ m, s.db.mfa userID = some m → m.confirmedAt ≠ none →
      ∃ m', t.db.mfa userID = some m' ∧ m'.confirmedAt ≠ none ∧ m'.secret = m.secret ∧
        (.recovered userID ∉ news → m'.recoveryCodeHashes = m.recoveryCodeHashes)) :
        Binds cfg userID t := by
  intro before after req secret codes heq
  rw [hhist] at heq
  obtain ⟨after', hbef, rfl⟩ := (split_append heq).resolve_right (hnews req secret codes)
  obtain ⟨hcode, m, hm, hconf, hsec, hhashes⟩ := hs before after' req secret codes hbef
  obtain ⟨m', hm', hconf', hsec', hhashes'⟩ := hrow m hm hconf
  refine ⟨hcode, m', hm', hconf', hsec'.trans hsec, fun hrecd ↦ ?_⟩
  rw [mem_append, not_or] at hrecd
  rw [hhashes' hrecd.2, hhashes hrecd.1]

theorem Binds.confirm (hs : Binds cfg userID s) (hm : s.db.mfa userID = some m)
    (hunc : m.confirmedAt = none)
    (hcode : ∃ code, .evaluated req userID none code m.secret true ∈ s.history)
    (hhist : t.history = s.history ++ [.confirmed req userID m.secret codes])
    (hrow : t.db.mfa userID = some { m with
      confirmedAt := some s.now, recoveryCodeHashes := codes.map cfg.hashRecoveryCode }) :
    Binds cfg userID t := by
  have hnone : ∀ q secret codes, .confirmed q userID secret codes ∉ s.history := by
    intro q secret codes hmem
    obtain ⟨before, after, hsplit⟩ := append_of_mem hmem
    obtain ⟨-, _, hm', hconf, -⟩ := hs before after q secret codes hsplit
    rw [hm] at hm'
    exact hconf (some.inj hm' ▸ hunc)
  intro before after q secret codes' heq
  rw [hhist] at heq
  -- the event is the last one, because there was none before
  rcases eq_nil_or_concat after with rfl | ⟨_, _, rfl⟩
  · obtain ⟨hbef, hev⟩ := append_inj' heq rfl
    obtain ⟨rfl, -, rfl, rfl⟩ := Event.confirmed.inj (cons.inj hev).1
    exact ⟨hbef ▸ hcode, _, hrow, nofun, rfl, fun _ ↦ rfl⟩
  · rw [concat_eq_append, ← cons_append, ← append_assoc] at heq
    obtain ⟨hbef, -⟩ := append_inj' heq rfl
    exact absurd (hbef ▸ mem_append_right _ mem_cons_self) (hnone q secret codes')

theorem Move.row (h : Move cfg s req th e) (hnot : ¬ th.WritesSecret userID)
    (hm : s.db.mfa userID = some m) :
    ∃ m', (s.commit req e).db.mfa userID = some m' ∧ m'.confirmedAt = m.confirmedAt ∧
      m'.secret = m.secret ∧
      (.recovered userID ∉ e.write.events ++ e.events →
        m'.recoveryCodeHashes = m.recoveryCodeHashes) := by
  show ∃ m', (s.db.apply s.now e.write).mfa userID = some m' ∧ _
  by_cases hset : ∃ hashes, e.write = .setRecoveryCodeHashes userID hashes
  · obtain ⟨hashes, hw⟩ := hset
    rw [hw, Tables.mfa_setRecoveryCodeHashes, hm]
    refine ⟨_, rfl, rfl, rfl, fun hrecd ↦ absurd ?_ hrecd⟩
    exact mem_append_left _ mem_cons_self
  · rw [mfa_apply_eq ?_ ?_ fun hashes h ↦ hset ⟨hashes, h⟩]
    · exact ⟨m, hm, rfl, rfl, fun _ ↦ rfl⟩
    · intro secret hw
      cases h with
      | beginSetup => exact hnot (Write.storeSecret.inj hw).1
      | _ => exact absurd hw nofun
    · intro hashes hw
      cases h with
      | confirm | confirmLost => exact hnot (Write.confirmMFA.inj hw).1
      | _ => exact absurd hw nofun

theorem Move.of_confirmed {secret : Text} (h : Move cfg s req th e)
    (hev : .confirmed q userID secret codes ∈ e.write.events ++ e.events) :
    th.WritesSecret userID := by
  have hwrite : ∀ w : Write, .confirmed q userID secret codes ∉ w.events := by
    intro w
    cases w <;> simp [Write.events]
  have hevs := (mem_append.1 hev).resolve_left (hwrite e.write)
  cases h with
  | confirm => exact (Event.confirmed.inj (mem_singleton.1 hevs)).2.1.symm
  | rightLogin | wrongCode | rightCode | rightSetup | wrongSetupCode | rightSetupCode
  | recoverUpdate =>
    exact absurd (mem_singleton.1 hevs) nofun
  | _ => exact absurd hevs not_mem_nil

/-! ### The invariant is kept -/

theorem Current.mono (hs : Current userID s q th) (hhist : ∀ ev ∈ s.history, ev ∈ t.history)
    (hrow : th.Confirms userID → ∀ m, s.db.mfa userID = some m →
      ∃ m', t.db.mfa userID = some m' ∧ m'.confirmedAt = m.confirmedAt ∧ m'.secret = m.secret) :
    Current userID t q th := by
  cases th with
  | confirmUpdate =>
    intro hid
    obtain ⟨⟨code, hcode⟩, m, hm, hunc, hsec⟩ := hs hid
    obtain ⟨m', hm', hconf', hsec'⟩ := hrow hid m hm
    exact ⟨⟨code, hhist _ hcode⟩, m', hm', hconf'.trans hunc, hsec'.trans hsec⟩
  | _ => trivial

theorem Move.current (h : Move cfg s req th e) :
    ∀ x ∈ e.next, Current userID (s.commit req e) req x := by
  intro x hx
  cases h with
  | rightSetupCode hmfa hconf =>
    cases hx
    rintro rfl
    exact ⟨⟨_, mem_history_commit.2 (.inr (.inr (mem_singleton_self _)))⟩, _, hmfa, hconf, rfl⟩
  | stop | beginSetup | createChallenge | countAttempt | consumeLost | wrongSetupCode | confirmLost
  | registerFailed | createSession | recoverUpdate | recoverLost => exact absurd hx nofun
  | _ =>
    cases hx
    trivial

section

variable (hs : SetupInv cfg userID s)
include hs

theorem SetupInv.calm (hcalm : Calm s t) (hbeg : ∀ q x, t.threads q = some x → q ∈ t.begun) :
    SetupInv cfg userID t := by
  refine ⟨hbeg, fun q x hx ↦ ?_, ?_⟩
  · rcases hcalm.threads q x hx with hx | hentry
    · refine (hs.current q x hx).mono (fun ev hev ↦ hcalm.history ▸ hev) fun _ m hm ↦
        ⟨m, ?_, rfl, rfl⟩
      rw [hcalm.mfa]
      exact hm
    · cases x <;> trivial
  · have hhist : t.history = s.history ++ [] := by rw [hcalm.history, append_nil]
    refine hs.binds.grow hhist (fun _ _ _ ↦ not_mem_nil) fun m hm hconf ↦ ?_
    rw [hcalm.mfa]
    exact ⟨m, hm, hconf, rfl, fun _ ↦ rfl⟩

theorem Binds.commit (hth : s.threads req = some th) (hmove : Move cfg s req th e) :
    Binds cfg userID (s.commit req e) := by
  have hhist : (s.commit req e).history = s.history ++ (e.write.events ++ e.events) :=
    append_assoc ..
  by_cases hwr : th.WritesSecret userID
  · cases hmove with
    | @beginSetup id secret =>
      obtain rfl : id = userID := hwr
      refine hs.binds.grow hhist (fun _ _ _ ↦ not_mem_nil) fun m hm hconf ↦ ?_
      refine ⟨m, ?_, hconf, rfl, fun _ ↦ rfl⟩
      show (s.db.apply s.now (.storeSecret id secret)).mfa id = some m
      rw [Tables.mfa_storeSecret, hm, storeSecret_of_confirmed hconf]
    | @confirm id _ codes =>
      obtain rfl : id = userID := hwr
      obtain ⟨hcode, m, hm, hunc, rfl⟩ := hs.current req _ hth rfl
      refine hs.binds.confirm hm hunc hcode hhist ?_
      show (s.db.apply s.now (.confirmMFA id (codes.map cfg.hashRecoveryCode))).mfa id = _
      rw [Tables.mfa_confirmMFA, hm, map_some]
    | @confirmLost id =>
      obtain rfl : id = userID := hwr
      obtain ⟨-, m, hm, hunc, -⟩ := hs.current req _ hth rfl
      refine hs.binds.grow hhist (fun _ _ _ ↦ not_mem_nil) fun m' hm' hconf ↦ ?_
      rw [hm] at hm'
      exact absurd (some.inj hm' ▸ hunc) hconf
    | stop =>
      exact hs.binds.grow hhist (fun _ _ _ ↦ not_mem_nil) fun m hm hconf ↦
        ⟨m, hm, hconf, rfl, fun _ ↦ rfl⟩
    | _ => exact hwr.elim
  · refine hs.binds.grow hhist (fun q secret codes hev ↦ hwr (hmove.of_confirmed hev))
      fun m hm hconf ↦ ?_
    obtain ⟨m', hm', hconf', hsec, hhashes⟩ := hmove.row hwr hm
    exact ⟨m', hm', hconf' ▸ hconf, hsec, hhashes⟩

/-- An undisturbed confirmation finds the secret that it has validated. -/
theorem SetupInv.commit (hth : s.threads req = some th) (hmove : Move cfg s req th e)
    (hgrd : th.WritesSecret userID → ∀ q x, q ≠ req → s.threads q = some x → ¬ x.Confirms userID) :
    SetupInv cfg userID (s.commit req e) := by
  refine ⟨?_, ?_, Binds.commit hs hth hmove⟩
  · exact forall_thread_commit (fun q x _ hx ↦ hs.begun q x hx) fun _ _ ↦ hs.begun req th hth
  · refine forall_thread_commit (fun q x hq hx ↦ ?_) hmove.current
    refine (hs.current q x hx).mono (fun ev hev ↦ mem_history_commit.2 (.inl hev))
      fun hconfirms m hm ↦ ?_
    have hnot : ¬ th.WritesSecret userID := fun hwr ↦ hgrd hwr q x hq hx hconfirms
    obtain ⟨m', hm', hconf, hsec, -⟩ := hmove.row hnot hm
    exact ⟨m', hm', hconf, hsec⟩

theorem SetupInv.step (h : s.step cfg l = some t) (hgrd : Undisturbed userID s l) :
    SetupInv cfg userID t := by
  obtain hcalm | ⟨_, out, choice, th, rfl, hth, -, rfl⟩ := calm_or_exec hs.begun h
  · exact hs.calm hcalm (begun_of_step hs.begun h)
  · exact hs.commit hth (move_effect out choice th) fun hwr q x hq hx ↦
      hgrd th hth hwr q (hs.begun q x hx) hq x hx

end

/-- **The setup binds the right secret.** A confirmed secret of the user is never replaced. If the
calls of `ConfirmSetup` for the user are not disturbed, whenever one of them has returned recovery
codes the row has the secret that its code was validated against, and the hashes of these codes
until one is consumed. -/
theorem setup_binds {ls : List Label} (h : exec (State.step cfg) .init ls = some t) :
    Along (State.step cfg) (fun s _ t ↦ KeepsSecret userID s t) .init ls ∧
      (Along (State.step cfg) (fun s l _ ↦ Undisturbed userID s l) .init ls →
        Binds cfg userID t) := by
  constructor
  · exact along_of_exec (I := fun s ↦ ∀ q x, s.threads q = some x → q ∈ s.begun)
      (fun s l t hs h ↦ begun_of_step hs h) (fun s l t hs h ↦ keepsSecret_of_step hs h) nofun
  · intro hgrd
    have hinit : SetupInv cfg userID .init := by
      refine ⟨nofun, nofun, fun before after req secret codes h ↦ ?_⟩
      exact absurd h.symm (append_ne_nil_of_right_ne_nil _ (cons_ne_nil _ _))
    exact (invariant_of_along (fun s l t hs h hl ↦ SetupInv.step hs h hl) hinit h hgrd).binds

/-- The setup of a user who is not disturbed. -/
theorem setup_binds_sample : ∃ t, exec (State.step Sample.cfg) .init Sample.setup = some t ∧
      (∃ codes, .confirmed 1 1 ['k'] codes ∈ t.history) ∧ Binds Sample.cfg 1 t := by
  refine exists_of_exec
        (fun t ↦ .confirmed 1 1 ['k'] (choice 6 []).recoveryCodes ∈ t.history) (by decide +kernel)
    fun t ht hhist ↦ ?_
  exact ⟨⟨_, hhist⟩, (setup_binds ht).2 (by decide +kernel)⟩

namespace Sample

/-- Between the two statements of a confirmation, a second login stores another secret. -/
def replaced : List Label :=
  [.admin (.createUser 1 ['u'] ['p']), .start 0 client (.login ['u'] ['p'])] ++
    statements 0 (choice 5 ['k']) 3 ++ [.start 1 client (.setupConfirm ['u'] ['p'] ['k'])] ++
    statements 1 (choice 6 []) 2 ++ [.start 2 client (.login ['u'] ['p'])] ++
    statements 2 (choice 5 ['z']) 3 ++ statements 1 (choice 6 []) 3

/-- Between the two statements of a confirmation, another one is made. -/
def twice : List Label :=
  [.admin (.createUser 1 ['u'] ['p']), .start 0 client (.login ['u'] ['p'])] ++
    statements 0 (choice 5 ['k']) 3 ++
    [.start 1 client (.setupConfirm ['u'] ['p'] ['k']),
      .start 2 client (.setupConfirm ['u'] ['p'] ['k'])] ++
    statements 1 (choice 6 []) 2 ++ statements 2 (choice 7 []) 2 ++ statements 1 (choice 6 []) 3 ++
    statements 2 (choice 7 []) 3

end Sample

/-- A login between the two statements of a confirmation has its own secret confirmed, and of two
overlapping confirmations one has returned recovery codes that are not stored. -/
theorem not_setup_binds_overlapping :
    (∃ t, exec (State.step Sample.cfg) .init Sample.replaced = some t ∧ ¬ Binds Sample.cfg 1 t) ∧
      ∃ t, exec (State.step Sample.cfg) .init Sample.twice = some t ∧ ¬ Binds Sample.cfg 1 t := by
  constructor
  · refine exists_of_exec (fun t ↦ (t.db.mfa 1).map UserMFA.secret = some ['z'] ∧
        .confirmed 1 1 ['k'] (choice 6 []).recoveryCodes ∈ t.history) (by decide +kernel)
      fun t ht ⟨hsec, hmem⟩ hbinds ↦ ?_
    obtain ⟨before, after, hsplit⟩ := append_of_mem hmem
    obtain ⟨-, m, hm, -, hk, -⟩ := hbinds before after _ _ _ hsplit
    rw [hm, map_some, hk] at hsec
    exact absurd hsec (by decide)
  · refine exists_of_exec (fun t ↦ (t.db.mfa 1).map UserMFA.recoveryCodeHashes ≠
          some ((choice 6 []).recoveryCodes.map cfg.hashRecoveryCode) ∧
        .confirmed 1 1 ['k'] (choice 6 []).recoveryCodes ∈ t.history ∧ .recovered 1 ∉ t.history)
      (by decide +kernel) fun t ht ⟨hhashes, hmem, hrecd⟩ hbinds ↦ ?_
    obtain ⟨before, after, hsplit⟩ := append_of_mem hmem
    obtain ⟨-, m, hm, -, -, heq⟩ := hbinds before after _ _ _ hsplit
    have haft : .recovered 1 ∉ after := fun h ↦
      hrecd (hsplit ▸ mem_append_right _ (mem_cons_of_mem _ h))
    rw [hm, map_some, heq haft] at hhashes
    exact hhashes rfl

end WartungsRemote.Auth
