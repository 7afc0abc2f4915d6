import WartungsRemote.Enrollment.Ledger

/-!
# Tokens are used as they are meant to be

What holds of the committed tables in every interleaving of `Create`, `Consume`, `Revoke` and
`RevokeAllOutstanding` (`enrollment_tokens`). A `Consume` that fails leaves them as they are, unless
it fails because the reply of its commit was lost (`not_failing_keeps`).

The tables agree with the history as long as every commit is on tokens that are outstanding. That
they are follows from the locks (`TxInv`): a transaction that has looked at a token has locked it,
and the steps of the others leave a locked row as it is (`Frame`).
-/

namespace WartungsRemote.Enrollment

open Function List State Transition

/-! ### What a transaction can rely on -/

/-- The device that the transaction has inserted. -/
def Tx.device? : Tx → Option Device
  | .inserted _ _ _ dev => some dev
  | .credentialed _ _ _ dev _ => some dev
  | .consumed _ _ _ dev _ => some dev
  | _ => none

/-- The transaction has locked the token, which is outstanding. -/
structure State.Holds (s : State) (tid : TxID) (tok : Token) : Prop where
  mem : tok ∈ s.db.tokens
  outstanding : tok.Outstanding
  locked : s.locks tok.id = some tid

/-- The device was made for the request, and is not committed. -/
structure State.Pending (s : State) (req : AgentEnrollRequest) (tok : Token) (dev : Device) :
    Prop where
  issued : dev.id ∈ s.issued
  fresh : ∀ d ∈ s.db.devices, d.id ≠ dev.id
  made : ∃ uuidString, dev = newDevice uuidString tok req dev.id

/-- What a transaction can rely on. -/
def TxInv (s : State) (tid : TxID) : Tx → Prop
  | .begun _ _ _ => True
  | .locked _ _ tok => s.Holds tid tok
  | .unclaimed _ _ tok => s.Holds tid tok
  | .inserted _ req tok dev => s.Holds tid tok ∧ s.Pending req tok dev
  | .credentialed _ req tok dev cred =>
    s.Holds tid tok ∧ s.Pending req tok dev ∧ cred = newCredential req dev.id
  | .consumed _ req tok dev cred =>
    s.Holds tid tok ∧ s.Pending req tok dev ∧ cred = newCredential req dev.id
  | .revoking _ _ done =>
    done.Nodup ∧ ∀ id ∈ done, ∃ tok, tok.id = id ∧ s.Holds tid tok

/-- What a step leaves to the transactions other than the given one. -/
structure Frame (s t : State) (tid : Option TxID) : Prop where
  locks : ∀ id other, some other ≠ tid → s.locks id = some other → t.locks id = some other
  tokens : ∀ tok ∈ s.db.tokens, ∀ other, some other ≠ tid → s.locks tok.id = some other →
    tok ∈ t.db.tokens
  issued : s.issued ⊆ t.issued

section Frame

variable {s t : State} {tid : Option TxID} {other : TxID} {tx : Tx} {tok : Token}

theorem State.Holds.frame (h : s.Holds other tok) (hfrm : Frame s t tid) (hne : some other ≠ tid) :
    t.Holds other tok where
  mem := hfrm.tokens tok h.mem other hne h.locked
  outstanding := h.outstanding
  locked := hfrm.locks _ other hne h.locked

variable {dev : Device} {req : AgentEnrollRequest}

theorem State.Pending.frame
    (h : s.Pending req tok dev) (hfrm : Frame s t tid) (hnew : ∀ d ∈ t.db.devices, d.id ≠ dev.id) :
    t.Pending req tok dev where
  issued := hfrm.issued h.issued
  fresh := hnew
  made := h.made

/-- The steps of the others leave a transaction what it relies on. -/
theorem TxInv.frame (h : TxInv s other tx) (hfrm : Frame s t tid) (hne : some other ≠ tid)
    (hnew : ∀ dev, tx.device? = some dev → ∀ d ∈ t.db.devices, d.id ≠ dev.id) :
    TxInv t other tx := by
  cases tx with
  | begun => trivial
  | locked | unclaimed => exact Holds.frame h hfrm hne
  | inserted _ _ _ dev => exact ⟨h.1.frame hfrm hne, h.2.frame hfrm (hnew dev rfl)⟩
  | credentialed _ _ _ dev | consumed _ _ _ dev =>
    exact ⟨h.1.frame hfrm hne, h.2.1.frame hfrm (hnew dev rfl), h.2.2⟩
  | revoking =>
    refine ⟨h.1, fun id hid ↦ ?_⟩
    obtain ⟨tok, rfl, hhold⟩ := h.2 id hid
    exact ⟨tok, rfl, hhold.frame hfrm hne⟩

theorem TxInv.pending (h : TxInv s other tx) (hdev : tx.device? = some dev) :
    dev.id ∈ s.issued ∧ ∀ d ∈ s.db.devices, d.id ≠ dev.id := by
  cases tx with
  | begun | locked | unclaimed | revoking => cases hdev
  | inserted =>
    cases hdev
    exact ⟨h.2.issued, h.2.fresh⟩
  | credentialed | consumed =>
    cases hdev
    exact ⟨h.2.1.issued, h.2.1.fresh⟩

end Frame

/-! ### The invariant -/

/-- The tables agree with the history, every transaction has what it relies on, and no two have
inserted devices with the same id. -/
structure EnrollInv (s : State) : Prop where
  ledger : Ledger s.db s.history s.issued
  txs : ∀ tid tx, s.txs tid = some tx → TxInv s tid tx
  distinct : ∀ tid tx dev tid' tx' dev', s.txs tid = some tx → s.txs tid' = some tx' →
    tx.device? = some dev → tx'.device? = some dev' → dev.id = dev'.id → tid = tid'

theorem enrollInv_init : EnrollInv .init where
  ledger := ledger_empty
  txs _ _ h := by cases h
  distinct _ _ _ _ _ _ h := by cases h

section Invariant

variable {s t : State}

/-- A step of one transaction, or of none, keeps the invariant if it keeps to its frame, commits at
most its own device, and leaves its transaction with what that relies on. -/
theorem EnrollInv.of_frame (h : EnrollInv s) (tid : Option TxID) (hfrm : Frame s t tid)
    (hled : Ledger t.db t.history t.issued) (hdevices : ∀ d ∈ t.db.devices, d ∈ s.db.devices ∨
      ∃ own tx, tid = some own ∧ s.txs own = some tx ∧ tx.device? = some d)
    (htxs : ∀ other, some other ≠ tid → t.txs other = s.txs other)
    (hown : ∀ own tx, tid = some own → t.txs own = some tx → TxInv t own tx ∧
      ∀ dev, tx.device? = some dev → dev.id ∉ s.issued ∨
        ∃ tx₀, s.txs own = some tx₀ ∧ tx₀.device? = some dev) : EnrollInv t := by
  -- the devices of the others are not committed by this step
  have hoth : ∀ other tx, some other ≠ tid → s.txs other = some tx → TxInv t other tx := by
    intro other tx hne htx
    refine (h.txs other tx htx).frame hfrm hne fun dev hdev d hd ↦ ?_
    rcases hdevices d hd with hold | ⟨own, tx₀, rfl, htx₀, hd₀⟩
    · exact ((h.txs other tx htx).pending hdev).2 d hold
    · exact fun heq ↦ hne (congrArg some (h.distinct own tx₀ d other tx dev htx₀ htx hd₀ hdev
        heq).symm)
  have hclash : ∀ own tx dev other tx' dev', tid = some own → some other ≠ tid →
      t.txs own = some tx → s.txs other = some tx' → tx.device? = some dev →
        tx'.device? = some dev' →
      dev.id ≠ dev'.id := by
    intro own tx dev other tx' dev' howner hne htx htx' hdev hdev' heq
    rcases (hown own tx howner htx).2 dev hdev with hnew | ⟨tx₀, htx₀, hdev₀⟩
    · exact hnew (heq ▸ ((h.txs other tx' htx').pending hdev').1)
    · exact hne (howner ▸ congrArg some (h.distinct own tx₀ dev other tx' dev' htx₀ htx' hdev₀ hdev'
        heq).symm)
  refine ⟨hled, fun other tx htx ↦ ?_, fun a tx dev b tx' dev' hx hx' hdev hdev' heq ↦ ?_⟩
  · by_cases hne : some other = tid
    · exact (hown other tx hne.symm htx).1
    · exact hoth other tx hne (htxs other hne ▸ htx)
  · by_cases ha : some a = tid
    · by_cases hb : some b = tid
      · exact Option.some.inj (ha.trans hb.symm)
      · exact absurd heq (hclash a tx dev b tx' dev' ha.symm hb hx (htxs b hb ▸ hx') hdev hdev')
    · by_cases hb : some b = tid
      · exact absurd heq.symm (hclash b tx' dev' a tx dev hb.symm ha hx' (htxs a ha ▸ hx) hdev'
          hdev)
      · exact h.distinct a tx dev b tx' dev' (htxs a ha ▸ hx) (htxs b hb ▸ hx') hdev hdev' heq

variable {tid : TxID} {cfg : Config}

variable {tx : Tx} {cred : Credential} {dev : Device} {req : AgentEnrollRequest} {start : ℕ}
  {tok : Token} {l : Label} {ls : List Label}

/-- A transaction goes on, and the tables stay as they are. -/
theorem EnrollInv.of_setTx (h : EnrollInv s) (htables : t.db = s.db) (hfrm : Frame s t none)
    (hled : Ledger t.db t.history t.issued) (htxs : t.txs = update s.txs tid (some tx))
    (hown : TxInv t tid tx) (hdev : ∀ dev, tx.device? = some dev → dev.id ∉ s.issued ∨
      ∃ tx₀, s.txs tid = some tx₀ ∧ tx₀.device? = some dev) : EnrollInv t := by
  refine h.of_frame (some tid) ⟨fun id other _ ↦ hfrm.locks id other nofun,
    fun tok htok other _ ↦ hfrm.tokens tok htok other nofun, hfrm.issued⟩ hled
    (fun d hd ↦ .inl (htables ▸ hd)) (fun other hne ↦ ?_) ?_
  · rw [htxs, update_of_ne fun heq ↦ hne (congrArg some heq)]
  · rintro own tx' ⟨⟩ htx'
    obtain rfl : tx = tx' := by simpa [htxs] using htx'
    exact ⟨hown, hdev⟩

theorem Frame.setTx {tx : Option Tx} : Frame s (s.setTx tid tx) none :=
  ⟨fun _ _ _ ↦ id, fun _ htok _ _ _ ↦ htok, Subset.refl _⟩

theorem frame_locks {tx : Option Tx} {id₀ : UUID} (hfree : s.locks id₀ = none) :
    Frame s { s.setTx tid tx with locks := update s.locks id₀ (some tid) } none := by
  refine ⟨fun id other _ hlock ↦ ?_, fun _ htok _ _ _ ↦ htok, Subset.refl _⟩
  show update s.locks id₀ (some tid) id = some other
  rw [update_of_ne, hlock]
  rintro rfl
  cases hfree.symm.trans hlock

theorem outstanding_iff {id : UUID} :
    id ∈ s.outstanding ↔ ∃ tok ∈ s.db.tokens, tok.id = id ∧ tok.Outstanding := by
  simp only [outstanding, mem_map, mem_filter, decide_eq_true_eq]
  exact exists_congr fun tok ↦ by rw [and_assoc, and_comm (a := tok.Outstanding)]

section

variable (h : EnrollInv s)
include h

theorem EnrollInv.of_finish (tid : TxID) {db : Tables} {history : List Event}
    (hled : Ledger db history s.issued)
    (htoks : ∀ tok ∈ s.db.tokens, s.locks tok.id ≠ some tid → tok ∈ db.tokens)
    (hdevices : ∀ d ∈ db.devices, d ∈ s.db.devices ∨ ∃ tx, s.txs tid = some tx ∧
      tx.device? = some d) :
    EnrollInv { s.finish tid with db, history } := by
  refine h.of_frame (some tid) ⟨?_, ?_, Subset.refl _⟩ hled ?_ ?_ ?_
  · intro id other hne hlock
    show (if s.locks id = some tid then none else s.locks id) = some other
    rw [hlock, if_neg hne]
  · exact fun tok htok other hne hlock ↦ htoks tok htok (hlock ▸ hne)
  · intro d hd
    rcases hdevices d hd with hold | ⟨tx, htx, hdev⟩
    · exact Or.inl hold
    · exact Or.inr ⟨tid, tx, rfl, htx, hdev⟩
  · exact fun other hne ↦ update_of_ne (fun heq ↦ hne (congrArg some heq)) _ _
  · rintro own tx' heq htx'
    cases heq
    simp [finish, setTx] at htx'

/-- **A consumption commits**: its token was locked, so nobody has used it meanwhile. -/
theorem EnrollInv.commit_consumed (htx : s.txs tid = some (.consumed start req tok dev cred)) :
    EnrollInv { s.finish tid with
      db :=
        { tokens := updateToken s.db.tokens tok.id (Token.consume start dev.id)
          devices := s.db.devices ++ [dev]
          credentials := s.db.credentials ++ [cred] }
      history := s.history ++ [.consumed tok.id] } := by
  obtain ⟨hhold, hpend, rfl⟩ := h.txs tid _ htx
  obtain ⟨_, hmade⟩ := hpend.made
  have hwith : dev.enrolledWith = tok.id := by rw [hmade]; rfl
  have hreq : dev.request = req := by rw [hmade]; rfl
  have hled := h.ledger.consume hhold.mem hhold.outstanding hpend.issued hpend.fresh hwith start
  rw [hreq] at hled
  refine h.of_finish tid hled (fun tok' htok' hlock ↦ ?_) fun d hd ↦ ?_
  · have hid : tok'.id ≠ tok.id := fun heq ↦ hlock (heq ▸ hhold.locked)
    exact mem_map.2 ⟨tok', htok', if_neg hid⟩
  · obtain hold | hnew := mem_snoc.1 hd
    · exact Or.inl hold
    · exact Or.inr ⟨_, htx, congrArg some hnew.symm⟩

/-- **A revocation commits** for the rows that it has locked. -/
theorem EnrollInv.commit_revoking {done : List UUID}
    (htx : s.txs tid = some (.revoking start [] done)) : EnrollInv { s.finish tid with
      db := { s.db with
        tokens := s.db.tokens.map fun tok ↦ if tok.id ∈ done then tok.revoke start else tok }
      history := s.history ++ done.map .revoked } := by
  obtain ⟨hnd, hdone⟩ := h.txs tid _ htx
  have hout : ∀ id ∈ done, ∃ tok ∈ s.db.tokens, tok.id = id ∧ tok.Outstanding := by
    intro id hid
    obtain ⟨tok, heq, hhold⟩ := hdone id hid
    exact ⟨tok, hhold.mem, heq, hhold.outstanding⟩
  refine h.of_finish tid (h.ledger.revoke hnd hout start) (fun tok' htok' hlock ↦ ?_) fun d hd ↦
    Or.inl hd
  have hid : tok'.id ∉ done := by
    intro hmem
    obtain ⟨tok, heq, hhold⟩ := hdone tok'.id hmem
    exact hlock (heq ▸ hhold.locked)
  exact mem_map.2 ⟨tok', htok', if_neg hid⟩

theorem EnrollInv.rollback (tid : TxID) : EnrollInv (s.finish tid) :=
  h.of_finish tid h.ledger (fun _ htok _ ↦ htok) fun _ hd ↦ Or.inl hd

/-- A transaction goes on to its next statement. -/
theorem EnrollInv.advance {tx₀ : Tx} (htx : s.txs tid = some tx₀)
    (hown : TxInv (s.setTx tid (some tx)) tid tx₀ → TxInv (s.setTx tid (some tx)) tid tx)
    (hdev : ∀ dev, tx.device? = some dev → tx₀.device? = some dev) :
    EnrollInv (s.setTx tid (some tx)) := by
  refine h.of_setTx rfl .setTx h.ledger rfl (hown ?_) fun dev h ↦ .inr ⟨tx₀, htx, hdev dev h⟩
  exact (h.txs tid tx₀ htx).frame .setTx nofun fun _ hdev ↦ ((h.txs tid tx₀ htx).pending hdev).2

/-- A revocation locks one more row. -/
theorem EnrollInv.revokeRow {id : UUID} {todo done : List UUID}
    (htx : s.txs tid = some (.revoking start todo done)) (hfree : s.locks id = none)
    (hout : id ∈ s.outstanding) :
    EnrollInv { s.setTx tid (some (.revoking start (todo.erase id) (id :: done))) with
      locks := Function.update s.locks id (some tid) } := by
  obtain ⟨hnd, hdone⟩ := h.txs tid _ htx
  obtain ⟨tok, htok, rfl, houtstanding⟩ := outstanding_iff.1 hout
  -- a row that the revocation has updated is locked, and this one is not
  have hnew : tok.id ∉ done := by
    intro hmem
    obtain ⟨tok', heq, hhold⟩ := hdone _ hmem
    rw [← heq, hhold.locked] at hfree
    cases hfree
  refine h.of_setTx rfl (frame_locks hfree) h.ledger rfl ⟨hnd.cons hnew, fun id hid ↦ ?_⟩ nofun
  rcases mem_cons.1 hid with rfl | hmem
  · exact ⟨tok, rfl, htok, houtstanding, update_self ..⟩
  · obtain ⟨tok', heq, hhold⟩ := hdone id hmem
    exact ⟨tok', heq, hhold.frame (frame_locks hfree) nofun⟩

/-- **Every statement keeps the tables and the history in agreement.** -/
theorem EnrollInv.step (hstep : step cfg s l = some t) : EnrollInv t := by
  cases step_cases hstep with
  | tick =>
    exact h.of_frame none ⟨fun _ _ _ ↦ id, fun _ htok _ _ _ ↦ htok, Subset.refl _⟩ h.ledger
      (fun _ hd ↦ Or.inl hd) (fun _ _ ↦ rfl) (fun _ _ heq ↦ by cases heq)
  | @create p _ _ clock hid =>
    exact h.of_frame none
      ⟨fun _ _ _ ↦ (·), fun _ htok _ _ _ ↦ mem_append_left _ htok, subset_cons_self _ _⟩
      (h.ledger.create hid p _ clock s.now) (fun _ hd ↦ Or.inl hd) (fun _ _ ↦ rfl)
      (fun _ _ heq ↦ by cases heq)
  | begin => exact h.of_setTx rfl .setTx h.ledger rfl trivial nofun
  | lock htok hfree huse =>
    exact h.of_setTx rfl (frame_locks hfree) h.ledger rfl ⟨htok, huse.1, update_self ..⟩ nofun
  | check htx => exact h.advance htx id nofun
  | @insertDevice tid id _ _ tok htx hid =>
    have hhold : s.Holds tid tok := h.txs tid _ htx
    refine h.of_setTx rfl ⟨fun _ _ _ ↦ (·), fun _ htok _ _ _ ↦ htok, subset_cons_self _ _⟩
      (h.ledger.issue id) rfl ⟨⟨hhold.mem, hhold.outstanding, hhold.locked⟩, mem_cons_self, ?_,
        cfg.uuidString, rfl⟩ ?_
    · exact fun d hd heq ↦ hid ((show d.id = id from heq) ▸ (h.ledger.devices d hd).1)
    · rintro dev hdev
      cases hdev
      exact Or.inl hid
  | insertCredential htx =>
    exact h.advance htx (fun ⟨hhold, hpend⟩ ↦ ⟨hhold, hpend, rfl⟩) fun _ ↦ id
  | update htx => exact h.advance htx id fun _ ↦ id
  | revoke => exact h.of_setTx rfl .setTx h.ledger rfl ⟨nodup_nil, by simp⟩ nofun
  | revokeRow htx hfree hout => exact h.revokeRow htx hfree hout
  | skipRow htx => exact h.advance htx id nofun
  | consumed htx => exact h.commit_consumed htx
  | revoked htx => exact h.commit_revoking htx
  | rollback => exact h.rollback _

end

theorem enrollInv_of_exec (hrun : exec (step cfg) .init ls = some s) : EnrollInv s :=
  invariant_of_exec (fun _ _ _ h hstep ↦ h.step hstep) enrollInv_init hrun

/-- When `Consume` commits, the registry of the hub gets a new device, with one credential. -/
theorem repo_commit
    (hrun : exec (step cfg) .init ls = some s)
    (htx : s.txs tid = some (.consumed start req tok dev cred))
    {acked : Bool} (hstep : step cfg s (.commit tid acked) = some t) :
    t.db.repo = s.db.repo.insert dev.id req.installID req.hostname req.agentVersion
      req.publicKey := by
  have h := enrollInv_of_exec hrun
  obtain ⟨-, hpend, rfl⟩ := h.txs tid _ htx
  obtain ⟨uuidString, hmade⟩ := hpend.made
  have hcred : ∀ c ∈ s.db.credentials, c.deviceID ≠ dev.id := by
    intro c hc
    obtain ⟨d, hd, hid⟩ := h.ledger.credentials c hc
    exact hid ▸ hpend.fresh d hd
  rw [← repo_insert uuidString tok _ hpend.fresh hcred, ← hmade]
  simp only [step, commit, htx] at hstep
  exact congrArg (fun u : State ↦ u.db.repo) (Option.some.inj hstep).symm

/-- Only the creation of a token and a commit change the tables. -/
theorem db_of_step (hstep : step cfg s l = some t)
    (hcre : ∀ p raw id clock, l ≠ .create p raw id clock)
    (hcom : ∀ tid acked, l ≠ .commit tid acked) : t.db = s.db := by
  cases step_cases hstep with
  | create => exact absurd rfl (hcre _ _ _ _)
  | consumed | revoked => exact absurd rfl (hcom _ _)
  | _ => rfl

/-- The transaction is one of `Consume`. -/
def Tx.Consumes : Tx → Prop
  | .revoking _ _ _ => False
  | _ => True

instance : DecidablePred Tx.Consumes := by
  rintro (_ | _) <;> unfold Tx.Consumes <;> infer_instance

/-- The transaction whose `Consume` returns an error in a step. -/
def State.failing (s : State) : Label → Option TxID
  | .rollback tid | .commit tid false => if ∃ tx ∈ s.txs tid, tx.Consumes then some tid else none
  | _ => none

/-- A `Consume` that fails has not committed, or the reply of its commit was lost. -/
theorem db_of_failing (hstep : step cfg s l = some t) (hfail : s.failing l = some tid)
    (hcom : l ≠ .commit tid false) : t.db = s.db := by
  unfold State.failing at hfail
  split at hfail
  · exact db_of_step hstep nofun nofun
  · split_ifs at hfail
    cases hfail
    exact absurd rfl hcom
  · cases hfail

end Invariant

/-! ### Tokens -/

/-- **Enrollment tokens.** In every reachable state: on a token that is not reusable at most one
commit had an effect; the use count of a reusable one is the number of its devices; no consumption
was committed after a revocation; only creations and commits change the tables, and a `Consume` that
fails does not, but for a commit whose reply is lost; and every device has one credential, with the
submitted key. -/
theorem enrollment_tokens {cfg : Config} {ls : List Label} {s : State}
    (hrun : exec (step cfg) .init ls = some s) : (∀ tok ∈ s.db.tokens, tok.isReusable = false →
      (eventsOf s.history tok.id).length ≤ 1 ∧
        (s.db.devices.filter fun d ↦ d.enrolledWith = tok.id).length ≤ 1) ∧
    (∀ tok ∈ s.db.tokens, tok.isReusable = true →
      tok.useCount = (s.db.devices.filter fun d ↦ d.enrolledWith = tok.id).length) ∧
    (s.history.Pairwise fun e e' ↦ ∀ id, e = .revoked id → e' ≠ .consumed id) ∧
    (∀ l t, step cfg s l = some t → (∀ p raw id clock, l ≠ .create p raw id clock) →
      (∀ tid acked, l ≠ .commit tid acked) → t.db = s.db) ∧
    (∀ l t tid, step cfg s l = some t → s.failing l = some tid → l ≠ .commit tid false →
      t.db = s.db) ∧
    ∀ d ∈ s.db.devices, ∃ cred, s.db.credentials.filter (fun c ↦ c.deviceID = d.id) = [cred] ∧
      cred.publicKey = d.request.publicKey := by
  have hled := (enrollInv_of_exec hrun).ledger
  refine ⟨fun tok htok hsingle ↦ ?_, fun tok htok hreus ↦ ?_, hled.ordered,
    fun l t hstep hcre hcom ↦ db_of_step hstep hcre hcom,
    fun l t tid hstep hfail hcom ↦ db_of_failing hstep hfail hcom,
    fun d hd ↦ ⟨_, (hled.devices d hd).2, rfl⟩⟩
  · have hevs := ((hled.tokens tok htok).2.single hsingle).1
    refine ⟨hevs, ?_⟩
    rw [hled.enrolled]
    exact (count_le_eventsOf s.history tok.id).trans hevs
  · rw [hled.enrolled]
    exact ((hled.tokens tok htok).2.counted hreus).2

namespace Sample

/-- Tokens are not hashed, and install ids are not printed. -/
def config : Config where
  sha256 := id
  uuidString _ := "install-id"

/-- A token that is not reusable, for half an hour. -/
def params : CreateParams where
  customerID := none
  groupID := none
  displayName := ""
  expiresIn := 0
  tags := none
  createdBy := 9
  reusable := false

def request : AgentEnrollRequest where
  token := plaintext [1, 2, 3]
  installID := 7
  publicKey := replicate 32 0
  agentVersion := "1.0.0"
  os := "linux"
  arch := "amd64"
  hostname := "host"

/-- A token is consumed while it is revoked: the revocation has found its row, and waits. -/
def labels : List Label :=
  [.create params [1, 2, 3] 1 0, .begin 0 request, .revoke 1 1, .lock 0, .check 0,
    .insertDevice 0 2, .insertCredential 0, .update 0, .commit 0 true, .revokeRow 1 1,
      .commit 1 true]

end Sample

/-- The token that was consumed while it was revoked has one event. -/
theorem enrollment_tokens_raced :
    ∃ s, exec (step Sample.config) .init Sample.labels = some s ∧ s.history = [.consumed 1] ∧
      ∀ d ∈ s.db.devices, ∃ cred, s.db.credentials.filter (fun c ↦ c.deviceID = d.id) = [cred] ∧
        cred.publicKey = d.request.publicKey := by
  refine exists_of_exec (fun s ↦ s.history = [.consumed 1]) (by decide +kernel) fun s hs hhist ↦ ?_
  exact ⟨hhist, (enrollment_tokens hs).2.2.2.2.2⟩

/-- The reply of a commit is lost: `Consume` fails, and its device is there. -/
theorem not_failing_keeps : ∃ s t, exec (step Sample.config) .init (Sample.labels.take 8) = some s ∧
    step Sample.config s (.commit 0 false) = some t ∧ s.failing (.commit 0 false) = some 0 ∧
      s.db.devices = [] ∧ t.db.devices.length = 1 :=
  have hrun : exec (step Sample.config) .init (Sample.labels.take 8) = some _ := rfl
  ⟨_, _, hrun, rfl, rfl, rfl, rfl⟩

/-- The device of the raced token is in the registry. -/
theorem repo_commit_raced : ∃ s t, exec (step Sample.config) .init (Sample.labels.take 8) = some s ∧
    step Sample.config s (.commit 0 true) = some t ∧
      t.db.repo = s.db.repo.insert 2 7 "host" "1.0.0" (replicate 32 0) := by
  have hrun : exec (step Sample.config) .init (Sample.labels.take 8) = some _ := rfl
  exact ⟨_, _, hrun, rfl,
    repo_commit hrun (show State.txs _ 0 = _ from rfl) (show step _ _ (.commit 0 true) =
      _ from rfl)⟩

end WartungsRemote.Enrollment
