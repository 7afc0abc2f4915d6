import WartungsRemote.ControlHub.Steps

/-!
# Authentication of the control channel

The hub sends a **nonce** and accepts a connection as a device if the hello that it gets back has
the same nonce and a signature over it that verifies under the active credential of the device. Here
everybody can send anything on any connection, at any time. What is known of the messages is what
the parties can do:

* a party with a key answers any challenge that it is shown, whoever wrote it (`Identity.hello`, the
  agent's side of the handshake);
* a hello that arrives at the hub may have been sent before, or put together from such messages, but
  a signature in it that verifies under a key was **made by the holder of the key** (`Unforged`);
* the nonces of the hub are fresh.

Then a connection is accepted as a device only if the holder of its active key has signed the nonce
of this connection (`authentic`). A device that was revoked is not accepted again, whatever is
written into its status later.
-/

namespace WartungsRemote.ControlHub

open Device Transition Function List Option State

/-! ### The agent -/

/-- `agentcore.Identity`: the ids of the device, and the key. -/
structure Identity where
  deviceID : UUID
  installID : UUID
  publicKey : List UInt8
  sign : List UInt8 → List UInt8

/-- The agent's side of the handshake: the hello that answers a challenge with the nonce. -/
def Identity.hello (i : Identity) (agentVersion os arch : String) (secure : Bool)
    (nonce : List UInt8) : Hello where
  deviceID := i.deviceID
  installID := i.installID
  agentVersion := agentVersion
  os := os
  arch := arch
  nonce := nonce
  signature := i.sign nonce
  secure := secure

/-! ### The hub and those who talk to it -/

/-- A connection was accepted, with the hello and the key that its signature was verified under. -/
structure Acceptance where
  conn : ConnID
  hello : Hello
  key : List UInt8

/-- The hub, and what has been said: the nonces sent (`challenges`), and those signed, with the key
of the signer. No step of the hub reads them. -/
structure World where
  hub : State
  challenges : ConnID → Option (List UInt8)
  signed : List (List UInt8 × List UInt8)
  accepted : List Acceptance

namespace World

def init : World where
  hub := .init
  challenges _ := none
  signed := []
  accepted := []

inductive Move
  /-- A step of the hub. The message that it reads, if it reads one, is whatever arrives. -/
  | hub (l : Label)
  /-- The holder of a key answers a challenge with the nonce. -/
  | answer (i : Identity) (agentVersion os arch : String) (secure : Bool) (nonce : List UInt8)

/-- What is remembered of a step of the hub. -/
def record (w : World) (t : State) : Label → World
  | .accept c nonce _ => { w with hub := t, challenges := update w.challenges c (some nonce) }
  | .verify c _ _ =>
    match t.phase c with
    | .verified _ h _ =>
      match w.hub.repo.activeCredentialPublicKey w.hub.now h.deviceID with
      | some key => { w with hub := t, accepted := ⟨c, h, key⟩ :: w.accepted }
      | none => { w with hub := t }
    | _ => { w with hub := t }
  | _ => { w with hub := t }

def step (cfg : Config) (w : World) : Move → Option World
  | .hub l => (ControlHub.step cfg w.hub l).map fun t ↦ w.record t l
  | .answer i agentVersion os arch secure nonce =>
    some { w with
      signed := (i.publicKey, (i.hello agentVersion os arch secure nonce).nonce) :: w.signed }

/-- A signature in the hello that verifies was made by the holder of the key. -/
def Unforged (cfg : Config) (w : World) (h : Hello) : Prop :=
  ∀ key, cfg.verify key h.nonce h.signature = true → (key, h.nonce) ∈ w.signed

/-- What is assumed of a step: nonces are fresh and signatures are not forged. -/
def Fair (cfg : Config) (w : World) : Move → Prop
  | .hub (.accept _ nonce _) => ∀ c, w.challenges c ≠ some nonce
  | .hub (.hello _ (some h)) => w.Unforged cfg h
  | _ => True

end World

/-! ### The handshake of one connection -/

variable {cfg : Config} {s t : State} {l : Label} {c : ConnID}

/-- The handshake has not come to the verification of the signature. -/
def Phase.Early : Phase → Prop
  | .absent | .challenged _ _ | .identified _ _ _ => True
  | _ => False

/-- The handshake has returned, or the run is over. -/
def Phase.Settled : Phase → Prop
  | .absent | .challenged _ _ | .identified _ _ _ | .verified _ _ _ => False
  | _ => True

/-- How a connection gets to a phase in which its handshake is not over. -/
inductive HandshakeChange (cfg : Config) (s : State) (l : Label) (c : ConnID) : Phase → Prop
  | kept : HandshakeChange cfg s l c (s.phase c)
  | challenged {nonce ip} (hl : l = .accept c nonce ip) (hph : s.phase c = .absent) :
      HandshakeChange cfg s l c (.challenged nonce ip)
  | identified {nonce ip h d} (hl : l = .hello c (some h))
      (hph : s.phase c = .challenged nonce ip) (hnonce : h.nonce = nonce) :
      HandshakeChange cfg s l c (.identified ip h d)
  | verified {ip h d key blocked acked} (hl : l = .verify c blocked acked)
      (hph : s.phase c = .identified ip h d)
      (hkey : s.repo.activeCredentialPublicKey s.now h.deviceID = some key)
      (hver : cfg.verify key h.nonce h.signature = true) :
      HandshakeChange cfg s l c (.verified ip h d)
  | settled {p : Phase} (hsett : p.Settled) : HandshakeChange cfg s l c p

theorem HandshakeChange.of_setPhase {c' : ConnID} {p : Phase}
    (hself : c = c' → HandshakeChange cfg s l c p) :
    HandshakeChange cfg s l c ((s.setPhase c' p).phase c) := by
  rcases eq_or_ne c c' with rfl | hne
  · rw [setPhase_phase_self]
    exact hself rfl
  · rw [setPhase_phase_of_ne hne]
    exact .kept

theorem HandshakeChange.of_settled {c' : ConnID} {p : Phase} (hph : t.phase = update s.phase c' p)
    (hsett : p.Settled) : HandshakeChange cfg s l c (t.phase c) := by
  rw [hph]
  exact .of_setPhase fun _ ↦ .settled hsett

/-- A signature is accepted if it verifies under the active credential of the device. -/
theorem identified_of_verifyHello {blocked acked : Bool} {ip : String} {hello : Hello} {d : Row}
    (h : s.verifyHello cfg c blocked acked = some t) (hph : t.phase c = .verified ip hello d) :
    s.phase c = .identified ip hello d ∧ ∃ key,
      s.repo.activeCredentialPublicKey s.now hello.deviceID = some key ∧
        cfg.verify key hello.nonce hello.signature = true := by
  cases step_verify h with
  | verify hbef hkey hver =>
    rw [setPhase_phase_self] at hph
    obtain ⟨rfl, rfl, rfl⟩ := Phase.verified.inj hph
    exact ⟨hbef, _, hkey, hver⟩
  | reject =>
    rw [setPhase_phase_self] at hph
    cases hph

theorem handshakeChange_of_restart (c : ConnID) :
    HandshakeChange cfg s .restart c (s.restart.phase c) := by
  have hkept : HandshakeChange cfg s .restart c (s.phase c) := .kept
  show HandshakeChange cfg s .restart c (killedPhase (s.phase c))
  cases hph : s.phase c with
  | absent | finished =>
    rw [hph] at hkept
    exact hkept
  | _ => exact .settled trivial

/-- Where the phase of a connection comes from, as far as the handshake is concerned. -/
theorem handshakeChange_of_step (h : step cfg s l = some t) (c : ConnID) :
    HandshakeChange cfg s l c (t.phase c) := by
  cases step_cases h with
  | accept hph =>
    refine .of_setPhase ?_
    rintro rfl
    exact .challenged rfl hph
  | identify hph hnonce =>
    refine .of_setPhase ?_
    rintro rfl
    exact .identified rfl hph hnonce
  | verify hph hkey hver =>
    refine .of_setPhase ?_
    rintro rfl
    exact .verified rfl hph hkey hver
  | restart => exact handshakeChange_of_restart c
  | refuse | reject | admitConn | register | connect | endRead | unmap | markLost | notify =>
    -- the handshake is over
    exact .of_settled rfl trivial
  | _ =>
    -- no run moves
    exact .kept

/-! ### The invariant -/

namespace World

variable {w w' : World} {m : Move}

/-- What the phase of a connection says about its nonce. -/
def Knows (cfg : Config) (w : World) (c : ConnID) : Phase → Prop
  | .absent => w.challenges c = none
  | .challenged nonce _ => w.challenges c = some nonce
  | .identified _ h _ => w.challenges c = some h.nonce ∧ w.Unforged cfg h
  | _ => True

/-- **The invariant of the handshakes**: what is accepted was signed for its own connection. -/
structure AuthInv (cfg : Config) (w : World) : Prop where
  knows : ∀ c, w.Knows cfg c (w.hub.phase c)
  distinct : ∀ c c' nonce, w.challenges c = some nonce → w.challenges c' = some nonce → c = c'
  past : ∀ a ∈ w.accepted, ¬ (w.hub.phase a.conn).Early
  signed : ∀ a ∈ w.accepted, w.challenges a.conn = some a.hello.nonce ∧
    (a.key, a.hello.nonce) ∈ w.signed
  once : ∀ a ∈ w.accepted, ∀ b ∈ w.accepted, a.conn = b.conn → a = b

theorem Unforged.mono {h : Hello} (hu : w.Unforged cfg h) (hsub : ∀ p ∈ w.signed, p ∈ w'.signed) :
    w'.Unforged cfg h :=
  fun key hkey ↦ hsub _ (hu key hkey)

theorem Knows.mono {p : Phase} (hk : w.Knows cfg c p) (hc : w'.challenges c = w.challenges c)
    (hsub : ∀ p ∈ w.signed, p ∈ w'.signed) : w'.Knows cfg c p := by
  cases p with
  | absent | challenged => exact hc.trans hk
  | identified => exact ⟨hc.trans hk.1, hk.2.mono hsub⟩
  | _ => trivial

theorem knows_of_settled {p : Phase} (hp : p.Settled) : w.Knows cfg c p := by
  cases p <;> trivial

/-- A connection that is accepted was not so before, and its handshake was almost over. -/
structure Accepts (cfg : Config) (w : World) (t : State) (a : Acceptance) : Prop where
  phase : ∃ ip d, w.hub.phase a.conn = .identified ip a.hello d ∧
    t.phase a.conn = .verified ip a.hello d
  key : w.hub.repo.activeCredentialPublicKey w.hub.now a.hello.deviceID = some a.key
  verify : cfg.verify a.key a.hello.nonce a.hello.signature = true

theorem record_cases (h : ControlHub.step cfg w.hub l = some t) :
    (∃ c nonce ip, l = .accept c nonce ip ∧ w.hub.phase c = .absent ∧
      t = w.hub.setPhase c (.challenged nonce ip) ∧
      w.record t l = { w with hub := t, challenges := update w.challenges c (some nonce) }) ∨
    (∀ c nonce ip, l ≠ .accept c nonce ip) ∧
      (w.record t l = { w with hub := t } ∨
        ∃ a, Accepts cfg w t a ∧
          w.record t l = { w with hub := t, accepted := a :: w.accepted }) := by
  cases l with
  | accept c nonce ip =>
    simp only [ControlHub.step] at h
    split_ifs at h with hph
    exact .inl ⟨c, nonce, ip, rfl, hph, (some.inj h).symm, rfl⟩
  | verify c =>
    refine .inr ⟨by simp, ?_⟩
    rcases hph : t.phase c with _ | _ | _ | ⟨ip, hello, d⟩ | _ | _ | _ | _ | _ | _ | _ | _
    case verified =>
      rcases hkey : w.hub.repo.activeCredentialPublicKey w.hub.now hello.deviceID with _ | key
      · exact .inl (by simp only [record, hph, hkey])
      · obtain ⟨hbef, key', hkey', hver⟩ := identified_of_verifyHello h hph
        obtain rfl : key = key' := some.inj (hkey.symm.trans hkey')
        exact .inr ⟨⟨c, hello, key⟩, ⟨⟨ip, d, hbef, hph⟩, hkey, hver⟩,
          by simp only [record, hph, hkey]⟩
    all_goals exact .inl (by simp only [record, hph])
  | _ => exact .inr ⟨by simp, .inl rfl⟩

/-- A run never comes back before its handshake. -/
theorem not_early_of_step (h : ControlHub.step cfg s l = some t) (hpast : ¬ (s.phase c).Early) :
    ¬ (t.phase c).Early := by
  have hchange := handshakeChange_of_step h c
  generalize t.phase c = p at hchange
  cases hchange with
  | kept => exact hpast
  | challenged _ hph | identified _ hph =>
    rw [hph] at hpast
    exact absurd trivial hpast
  | verified => exact id
  | settled hsett => cases p <;> first | exact hsett.elim | exact id

theorem distinct_update {α : Type*} {f : ConnID → Option α} {a : α}
    (hf : ∀ c c' x, f c = some x → f c' = some x → c = c') (hnew : ∀ c, f c ≠ some a)
    (c₀ : ConnID) :
    ∀ c c' x, update f c₀ (some a) c = some x → update f c₀ (some a) c' = some x → c = c' := by
  have hself : ∀ {c x}, update f c₀ (some a) c = some x → (c = c₀ ∧ x = a) ∨ f c = some x := by
    intro c x hx
    rcases eq_or_ne c c₀ with rfl | hc
    · rw [update_self] at hx
      exact .inl ⟨rfl, (some.inj hx).symm⟩
    · rw [update_of_ne hc] at hx
      exact .inr hx
  intro c c' x hc hc'
  rcases hself hc with ⟨rfl, rfl⟩ | hold
  · rcases hself hc' with ⟨rfl, -⟩ | hold'
    · rfl
    · exact absurd hold' (hnew c')
  · rcases hself hc' with ⟨rfl, rfl⟩ | hold'
    · exact absurd hold (hnew c)
    · exact hf c c' x hold hold'

/-- A new connection gets a nonce that nobody else has. -/
theorem AuthInv.accept {nonce : List UInt8} {ip : String} (hw : AuthInv cfg w)
    (hph : w.hub.phase c = .absent) (hnew : ∀ c', w.challenges c' ≠ some nonce) :
    AuthInv cfg { w with
      hub := w.hub.setPhase c (.challenged nonce ip)
      challenges := update w.challenges c (some nonce) } := by
  have hnone : w.challenges c = none := by
    have hknows := hw.knows c
    rw [hph] at hknows
    exact hknows
  have hold : ∀ {c'}, c' ≠ c → update w.challenges c (some nonce) c' = w.challenges c' :=
    fun hc ↦ update_of_ne hc ..
  have hne : ∀ a ∈ w.accepted, a.conn ≠ c := by
    rintro a ha rfl
    exact absurd (hnone.symm.trans (hw.signed a ha).1) nofun
  refine ⟨fun c' ↦ ?_, distinct_update hw.distinct hnew c, fun a ha ↦ ?_, fun a ha ↦ ?_, hw.once⟩
  · show Knows cfg _ c' ((w.hub.setPhase c (.challenged nonce ip)).phase c')
    rcases eq_or_ne c' c with rfl | hc
    · rw [setPhase_phase_self]
      exact update_self ..
    · rw [setPhase_phase_of_ne hc]
      exact (hw.knows c').mono (hold hc) fun _ hp ↦ hp
  · show ¬ ((w.hub.setPhase c (.challenged nonce ip)).phase a.conn).Early
    rw [setPhase_phase_of_ne (hne a ha)]
    exact hw.past a ha
  · exact ⟨(hold (hne a ha)).trans (hw.signed a ha).1, (hw.signed a ha).2⟩

theorem AuthInv.move (hw : AuthInv cfg w) (h : ControlHub.step cfg w.hub l = some t)
    (hfair : w.Fair cfg (.hub l)) (hl : ∀ c nonce ip, l ≠ .accept c nonce ip) :
    AuthInv cfg { w with hub := t } := by
  refine { hw with knows := fun c ↦ ?_, past := fun a ha ↦ not_early_of_step h (hw.past a ha) }
  have hchange := handshakeChange_of_step h c
  have hknows := hw.knows c
  show Knows cfg _ c (t.phase c)
  generalize t.phase c = p at hchange
  cases hchange with
  | kept => exact hknows.mono rfl fun _ hp ↦ hp
  | challenged heq => exact absurd heq (hl c _ _)
  | identified heq hph hnonce =>
    subst heq
    rw [hph] at hknows
    refine ⟨?_, hfair⟩
    rw [hnonce]
    exact hknows
  | verified => trivial
  | settled hsett => exact knows_of_settled hsett

theorem AuthInv.accepts {a : Acceptance} (hw : AuthInv cfg w)
    (hmov : AuthInv cfg { w with hub := t }) (ha : Accepts cfg w t a) :
    AuthInv cfg { w with hub := t, accepted := a :: w.accepted } := by
  obtain ⟨_, d, hbef, haft⟩ := ha.phase
  have hknows := hw.knows a.conn
  rw [hbef] at hknows
  have hnew : ∀ b ∈ w.accepted, b.conn ≠ a.conn := by
    intro b hb heq
    have hpast := hw.past b hb
    rw [heq, hbef] at hpast
    exact hpast trivial
  refine ⟨fun c ↦ (hmov.knows c).mono rfl fun _ hp ↦ hp, hmov.distinct, ?_, ?_, ?_⟩
  · rintro b (_ | ⟨_, hb⟩)
    · show ¬ (t.phase a.conn).Early
      rw [haft]
      exact id
    · exact hmov.past b hb
  · rintro b (_ | ⟨_, hb⟩)
    · exact ⟨hknows.1, hknows.2 a.key ha.verify⟩
    · exact hmov.signed b hb
  · rintro b (_ | ⟨_, hb⟩) b' (_ | ⟨_, hb'⟩) heq
    · rfl
    · exact absurd heq.symm (hnew b' hb')
    · exact absurd heq (hnew b hb)
    · exact hw.once b hb b' hb' heq

/-- **Every fair step keeps the invariant.** -/
theorem AuthInv.step (hw : AuthInv cfg w) (h : w.step cfg m = some w') (hfair : w.Fair cfg m) :
    AuthInv cfg w' := by
  cases m with
  | answer =>
    cases h
    refine ⟨fun c ↦ (hw.knows c).mono rfl fun _ hp ↦ mem_cons_of_mem _ hp, hw.distinct, hw.past,
      fun a ha ↦ ?_, hw.once⟩
    exact ⟨(hw.signed a ha).1, mem_cons_of_mem _ (hw.signed a ha).2⟩
  | hub =>
    obtain ⟨t, ht, rfl⟩ := map_eq_some_iff.1 h
    obtain ⟨c, _, _, rfl, hph, rfl, hrec⟩ | ⟨hl, hrec⟩ := record_cases ht
    · rw [hrec]
      exact hw.accept hph hfair
    · have hmov := hw.move ht hfair hl
      obtain hrec | ⟨a, ha, hrec⟩ := hrec
      · rw [hrec]
        exact hmov
      · rw [hrec]
        exact hw.accepts hmov ha

theorem authInv_init : AuthInv cfg .init :=
  ⟨fun _ ↦ rfl, nofun, nofun, nofun, nofun⟩

/-! ### Revoked devices -/

/-- What has been accepted stays on record; something is added only if there is an active key. -/
theorem accepted_of_step (h : w.step cfg m = some w') {a : Acceptance} :
    (a ∈ w.accepted → a ∈ w'.accepted) ∧
      (a ∈ w'.accepted → a ∈ w.accepted ∨
        (w.hub.repo.activeCredentialPublicKey w.hub.now a.hello.deviceID).isSome) := by
  cases m with
  | answer =>
    cases h
    exact ⟨id, .inl⟩
  | hub =>
    obtain ⟨t, ht, rfl⟩ := map_eq_some_iff.1 h
    obtain ⟨c, _, _, -, -, -, hrec⟩ | ⟨-, hrec | ⟨b, hb, hrec⟩⟩ := record_cases ht <;> rw [hrec]
    · exact ⟨id, .inl⟩
    · exact ⟨id, .inl⟩
    · refine ⟨mem_cons_of_mem _, fun ha ↦ ?_⟩
      rcases mem_cons.1 ha with rfl | ha
      · exact .inr (by rw [hb.key]; rfl)
      · exact .inl ha

/-- The device has no usable credential, and nothing outside the list was accepted as the device. -/
structure Shut (id : UUID) (before : List Acceptance) (w : World) : Prop where
  issued : id ∈ w.hub.issued
  unusable : w.hub.repo.Unusable id
  subset : ∀ a ∈ before, a ∈ w.accepted
  accepted : ∀ a ∈ w.accepted, a.hello.deviceID = id → a ∈ before

/-- Without a usable credential nothing more is accepted. -/
theorem Shut.step {id : UUID} {before : List Acceptance} (hw : Shut id before w)
    (h : w.step cfg m = some w') :
    Shut id before w' := by
  have hsubset : ∀ a ∈ before, a ∈ w'.accepted := fun a ha ↦ (accepted_of_step h).1 (hw.subset a ha)
  have hacc : ∀ a ∈ w'.accepted, a.hello.deviceID = id → a ∈ before := by
    intro a ha hid
    rcases (accepted_of_step h).2 ha with hold | hkey
    · exact hw.accepted a hold hid
    · rw [hid, hw.unusable.activeCredentialPublicKey_eq_none] at hkey
      exact absurd hkey nofun
  cases m with
  | answer =>
    cases h
    exact ⟨hw.issued, hw.unusable, hsubset, hacc⟩
  | hub l =>
    obtain ⟨t, ht, rfl⟩ := map_eq_some_iff.1 h
    have hhub : (w.record t l).hub = t := by
      obtain ⟨c, _, _, -, -, -, hrec⟩ | ⟨-, hrec | ⟨b, -, hrec⟩⟩ := record_cases ht <;> rw [hrec]
    refine ⟨?_, ?_, hsubset, hacc⟩ <;> rw [hhub]
    · exact issued_of_step ht hw.issued
    · exact unusable_of_step ht hw.issued hw.unusable

theorem shut_of_revoke {id : UUID} (h : w.step cfg (.hub (.revoke id)) = some w') :
    Shut id w'.accepted w' := by
  obtain ⟨t, ht, rfl⟩ := map_eq_some_iff.1 h
  simp only [ControlHub.step] at ht
  split_ifs at ht with hiss
  cases ht
  exact ⟨hiss, w.hub.repo.unusable_revoke w.hub.now id, fun _ ha ↦ ha, fun _ ha _ ↦ ha⟩

theorem early_of_hello {msg : Option Hello} (h : w.step cfg (.hub (.hello c msg)) = some w') :
    (w.hub.phase c).Early := by
  obtain ⟨t, ht, -⟩ := map_eq_some_iff.1 h
  simp only [ControlHub.step, receiveHello] at ht
  split at ht
  next nonce ip hph =>
    rw [hph]
    trivial
  · cases ht

/-! ### The theorem -/

/-- If the step accepts a connection, the holder of the device's active key has signed its nonce. -/
def AcceptsSigned (w : World) (m : Move) (w' : World) : Prop :=
  ∀ c blocked acked, m = .hub (.verify c blocked acked) →
    ∀ ip h d, w'.hub.phase c = .verified ip h d →
      ∃ key nonce, w.hub.repo.activeCredentialPublicKey w.hub.now h.deviceID = some key ∧
        w.challenges c = some nonce ∧ (key, nonce) ∈ w.signed

theorem AuthInv.acceptsSigned (hw : AuthInv cfg w) (h : w.step cfg m = some w') :
    AcceptsSigned w m w' := by
  rintro c blocked acked rfl ip hello d hph
  obtain ⟨t, ht, rfl⟩ := map_eq_some_iff.1 h
  have hhub : (w.record t (.verify c blocked acked)).hub = t := by
    simp only [record]
    split
    · split <;> rfl
    · rfl
  rw [hhub] at hph
  obtain ⟨hbef, key, hkey, hver⟩ := identified_of_verifyHello ht hph
  have hknows := hw.knows c
  rw [hbef] at hknows
  exact ⟨key, hello.nonce, hkey, hknows.1, hknows.2 key hver⟩

end World

open World in
/-- **Authentication of the control channel**, for every interleaving of handshakes and whatever is
sent, as long as nonces are fresh and signatures are not forged. -/
theorem authentic {ms : List Move} {w : World} (hrun : exec (World.step cfg) .init ms = some w)
    (hfair : Along (World.step cfg) (fun w m _ ↦ w.Fair cfg m) .init ms) :
    Along (World.step cfg) AcceptsSigned .init ms ∧
      (∀ a ∈ w.accepted, ∀ b ∈ w.accepted, a.hello = b.hello → a.conn = b.conn) ∧
      (∀ a ∈ w.accepted, ∀ b ∈ w.accepted, a.conn = b.conn → a = b) ∧
      ∀ before id after, ms = before ++ .hub (.revoke id) :: after →
        ∀ c msg, .hub (.hello c msg) ∈ after → ∀ a ∈ w.accepted, a.conn = c →
          a.hello.deviceID ≠ id := by
  have hstep : ∀ w m w', AuthInv cfg w → w.step cfg m = some w' → w.Fair cfg m → AuthInv cfg w' :=
    fun _ _ _ hw h hm ↦ hw.step h hm
  have hinv : AuthInv cfg w := invariant_of_along hstep authInv_init hrun hfair
  refine ⟨along_of_invariant hstep (fun w m w' hw h _ ↦ hw.acceptsSigned h) authInv_init hfair, ?_,
    hinv.once, ?_⟩
  · intro a ha b hb heq
    refine hinv.distinct _ _ a.hello.nonce (hinv.signed a ha).1 ?_
    rw [heq]
    exact (hinv.signed b hb).1
  · rintro before id after rfl c msg hmem a ha rfl hid
    obtain ⟨u, hu, hrest⟩ := (exec_append_eq_some_iff _).1 hrun
    obtain ⟨v, hv, hrest⟩ := (exec_cons_eq_some_iff _).1 hrest
    obtain ⟨mid, _, rfl⟩ := append_of_mem hmem
    obtain ⟨x, hx, hlast⟩ := (exec_append_eq_some_iff _).1 hrest
    obtain ⟨y, hy, -⟩ := (exec_cons_eq_some_iff _).1 hlast
    have hshut : ∀ {w ms}, exec (World.step cfg) v ms = some w → Shut id v.accepted w := fun h ↦
      invariant_of_exec (fun _ _ _ hw h ↦ hw.step h) (shut_of_revoke hv) h
    -- the connection was on record before it was identified
    have hold : a ∈ x.accepted := (hshut hx).subset a ((hshut hrest).accepted a ha hid)
    have hx₀ : exec (World.step cfg) .init (before ++ .hub (.revoke id) :: mid) = some x :=
      (exec_append_eq_some_iff _).2 ⟨u, hu, (exec_cons_eq_some_iff _).2 ⟨v, hv, hx⟩⟩
    have hfair₀ : Along (World.step cfg) (fun w m _ ↦ w.Fair cfg m) .init
        (before ++ .hub (.revoke id) :: mid) := by
      rw [← cons_append, ← append_assoc] at hfair
      exact ((along_append hx₀).1 hfair).1
    exact (invariant_of_along hstep authInv_init hx₀ hfair₀).past a hold (early_of_hello hy)

namespace Sample

/-- A signature is the key followed by what is signed. -/
def signing : Config where
  timing := config.timing
  verify key nonce signature := signature = key ++ nonce

def identity : Identity where
  deviceID := device
  installID := 2
  publicKey := replicate 32 7
  sign nonce := replicate 32 7 ++ nonce

/-- What the agent sends for the nonce `[3]`. -/
def answer : Hello :=
  identity.hello "1.0.0" "linux" "amd64" true [3]

/-- The device is accepted and revoked, and somebody sends its hello on another connection. -/
def replay : List World.Move :=
  [.hub enroll, .hub (.accept 0 [3] "10.0.0.7"), .answer identity "1.0.0" "linux" "amd64" true [3],
    .hub (.hello 0 (some answer)), .hub (.verify 0 false true), .hub (.revoke device),
    .hub (.accept 1 [5] "10.0.0.8"), .hub (.hello 1 (some answer))]

end Sample

open Sample

open World in
/-- The hello of a revoked device is accepted once and not again. -/
theorem authentic_replay : ∃ w, exec (World.step signing) .init replay = some w ∧
      w.accepted.map Acceptance.conn = [0] ∧ Along (World.step signing) AcceptsSigned .init replay ∧
      ∀ a ∈ w.accepted, ∀ b ∈ w.accepted, a.hello = b.hello → a.conn = b.conn := by
  refine exists_of_exec (fun w ↦ w.accepted.map Acceptance.conn = [0]) (by decide +kernel)
    fun w hw hconns ↦ ?_
  have hunforged : ∀ w : World, (identity.publicKey, [3]) ∈ w.signed →
      w.Unforged signing answer := by
    intro w hmem key hkey
    have hsignature : identity.publicKey ++ [3] = key ++ [3] := of_decide_eq_true hkey
    rw [← append_cancel_right hsignature]
    exact hmem
  have hfair : Along (World.step signing) (fun w m _ ↦ w.Fair signing m) .init replay := by
    refine .cons rfl trivial (.cons rfl nofun ?_)
    refine .cons rfl trivial (.cons rfl ?_ ?_)
    · exact hunforged _ mem_cons_self
    refine .cons rfl trivial (.cons rfl trivial ?_)
    refine .cons rfl ?_ (.cons rfl ?_ trivial)
    · intro c
      show update init.challenges 0 (some [3]) c ≠ some [5]
      rcases eq_or_ne c 0 with rfl | hc
      · rw [update_self]
        decide
      · rw [update_of_ne hc]
        nofun
    · exact hunforged _ mem_cons_self
  obtain ⟨hsigned, hinjective, -⟩ := authentic hw hfair
  exact ⟨hconns, hsigned, hinjective⟩

end WartungsRemote.ControlHub
