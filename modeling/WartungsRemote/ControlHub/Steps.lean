import WartungsRemote.ControlHub.Hub

/-!
# What a step of the hub can do

`Step` has one constructor for every way in which a step can go, with what the step has found and
the state it leads to. From it there is one theorem per piece of shared state:

* `rowChange_of_step` — where a device row after a step comes from, and which write made it so;
* `bound_of_step` — a connection can only start acting for a device by verifying a signature under a
  credential that is usable at that moment;
* `lookup_of_step` — a map entry is an old one or that of a connection admitted for the device;
* `pending_of_step` — the sweeper only ever visits ids it found in the map.
-/

namespace WartungsRemote.ControlHub

open Device Function List Option State

variable {cfg : Config} {s t : State} {l : Label}

/-! ### The cases of a step -/

/-- The ways a step can go. -/
inductive Step (cfg : Config) (s : State) : Label → State → Prop
  | tick (d : ℕ) : Step cfg s (.tick d) { s with now := s.now + d }
  | enroll {id installID hostname agentVersion publicKey}
      (fresh : id ∉ s.issued) : Step cfg s (.enroll id installID hostname agentVersion publicKey)
        { s with
          repo := s.repo.insert id installID hostname agentVersion publicKey
          issued := id :: s.issued }
  | delete (id : UUID) : Step cfg s (.delete id) { s with repo := s.repo.delete id }
  | revoke {id} (issued : id ∈ s.issued) :
      Step cfg s (.revoke id) { s with repo := s.repo.revoke s.now id }
  | accept {c nonce ip} (phase : s.phase c = .absent) :
      Step cfg s (.accept c nonce ip) (s.setPhase c (.challenged nonce ip))
  | identify {c nonce ip h d}
      (phase : s.phase c = .challenged nonce ip) (answers : h.nonce = nonce) :
      Step cfg s (.hello c (some h)) (s.setPhase c (.identified ip h d))
  /-- The hello is missing or is turned down. -/
  | refuse {c msg} : Step cfg s (.hello c msg) (s.setPhase c .finished)
  | verify {c blocked acked ip h d key}
      (phase : s.phase c = .identified ip h d)
      (active : s.repo.activeCredentialPublicKey s.now h.deviceID = some key)
      (verifies : cfg.verify key h.nonce h.signature = true) :
      Step cfg s (.verify c blocked acked) (s.setPhase c (.verified ip h d))
  /-- There is no key, a check fails or the ack is not sent. -/
  | reject {c blocked acked} :
      Step cfg s (.verify c blocked acked) (s.setPhase c .finished)
  | admitConn {c lands ip h d} (phase : s.phase c = .verified ip h d) :
      Step cfg s (.admitConn c lands)
        { s.setPhase c (.admitted ⟨h.deviceID, h.installID, ip⟩) with
          repo := (s.repo.applyInventory h.deviceID d.hostname (osFamilyOf h.os) d.osName
            d.osVersion h.arch h.agentVersion lands).updateTransportSecurity h.deviceID h.secure }
  | register {c conn} (phase : s.phase c = .admitted conn) :
      Step cfg s (.register c)
        { s.setPhase c (.registered conn) with conns := s.conns.insert conn.deviceID c }
  | connect {c lands conn} (phase : s.phase c = .registered conn) :
      Step cfg s (.connect c lands)
        { s.setPhase c (.serving conn) with repo := (s.writeOnline conn lands).repo }
  | heartbeat {c lands conn} (phase : s.phase c = .serving conn) :
      Step cfg s (.heartbeat c lands) (s.writeOnline conn lands)
  | inventory {c hostname osFamily osName osVersion agentVersion lands conn}
      (phase : s.phase c = .serving conn) :
      Step cfg s (.inventory c hostname osFamily osName osVersion agentVersion lands)
        { s with
          repo := s.repo.applyInventory conn.deviceID hostname osFamily osName osVersion ""
            agentVersion lands }
  | endRead {c conn} (phase : s.phase c = .serving conn) :
      Step cfg s (.endRead c) (s.setPhase c (.ended conn))
  | unmap {c conn} (phase : s.phase c = .ended conn) :
      Step cfg s (.unmap c)
        { s.setPhase c (.unmapped conn) with
          conns := if s.conns.lookup conn.deviceID = some c then s.conns.erase conn.deviceID
            else s.conns }
  | markLost {c conn} (phase : s.phase c = .unmapped conn) :
      Step cfg s (.markLost c)
        { s.setPhase c (.lost conn) with
          repo := s.repo.updateStatusOnly conn.deviceID .connectionLost }
  | notify {c conn} (phase : s.phase c = .lost conn) :
      Step cfg s (.notify c) (s.setPhase c .finished)
  | sweepStart {order} (sweep : s.sweep = .idle) (perm : order.Perm s.conns.keys) :
      Step cfg s (.sweepStart order) { s with sweep := .visiting s.now [] order }
  | sweepRead {start closed id todo d}
      (sweep : s.sweep = .visiting start closed (id :: todo)) (row : s.repo.devices id = some d) :
      Step cfg s .sweepRead { s with sweep := .read start closed todo id d }
  /-- There is no row or no `last_seen_at`. -/
  | sweepSkip {start closed id todo}
      (sweep : s.sweep = .visiting start closed (id :: todo)) :
      Step cfg s .sweepRead { s with sweep := .visiting start closed todo }
  | sweepDecide {start closed id todo d status} (sweep : s.sweep = .read start closed todo id d)
      (decided : decideStatus cfg.timing s.now d = some status) :
      Step cfg s .sweepDecide { s with sweep := .marking start closed todo id status }
  /-- There is nothing to be written. -/
  | sweepPass {start closed id todo d}
      (sweep : s.sweep = .read start closed todo id d) :
      Step cfg s .sweepDecide { s with sweep := .visiting start closed todo }
  | sweepMark {start closed id todo status}
      (sweep : s.sweep = .marking start closed todo id status) :
      Step cfg s .sweepMark
        { s with
          repo := s.repo.updateStatusOnly id status
          sweep := if status = .offline then .closing start closed todo id
            else .visiting start closed todo }
  | sweepClose {start closed id todo c}
      (sweep : s.sweep = .closing start closed todo id) (entry : s.conns.lookup id = some c) :
      Step cfg s .sweepClose
        { s with
          conns := s.conns.erase id
          sweep := .visiting start (c :: closed) todo }
  /-- The device is not in the map any more. -/
  | sweepGone {start closed id todo}
      (sweep : s.sweep = .closing start closed todo id) :
      Step cfg s .sweepClose { s with sweep := .visiting start closed todo }
  | sweepEnd {start closed} (sweep : s.sweep = .visiting start closed []) :
      Step cfg s .sweepEnd { s with sweep := .idle, swept := some ⟨start, closed⟩ }
  | restart : Step cfg s .restart s.restart

variable {c : ConnID} {d' : Row} {p : Phase}

variable {msg : Option Hello} {f : Row → Row} {c' : ConnID} {lands : Bool} {d : Row} {id : UUID}

theorem step_hello (h : s.receiveHello c msg = some t) : Step cfg s (.hello c msg) t := by
  simp only [receiveHello] at h
  split at h
  next nonce ip hph =>
    split at h
    · cases h
      exact .refuse
    next hello =>
      split_ifs at h with hnonce
      · split at h
        next d hrow =>
          split_ifs at h with haccept
          · cases h
            exact .identify hph hnonce
          · cases h
            exact .refuse
        · cases h
          exact .refuse
      · cases h
        exact .refuse
  · cases h

theorem step_verify {blocked acked : Bool} (h : s.verifyHello cfg c blocked acked = some t) :
    Step cfg s (.verify c blocked acked) t := by
  simp only [verifyHello] at h
  split at h
  next ip hello d hph =>
    split at h
    next key hkey =>
      split_ifs at h with hchecks
      · cases h
        simp only [Bool.and_eq_true] at hchecks
        exact .verify hph hkey hchecks.1.2
      · cases h
        exact .reject
    · cases h
      exact .reject
  · cases h

theorem step_sweepRead (h : s.sweepRead = some t) : Step cfg s .sweepRead t := by
  simp only [sweepRead] at h
  split at h
  next start closed id todo hswp =>
    split at h
    next d hrow =>
      split_ifs at h with hseen
      · cases h
        exact .sweepRead hswp hrow
      · cases h
        exact .sweepSkip hswp
    · cases h
      exact .sweepSkip hswp
  · cases h

/-- **Every step is one of these.** -/
theorem step_cases (h : step cfg s l = some t) : Step cfg s l t := by
  cases l with
  | tick d => exact some.inj h ▸ .tick d
  | delete id => exact some.inj h ▸ .delete id
  | enroll | revoke | accept =>
    simp only [step] at h
    split_ifs at h with hgrd
    cases h
    constructor
    exact hgrd
  | hello => exact step_hello h
  | verify => exact step_verify h
  | sweepRead => exact step_sweepRead h
  | admitConn | register | connect | heartbeat | inventory | endRead | unmap | markLost | notify
  | sweepMark
  | sweepEnd =>
    simp only [step, admitConn, register, connect, heartbeat, receiveInventory, endRead, unmap,
      markLost, notify, sweepMark, sweepEnd] at h
    split at h
    next hwhere =>
      cases h
      constructor
      exact hwhere
    · cases h
  | sweepStart =>
    simp only [step, sweepStart] at h
    split at h
    next hswp =>
      split_ifs at h with hperm
      exact some.inj h ▸ .sweepStart hswp hperm
    · cases h
  | sweepDecide =>
    simp only [step, sweepDecide] at h
    split at h
    next hswp =>
      split at h
      next hdec => exact some.inj h ▸ .sweepDecide hswp hdec
      · exact some.inj h ▸ .sweepPass hswp
    · cases h
  | sweepClose =>
    simp only [step, sweepClose] at h
    split at h
    next hswp =>
      split at h
      next hentry => exact some.inj h ▸ .sweepClose hswp hentry
      · exact some.inj h ▸ .sweepGone hswp
    · cases h
  | restart => exact some.inj h ▸ .restart

/-! ### Device rows -/

/-- The ways a step can end with row `d'` stored for `id`. Rows are compared in the two columns of
the connectivity state machine, `status` and `last_seen_at`. -/
inductive RowChange (s : State) (l : Label) (id : UUID) (d' : Row) : Prop
  /-- Nothing the state machine sees has changed. -/
  | kept {d : Row} (row : s.repo.devices id = some d) (seen : d'.lastSeenAt = d.lastSeenAt)
      (status : d'.status = d.status)
  /-- A connection of the device wrote `online` and the current time. -/
  | online {d : Row} {c : ConnID} {conn} (row : s.repo.devices id = some d)
      (phase : s.phase c = .registered conn ∨ s.phase c = .serving conn)
      (device : conn.deviceID = id) (seen : d'.lastSeenAt = some s.now)
  /-- A teardown wrote `connection_lost`. -/
  | torn {d : Row} {c : ConnID} {conn} (row : s.repo.devices id = some d)
      (seen : d'.lastSeenAt = d.lastSeenAt) (label : l = .markLost c)
      (phase : s.phase c = .unmapped conn) (device : conn.deviceID = id)
  /-- The sweeper wrote what it had decided for. -/
  | swept {d : Row} {start closed todo} (row : s.repo.devices id = some d)
      (seen : d'.lastSeenAt = d.lastSeenAt) (label : l = .sweepMark)
      (sweep : s.sweep = .marking start closed todo id d'.status)
  /-- The device was revoked. -/
  | revoked {d : Row} (row : s.repo.devices id = some d) (seen : d'.lastSeenAt = d.lastSeenAt)
      (label : l = .revoke id) (status : d'.status = .revoked)
  /-- The device was enrolled under an id never used before. -/
  | enrolled {installID hostname agentVersion publicKey}
      (label : l = .enroll id installID hostname agentVersion publicKey) (fresh : id ∉ s.issued)
      (seen : d'.lastSeenAt = none)

theorem RowChange.of_eq (h : s.repo.devices id = some d') : RowChange s l id d' :=
  .kept h rfl rfl

theorem RowChange.of_updateRow {id' : UUID} (hseen : ∀ d, (f d).lastSeenAt = d.lastSeenAt)
    (hstat : ∀ d, (f d).status = d.status) (h : (s.repo.updateRow id' f).devices id = some d') :
    RowChange s l id d' := by
  obtain ⟨d, hd, rfl⟩ := (s.repo.updateRow_eq_some_iff id').1 h
  refine .kept hd ?_ ?_ <;> split <;> simp [hseen, hstat]

theorem RowChange.of_update {id' : UUID}
    (hself : id = id' → ∀ d, s.repo.devices id = some d → RowChange s l id (f d))
    (h : (s.repo.updateRow id' f).devices id = some d') : RowChange s l id d' := by
  obtain ⟨d, hd, rfl⟩ := (s.repo.updateRow_eq_some_iff id').1 h
  by_cases hid : id = id'
  · rw [if_pos hid]
    exact hself hid d hd
  · rw [if_neg hid]
    exact .kept hd rfl rfl

theorem RowChange.of_writeOnline {conn : Connection}
    (hph : s.phase c = .registered conn ∨ s.phase c = .serving conn)
    (h : (s.writeOnline conn lands).repo.devices id = some d') : RowChange s l id d' := by
  refine .of_update (fun hid d hd ↦ ?_) h
  cases lands with
  | true => exact .online hd hph hid.symm rfl
  | false => exact .of_eq hd

/-- **Where a row comes from.** -/
theorem rowChange_of_step (h : step cfg s l = some t) (hd : t.repo.devices id = some d') :
    RowChange s l id d' := by
  cases step_cases h with
  | @enroll id' _ _ _ _ hnew =>
    by_cases hid : id = id'
    · subst hid
      simp only [Repo.insert, update_self, some.injEq] at hd
      exact .enrolled rfl hnew (hd ▸ rfl)
    · simp only [Repo.insert, update_of_ne hid] at hd
      exact .of_eq hd
  | delete id' => exact .of_eq (s.repo.delete_devices_eq_some id' hd)
  | revoke =>
    refine .of_update (fun hid d hrow ↦ ?_) hd
    subst hid
    exact .revoked hrow rfl rfl rfl
  | admitConn =>
    obtain ⟨d, hrow, rfl⟩ := (Repo.updateRow_eq_some_iff _ _).1 hd
    obtain ⟨d₀, hrow₀, rfl⟩ := (s.repo.updateRow_eq_some_iff _).1 hrow
    refine .kept hrow₀ ?_ ?_ <;> split_ifs <;> rfl
  | connect hph => exact .of_writeOnline (.inl hph) hd
  | heartbeat hph => exact .of_writeOnline (.inr hph) hd
  | inventory =>
    refine .of_updateRow ?_ ?_ hd <;> intro d <;> split <;> rfl
  | markLost hph =>
    refine .of_update (fun hid d hrow ↦ ?_) hd
    exact .torn hrow rfl rfl hph hid.symm
  | sweepMark hswp =>
    refine .of_update (fun hid d hrow ↦ ?_) hd
    subst hid
    exact .swept hrow rfl rfl hswp
  | _ =>
    -- none of the others writes to the registry
    exact .of_eq hd

/-! ### Connections acting for a device -/

/-- The device a `ServeAgentWS` run has proved to be and may still register or write for: none
before its signature is checked or after its status write. -/
def Phase.bound : Phase → Option UUID
  | .verified _ h _ => some h.deviceID
  | .admitted conn | .registered conn | .serving conn | .ended conn | .unmapped conn =>
    some conn.deviceID
  | _ => none

theorem bound_killedPhase (p : Phase) : (killedPhase p).bound = none := by
  cases p <;> rfl

/-- What is true of a phase stays true when a run moves, if it is true of the phase moved to. -/
theorem setPhase_of {P : Phase → Prop} (hp : P (s.phase c) → P p) (h : P (s.phase c')) :
    P ((s.setPhase c p).phase c') := by
  by_cases hc : c' = c
  · subst hc
    rw [setPhase_phase_self]
    exact hp h
  · rwa [setPhase_phase_of_ne hc]

theorem of_setPhase {P : Phase → Prop} (hp : P p → P (s.phase c))
    (h : P ((s.setPhase c p).phase c')) : P (s.phase c') :=
  not_not.1 fun hn ↦ setPhase_of (P := (¬ P ·)) (mt hp) hn h

theorem bound_setPhase (hp : p.bound = some id → (s.phase c).bound = some id)
    (h : ((s.setPhase c p).phase c').bound = some id) : (s.phase c').bound = some id :=
  of_setPhase (P := fun q ↦ q.bound = some id) hp h

/-- **Only a usable credential binds.** A run bound to a device after a step was so before, or the
device has a usable credential. -/
theorem bound_of_step (h : step cfg s l = some t) (hb : (t.phase c).bound = some id) :
    (s.phase c).bound = some id ∨ (s.repo.activeCredentialPublicKey s.now id).isSome := by
  cases step_cases h with
  | @verify c' _ _ _ hello _ _ _ hkey =>
    by_cases hc : c = c'
    · subst hc
      obtain rfl : hello.deviceID = id := by
        simpa [Phase.bound] using hb
      exact .inr (by rw [hkey]; rfl)
    · rw [setPhase_phase_of_ne hc] at hb
      exact .inl hb
  | restart => simp [restart, bound_killedPhase] at hb
  | admitConn hph | register hph | connect hph | endRead hph | unmap hph | markLost hph =>
    -- the run keeps its device or drops it
    exact .inl (bound_setPhase (by simp [hph, Phase.bound]) hb)
  | accept | identify | refuse | reject | notify =>
    -- the new phase acts for no device
    exact .inl (bound_setPhase (by rintro ⟨⟩) hb)
  | _ =>
    -- no run moves
    exact .inl hb

/-! ### Connectivity writes -/

theorem writeOnline_of_step (h : step cfg s l = some t)
    (hl : l = .connect c lands ∨ l = .heartbeat c lands) :
    ∃ conn, (s.phase c).bound = some conn.deviceID ∧ t.repo = (s.writeOnline conn lands).repo := by
  obtain rfl | rfl := hl
  · cases step_cases h with
    | connect hph => exact ⟨_, by rw [hph]; rfl, rfl⟩
  · cases step_cases h with
    | heartbeat hph => exact ⟨_, by rw [hph]; rfl, rfl⟩

theorem seen_of_write (h : step cfg s l = some t) (hl : l = .connect c true ∨ l = .heartbeat c true)
    (hb : (s.phase c).bound = some id) (hd : t.repo.devices id = some d) :
    d.lastSeenAt = some s.now := by
  obtain ⟨conn, hconn, hrepo⟩ := writeOnline_of_step h hl
  cases hconn.symm.trans hb
  rw [hrepo] at hd
  obtain ⟨_, -, rfl⟩ := (s.repo.updateRow_eq_some_iff conn.deviceID).1 hd
  rw [if_pos rfl, if_pos rfl]

/-! ### The connection map -/

/-- **A map entry is old, or belongs to a connection that was just admitted for the device.** -/
theorem lookup_of_step (h : step cfg s l = some t) (hc : t.conns.lookup id = some c) :
    s.conns.lookup id = some c ∨ l = .register c ∧ ∃ conn, s.phase c = .admitted conn ∧
      conn.deviceID = id := by
  cases step_cases h with
  | @register _ conn hph =>
    obtain ⟨rfl, rfl⟩ | ⟨-, hold⟩ := GoMap.lookup_of_insert hc
    · exact .inr ⟨rfl, conn, hph, rfl⟩
    · exact .inl hold
  | unmap =>
    simp only at hc
    split at hc
    · exact .inl (GoMap.lookup_of_erase hc).2
    · exact .inl hc
  | sweepClose => exact .inl (GoMap.lookup_of_erase hc).2
  | restart => simp [restart] at hc
  | _ => exact .inl hc

/-- A run that has entered the map for a device, and may have left it. -/
def Phase.Joined (id : UUID) : Phase → Prop
  | .registered conn | .serving conn | .ended conn | .unmapped conn | .lost conn =>
    conn.deviceID = id
  | .finished | .killed => True
  | .absent | .challenged _ _ | .identified _ _ _ | .verified _ _ _ | .admitted _ => False

/-- A run that may be in the map for a device. -/
def Phase.Mapped (id : UUID) : Phase → Prop
  | .registered conn | .serving conn | .ended conn => conn.deviceID = id
  | _ => False

theorem Phase.Mapped.joined (h : p.Mapped id) : p.Joined id := by
  cases p with
  | registered | serving | ended => exact h
  | _ => exact h.elim

theorem Phase.Mapped.bound (h : p.Mapped id) : p.bound = some id := by
  cases p with
  | registered | serving | ended => exact congrArg some h
  | _ => exact h.elim

theorem Phase.Joined.eq_of_mapped {id' : UUID} (h : p.Joined id) (h' : p.Mapped id') :
    id = id' := by
  cases p with
  | registered | serving | ended => exact h.symm.trans h'
  | _ => exact h'.elim

theorem joined_setPhase (hp : (s.phase c').Joined id → p.Joined id) (h : (s.phase c).Joined id) :
    ((s.setPhase c' p).phase c).Joined id :=
  setPhase_of (P := (·.Joined id)) hp h

/-- **A run does not come back**: once it has entered the map it only moves on. -/
theorem joined_of_step (h : step cfg s l = some t) (hc : (s.phase c).Joined id) :
    (t.phase c).Joined id := by
  cases step_cases h with
  | accept hph | identify hph | verify hph | admitConn hph | register hph =>
    refine joined_setPhase (fun hj ↦ ?_) hc
    rw [hph] at hj
    exact hj.elim
  | refuse | reject | notify => exact joined_setPhase (fun _ ↦ trivial) hc
  | connect hph | endRead hph | unmap hph | markLost hph =>
    refine joined_setPhase (fun hj ↦ ?_) hc
    rw [hph] at hj
    exact hj
  | restart =>
    show (killedPhase (s.phase c)).Joined id
    cases hph : s.phase c <;> rw [hph] at hc <;> trivial
  | _ => exact hc

theorem phase_of_receiveHello (h : s.receiveHello c msg = some t) :
    ∃ nonce ip, s.phase c = .challenged nonce ip := by
  unfold receiveHello at h
  split at h
  next nonce ip hph => exact ⟨nonce, ip, hph⟩
  · cases h

theorem phase_of_verifyHello {blocked acked : Bool}
    (h : s.verifyHello cfg c blocked acked = some t) :
    ∃ ip hello d, s.phase c = .identified ip hello d := by
  unfold verifyHello at h
  split at h
  next ip hello d hph => exact ⟨ip, hello, d, hph⟩
  · cases h

/-- A run in the map is registered for the device and not yet torn down. -/
theorem mapped_of_step (h : step cfg s l = some t)
    (hs : ∀ id c, s.conns.lookup id = some c → (s.phase c).Mapped id) :
    ∀ id c, t.conns.lookup id = some c → (t.phase c).Mapped id := by
  intro id c hc
  have hkept : ∀ {c' p}, s.conns.lookup id = some c → ((s.phase c').Mapped id → p.Mapped id) →
      ((s.setPhase c' p).phase c).Mapped id := fun hold hp ↦
    setPhase_of (P := (·.Mapped id)) hp (hs id c hold)
  cases step_cases h with
  | @register _ conn hph =>
    obtain ⟨rfl, rfl⟩ | ⟨-, hold⟩ := GoMap.lookup_of_insert hc
    · show ((s.setPhase c (.registered conn)).phase c).Mapped conn.deviceID
      rw [setPhase_phase_self]
      rfl
    · refine hkept hold fun hm ↦ ?_
      rw [hph] at hm
      exact hm.elim
  | @unmap c' conn hph =>
    have hold : s.conns.lookup id = some c := by
      simp only at hc
      split at hc
      · exact (GoMap.lookup_of_erase hc).2
      · exact hc
    by_cases hcc : c = c'
    · -- the entry would be the one that is removed
      subst hcc
      have hm := hs id c hold
      rw [hph] at hm
      obtain rfl : conn.deviceID = id := hm
      simp [hold, AList.lookup_erase] at hc
    · show ((s.setPhase c' (.unmapped conn)).phase c).Mapped id
      rw [setPhase_phase_of_ne hcc]
      exact hs id c hold
  | sweepClose => exact hs id c (GoMap.lookup_of_erase hc).2
  | restart => simp [restart] at hc
  | accept hph | identify hph | verify hph | admitConn hph =>
    refine hkept hc fun hm ↦ ?_
    rw [hph] at hm
    exact hm.elim
  | connect hph | endRead hph | markLost hph | notify hph =>
    refine hkept hc fun hm ↦ ?_
    rw [hph] at hm
    exact hm
  | refuse =>
    obtain ⟨_, _, hph⟩ := phase_of_receiveHello h
    exact hkept hc fun hm ↦ (hph ▸ hm :).elim
  | reject =>
    obtain ⟨_, _, _, hph⟩ := phase_of_verifyHello h
    exact hkept hc fun hm ↦ (hph ▸ hm :).elim
  | _ => exact hs id c hc

/-! ### The sweeper -/

/-- The ids the sweeper has still to deal with, the one in hand included. -/
def Sweep.pending : Sweep → List UUID
  | .idle => []
  | .visiting _ _ todo => todo
  | .read _ _ todo id _ | .marking _ _ todo id _ | .closing _ _ todo id => id :: todo

/-- **The sweeper visits only ids it found in the map.** -/
theorem pending_of_step (h : step cfg s l = some t) (hid : id ∈ t.sweep.pending) :
    id ∈ s.sweep.pending ∨ id ∈ s.conns := by
  cases step_cases h with
  | sweepStart _ hperm => exact .inr (AList.mem_keys.2 (hperm.mem_iff.1 hid))
  | sweepRead hswp | sweepDecide hswp =>
    rw [hswp]
    exact .inl hid
  | sweepSkip hswp | sweepPass hswp | sweepClose hswp | sweepGone hswp =>
    -- the sweeper drops the id in hand
    rw [hswp]
    exact .inl (mem_cons_of_mem _ hid)
  | sweepMark hswp =>
    rw [hswp]
    simp only at hid
    split at hid
    · exact .inl hid
    · exact .inl (mem_cons_of_mem _ hid)
  | sweepEnd | restart => cases hid
  | _ => exact .inl hid

/-! ### Credentials and ids -/

theorem issued_of_step (h : step cfg s l = some t) (hid : id ∈ s.issued) : id ∈ t.issued := by
  cases step_cases h with
  | enroll => exact mem_cons_of_mem _ hid
  | _ => exact hid

/-- Revoked credentials stay revoked, and an id handed out gets no new ones. -/
theorem unusable_of_step (h : step cfg s l = some t) (hid : id ∈ s.issued)
    (hk : s.repo.Unusable id) : t.repo.Unusable id := by
  cases step_cases h with
  | @enroll id' _ _ _ _ hnew =>
    have hne : id ≠ id' := fun heq ↦ hnew (heq ▸ hid)
    intro k hmem
    simp only [Repo.insert, update_of_ne hne] at hmem
    exact hk k hmem
  | delete id' => exact hk.delete id'
  | @revoke id' => exact hk.revoke s.now id'
  | _ => exact hk

theorem credentials_of_step (h : step cfg s l = some t)
    (hs : ∀ id, id ∉ s.issued → s.repo.credentials id = []) :
    ∀ id, id ∉ t.issued → t.repo.credentials id = [] := by
  intro id hid
  have hold : s.repo.credentials id = [] := hs id fun hmem ↦ hid (issued_of_step h hmem)
  cases step_cases h with
  | @enroll id' =>
    have hne : id ≠ id' := fun heq ↦ hid (heq ▸ mem_cons_self)
    simpa [Repo.insert, update_of_ne hne] using hold
  | delete id' =>
    show (s.repo.delete id').credentials id = []
    unfold Repo.delete
    split
    · split
      · by_cases hne : id = id' <;> simp [hne, hold]
      · exact hold
    · exact hold
  | @revoke id' =>
    by_cases hne : id = id'
    · subst hne
      simp [Repo.revoke, hold]
    · simpa [Repo.revoke, Repo.updateRow, update_of_ne hne] using hold
  | _ => exact hold

/-- Only enrolled devices have credentials, and runs that act for them. -/
structure Enrolled (s : State) : Prop where
  credentials : ∀ id, id ∉ s.issued → s.repo.credentials id = []
  bound : ∀ c id, (s.phase c).bound = some id → id ∈ s.issued

theorem enrolled_init : Enrolled .init where
  credentials _ _ := rfl
  bound := nofun

theorem Enrolled.step (hs : Enrolled s) (h : step cfg s l = some t) : Enrolled t where
  credentials := credentials_of_step h hs.credentials
  bound c id hb := by
    obtain hold | hkey := bound_of_step h hb
    · exact issued_of_step h (hs.bound c id hold)
    · by_contra hid
      have hnone := hs.credentials id fun hmem ↦ hid (issued_of_step h hmem)
      simp [Repo.activeCredentialPublicKey, hnone] at hkey

end WartungsRemote.ControlHub
