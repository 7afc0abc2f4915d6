import WartungsRemote.ControlHub.Offline
import WartungsRemote.Transition.History

/-!
# Which connections the sweeper closes

The sweeper closes a connection because its device has not been seen for `offlineAfter`. It takes
the decision on the device's row and carries it out on **whatever connection the map holds** a few
steps later. There are three ways in which it closes a connection that is not stale:

* the connection is registered, or a heartbeat of it is processed, after the row was read;
* the row is read after the connection was registered and before its first connectivity write, so
  that the `last_seen_at` in it is that of an earlier connection;
* a connectivity write of the connection fails, which the hub does not notice.

`Undisturbed` excludes them (`closesStale_of_undisturbed`). The hub itself does not know when a
connection was registered, so this is kept in a history (`Heard`).
-/

namespace WartungsRemote.ControlHub

open Device Transition Function Option State

/-! ### When a connection was last heard of -/

/-- When each connection was registered, and when a heartbeat of it was last processed. -/
structure Heard where
  registeredAt : ConnID → Option ℕ
  heartbeatAt : ConnID → Option ℕ

namespace Heard

def init : Heard where
  registeredAt _ := none
  heartbeatAt _ := none

/-- What is remembered of a step. -/
def record (h : Heard) (s : State) : Label → State → Heard
  | .register c, _ => { h with registeredAt := update h.registeredAt c (some s.now) }
  | .heartbeat c _, _ => { h with heartbeatAt := update h.heartbeatAt c (some s.now) }
  | _, _ => h

end Heard

/-- The hub, and when it heard of its connections. -/
abbrev Timed : Type := State × Heard

/-- A step of the hub, remembered. -/
abbrev timedStep (cfg : Config) : Timed → Label → Option Timed :=
  withHistory (step cfg) Heard.record

/-- The connection that a step of the sweeper closes. -/
def State.closes? (s : State) : Label → Option ConnID
  | .sweepClose =>
    match s.sweep with
    | .closing _ _ _ id => s.conns.lookup id
    | _ => none
  | _ => none

/-- For `offlineAfter` the connection has been registered, and no heartbeat of it was processed. -/
def Timed.Stale (timing : Timing) (w : Timed) (c : ConnID) : Prop :=
  (∃ registered ∈ w.2.registeredAt c, registered + timing.offlineAfter ≤ w.1.now) ∧
    ∀ heard ∈ w.2.heartbeatAt c, heard + timing.offlineAfter ≤ w.1.now
  deriving Decidable

/-- **The sweeper only closes stale connections.** -/
def ClosesStale (timing : Timing) (w : Timed) (l : Label) (_ : Timed) : Prop :=
  ∀ c ∈ w.1.closes? l, w.Stale timing c
  deriving Decidable

/-! ### What must not come between -/

/-- The device whose row the sweeper has read and whose connection it may still close. -/
def Sweep.target : Sweep → Option UUID
  | .read _ _ _ id _ | .marking _ _ _ id .offline | .closing _ _ _ id => some id
  | _ => none

/-- The run is in the map and has not made its first connectivity write. -/
def Phase.unwritten : Phase → Bool
  | .registered _ => true
  | _ => false

/-- The device of which a step registers a connection or processes a heartbeat. -/
def State.hears (s : State) : Label → Option UUID
  | .register c | .heartbeat c _ => (s.phase c).bound
  | _ => none

/-- The connection of which a step makes a connectivity write that fails, and its device. -/
def State.misses (s : State) : Label → Option (UUID × ConnID)
  | .connect c false | .heartbeat c false => (s.phase c).bound.map (·, c)
  | _ => none

/-- The condition on a step. While the sweeper has a device in hand, no connection of it is
registered and no heartbeat of it processed; the sweeper reads no row of a device whose connection
has not made its first connectivity write; and no connectivity write of a connection in the map
fails. -/
def Undisturbed (s : State) (l : Label) : Prop :=
  (∀ id ∈ s.hears l, s.sweep.target ≠ some id) ∧
    (l = .sweepRead →
      ∀ id ∈ s.sweep.pending.head?, ∀ c ∈ s.conns.lookup id, (s.phase c).unwritten = false) ∧
    ∀ missed ∈ s.misses l, s.conns.lookup missed.1 ≠ some missed.2

instance (s : State) (l : Label) : Decidable (Undisturbed s l) :=
  -- the id that is there, not the finite type of all ids
  have : Decidable (∀ id ∈ s.hears l, s.sweep.target ≠ some id) := decidableForallMem _
  have : Decidable (∀ id ∈ s.sweep.pending.head?, ∀ c ∈ s.conns.lookup id,
      (s.phase c).unwritten = false) :=
    decidableForallMem _
  have : Decidable (∀ missed ∈ s.misses l, s.conns.lookup missed.1 ≠ some missed.2) :=
    decidableForallMem _
  inferInstanceAs (Decidable (_ ∧ _ ∧ _))

variable {cfg : Config} {s t : State} {l : Label} {w w' : Timed} {c : ConnID} {id : UUID}

/-! ### The connections in the map -/

/-- The run is in the map for the device and has made its first connectivity write. -/
def Phase.Written (id : UUID) : Phase → Prop
  | .serving conn | .ended conn => conn.deviceID = id
  | _ => False

variable {p : Phase} {n : ℕ} {timing : Timing}

theorem Phase.Mapped.written (h : p.Mapped id) (hp : p.unwritten = false) : p.Written id := by
  cases p with
  | registered => cases hp
  | serving | ended => exact h
  | _ => exact h.elim

theorem written_setPhase {c' : ConnID} (hp : p.Written id → (s.phase c').Written id)
    (h : ((s.setPhase c' p).phase c).Written id) : (s.phase c).Written id :=
  of_setPhase (P := Phase.Written id) hp h

/-- A run has made its first write before, or connects now. -/
theorem written_of_step (h : step cfg s l = some t) (hc : (t.phase c).Written id) :
    (s.phase c).Written id ∨ ∃ lands, l = .connect c lands := by
  cases step_cases h with
  | @connect c' lands conn =>
    by_cases hcc : c = c'
    · exact .inr ⟨lands, by rw [hcc]⟩
    · refine .inl ?_
      have hkept : ((s.setPhase c' (.serving conn)).phase c).Written id := hc
      rwa [setPhase_phase_of_ne hcc] at hkept
  | endRead hph =>
    refine .inl (written_setPhase (fun hw ↦ ?_) hc)
    rw [hph]
    exact hw
  | accept | identify | refuse | verify | reject | admitConn | register | unmap | markLost
  | notify =>
    -- the new phase is not one of the two
    exact .inl (written_setPhase (by rintro ⟨⟩) hc)
  | restart =>
    have hkilled : (killedPhase (s.phase c)).Written id := hc
    revert hkilled
    cases s.phase c <;> rintro ⟨⟩
  | _ => exact .inl hc

theorem now_le_of_step (h : step cfg s l = some t) : s.now ≤ t.now := by
  cases step_cases h with
  | tick => exact Nat.le_add_right _ _
  | _ => exact le_rfl

/-! ### What is known of the connections in the map -/

namespace Heard

variable {h : Heard} {n m : ℕ}

/-- The connection was registered by the time `n`, and no heartbeat of it was processed after it. -/
def By (h : Heard) (n : ℕ) (c : ConnID) : Prop :=
  (∃ registered ∈ h.registeredAt c, registered ≤ n) ∧ ∀ heard ∈ h.heartbeatAt c, heard ≤ n

/-- Nothing new is known of a connection neither registered nor heard by a step. -/
theorem by_record (hreg : l ≠ .register c) (hbeat : ∀ lands, l ≠ .heartbeat c lands) :
    (h.record s l t).By n c ↔ h.By n c := by
  cases l with
  | register c' =>
    have hc : c ≠ c' := fun heq ↦ hreg (by rw [heq])
    simp [By, record, update_of_ne hc]
  | heartbeat c' lands =>
    have hc : c ≠ c' := fun heq ↦ hbeat lands (by rw [heq])
    simp [By, record, update_of_ne hc]
  | _ => rfl

theorem heartbeatAt_record {heard : ℕ} (hmem : heard ∈ (h.record s l t).heartbeatAt c) :
    heard ∈ h.heartbeatAt c ∨ heard = s.now := by
  cases l with
  | heartbeat c' =>
    by_cases hc : c = c'
    · subst hc
      exact .inr (by simpa [record, eq_comm] using hmem)
    · exact .inl (by simpa [record, update_of_ne hc] using hmem)
  | _ => exact .inl hmem

end Heard

/-- The row of a device has been written since its connection in the map was last heard of. -/
structure HeardInv (w : Timed) : Prop where
  mapped : ∀ id c, w.1.conns.lookup id = some c → (w.1.phase c).Mapped id
  past : ∀ c, ∀ heard ∈ w.2.heartbeatAt c, heard ≤ w.1.now
  known : ∀ id c, w.1.conns.lookup id = some c → w.2.By w.1.now c
  seen : ∀ id c d n, w.1.conns.lookup id = some c → (w.1.phase c).Written id →
    w.1.repo.devices id = some d → d.lastSeenAt = some n → w.2.By n c

theorem heardInv_init : HeardInv (.init, .init) := by
  constructor <;> simp [init, Heard.init]

namespace HeardInv

section

variable (hw : HeardInv w)
include hw

theorem ne_of_admitted {conn : Connection} {c' : ConnID} (hph : w.1.phase c' = .admitted conn)
    (hc : w.1.conns.lookup id = some c) : c ≠ c' := by
  rintro rfl
  have hm := hw.mapped id c hc
  rw [hph] at hm
  exact hm.elim

section

variable (h : step cfg w.1 l = some t)
include h

theorem past_of_step : ∀ heard ∈ (w.2.record w.1 l t).heartbeatAt c, heard ≤ t.now := by
  intro heard hmem
  obtain hold | rfl := Heard.heartbeatAt_record hmem
  · exact Nat.le_trans (hw.past c heard hold) (now_le_of_step h)
  · exact now_le_of_step h

theorem known_of_step (hc : t.conns.lookup id = some c) : (w.2.record w.1 l t).By t.now c := by
  refine ⟨?_, hw.past_of_step h⟩
  obtain hold | ⟨rfl, -⟩ := lookup_of_step h hc
  · obtain ⟨⟨registered, hmem, hle⟩, -⟩ := hw.known id c hold
    have hle' := Nat.le_trans hle (now_le_of_step h)
    cases l with
    | register c' =>
      by_cases hcc : c = c'
      · subst hcc
        exact ⟨w.1.now, by simp [Heard.record], now_le_of_step h⟩
      · exact ⟨registered, by simpa [Heard.record, update_of_ne hcc] using hmem, hle'⟩
    | _ => exact ⟨registered, hmem, hle'⟩
  · exact ⟨w.1.now, by simp [Heard.record], now_le_of_step h⟩

/-- The row is written at the first write of a connection of the device and at a heartbeat. -/
theorem seen_of_step (hl : Undisturbed w.1 l) {d : Row} {n : ℕ} (hc : t.conns.lookup id = some c)
    (hwr : (t.phase c).Written id)
    (hd : t.repo.devices id = some d) (hn : d.lastSeenAt = some n) :
    (w.2.record w.1 l t).By n c := by
  have hwrite : ∀ lands, l = .connect c lands ∨ l = .heartbeat c lands →
      w.1.conns.lookup id = some c → (w.2.record w.1 l t).By n c := by
    intro lands honl hold
    have hb := (hw.mapped id c hold).bound
    cases lands with
    | false =>
      have hmisses : w.1.misses l = some (id, c) := by
        rcases honl with rfl | rfl <;> simp [misses, hb]
      exact absurd hold (hl.2.2 _ hmisses)
    | true =>
    cases hn.symm.trans (seen_of_write h honl hb hd)
    have hnow : t.now = w.1.now := by
      rcases honl with rfl | rfl <;> cases step_cases h <;> rfl
    exact hnow ▸ hw.known_of_step h hc
  obtain hold | ⟨rfl, _, hph, -⟩ := lookup_of_step h hc
  · obtain hbef | ⟨lands, hl⟩ := written_of_step h hwr
    · by_cases hbeat : ∃ lands, l = .heartbeat c lands
      · obtain ⟨lands, hl⟩ := hbeat
        exact hwrite lands (.inr hl) hold
      · have hreg : l ≠ .register c := by
          rintro rfl
          cases step_cases h with
          | register hph =>
            rw [hph] at hbef
            exact hbef.elim
        rw [Heard.by_record hreg fun lands hl ↦ hbeat ⟨lands, hl⟩]
        cases rowChange_of_step h hd with
        | kept hd₀ hseen | torn hd₀ hseen | swept hd₀ hseen | revoked hd₀ hseen =>
          exact hw.seen id c _ n hold hbef hd₀ (hseen ▸ hn)
        | online _ _ _ hseen =>
          cases hn.symm.trans hseen
          exact hw.known id c hold
        | enrolled _ _ hseen => cases hn.symm.trans hseen
    · exact hwrite lands (.inl hl) hold
  · -- a connection that is registered has still to make its first write
    obtain hbef | ⟨lands, ⟨⟩⟩ := written_of_step h hwr
    rw [hph] at hbef
    exact hbef.elim

end

theorem step (h : timedStep cfg w l = some w') (hl : Undisturbed w.1 l) : HeardInv w' := by
  obtain ⟨t, hstep, rfl⟩ := withHistory_eq_some_iff.1 h
  constructor
  · exact mapped_of_step hstep hw.mapped
  · exact fun c ↦ hw.past_of_step hstep
  · exact fun id c hc ↦ hw.known_of_step hstep hc
  · exact fun id c d n hc hwr hd hn ↦ hw.seen_of_step hstep hl hc hwr hd hn

end

end HeardInv

/-! ### The decision of the sweeper -/

/-- The connection that the map holds for the device was last heard of by the time `n`. -/
def Timed.HeardBy (w : Timed) (id : UUID) (n : ℕ) : Prop :=
  ∀ c, w.1.conns.lookup id = some c → w.2.By n c

/-- What the sweeper has read, and then decided, holds of the connection that it will close. -/
def SweepHeard (timing : Timing) (w : Timed) : Sweep → Prop
  | .read _ _ _ id d => ∀ n, d.lastSeenAt = some n → w.HeardBy id n
  | .marking _ _ _ id .offline | .closing _ _ _ id =>
    ∃ n, n + timing.offlineAfter ≤ w.1.now ∧ w.HeardBy id n
  | _ => True

theorem HeardInv.heardBy_of_step (hw : HeardInv w) (h : timedStep cfg w l = some w')
    (hl : Undisturbed w.1 l) (hid : w.1.sweep.target = some id) (hn : w.HeardBy id n) :
    w'.HeardBy id n := by
  obtain ⟨t, hstep, rfl⟩ := withHistory_eq_some_iff.1 h
  intro c hc
  obtain hold | ⟨rfl, _, hph, hdev⟩ := lookup_of_step hstep hc
  · rw [Heard.by_record]
    · exact hn c hold
    · rintro rfl
      cases step_cases hstep with
      | register hph => exact hw.ne_of_admitted hph hold rfl
    · rintro lands rfl
      cases step_cases hstep with
      | heartbeat hph =>
        have hm := hw.mapped id c hold
        rw [hph] at hm
        refine hl.1 id ?_ hid
        rw [hears, hph]
        exact congrArg some hm
  · refine absurd hid (hl.1 id ?_)
    rw [hears, hph]
    exact congrArg some hdev

theorem decideStatus_offline {now : ℕ} {d : Row} (h : decideStatus timing now d = some .offline) :
    ∃ n, d.lastSeenAt = some n ∧ n + timing.offlineAfter ≤ now := by
  unfold decideStatus at h
  split at h
  next seen hseen =>
    split at h
    next hold =>
      refine ⟨seen, hseen, ?_⟩
      have hpos := timing.connectionLostAfter_lt
      omega
    · split at h <;> cases h
  · cases h

theorem SweepHeard.of_heardBy {sweep : Sweep} (hs : SweepHeard timing w sweep)
    (hnow : w.1.now ≤ w'.1.now) (hkept : ∀ id n, sweep.target = some id → w.HeardBy id n →
      w'.HeardBy id n) :
    SweepHeard timing w' sweep := by
  have hdec : ∀ {id : UUID}, sweep.target = some id →
      (∃ n, n + timing.offlineAfter ≤ w.1.now ∧ w.HeardBy id n) →
      ∃ n, n + timing.offlineAfter ≤ w'.1.now ∧ w'.HeardBy id n := fun hid ⟨n, hle, hn⟩ ↦
    ⟨n, Nat.le_trans hle hnow, hkept _ n hid hn⟩
  cases sweep with
  | read _ _ _ id => exact fun n hn ↦ hkept id n rfl (hs n hn)
  | marking _ _ _ _ status =>
    cases status with
    | offline => exact hdec rfl hs
    | _ => trivial
  | closing => exact hdec rfl hs
  | _ => trivial

/-- **What the sweeper has read stays true** while nothing is heard of its device. -/
theorem SweepHeard.step (hw : HeardInv w) (hs : SweepHeard cfg.timing w w.1.sweep)
    (h : timedStep cfg w l = some w') (hl : Undisturbed w.1 l) :
    SweepHeard cfg.timing w' w'.1.sweep := by
  obtain ⟨t, hstep, rfl⟩ := withHistory_eq_some_iff.1 h
  have hkept : ∀ id n, w.1.sweep.target = some id → w.HeardBy id n →
      Timed.HeardBy (t, w.2.record w.1 l t) id n :=
    fun id n hid ↦ hw.heardBy_of_step h hl hid
  have hsame : SweepHeard cfg.timing (t, w.2.record w.1 l t) w.1.sweep :=
    hs.of_heardBy (now_le_of_step hstep) hkept
  by_cases hsweeps : l.sweeps = false
  · rw [(sweep_of_step hstep hsweeps).1]
    exact hsame
  cases step_cases hstep with
  | @sweepRead _ _ id _ d hswp hd =>
    -- the connection in the map has written the row that is read
    intro n hn c hc
    refine hw.seen id c d n hc ((hw.mapped id c hc).written ?_) hd hn
    exact hl.2.1 rfl id (by rw [hswp]; rfl) c hc
  | sweepDecide hswp hdec =>
    rw [hswp] at hsame
    rename_i status
    cases status with
    | offline =>
      obtain ⟨n, hn, hle⟩ := decideStatus_offline hdec
      exact ⟨n, hle, hsame n hn⟩
    | _ => trivial
  | sweepMark hswp =>
    rw [hswp] at hsame
    show SweepHeard _ _ (if _ then _ else _)
    split
    next hoffline =>
      subst hoffline
      exact hsame
    · trivial
  | sweepStart | sweepSkip | sweepPass | sweepClose | sweepGone | sweepEnd | restart => trivial
  | _ => exact absurd rfl hsweeps

theorem Timed.HeardBy.stale (hw : w.HeardBy id n) (hn : n + timing.offlineAfter ≤ w.1.now)
    (hc : w.1.conns.lookup id = some c) : w.Stale timing c := by
  obtain ⟨⟨registered, hreg, hle⟩, hheard⟩ := hw c hc
  refine ⟨⟨registered, hreg, by omega⟩, fun heard hmem ↦ ?_⟩
  have := hheard heard hmem
  omega

theorem closes?_eq_some (h : s.closes? l = some c) :
    ∃ start closed todo id, s.sweep = .closing start closed todo id ∧
      s.conns.lookup id = some c := by
  unfold closes? at h
  split at h
  · split at h
    next start closed todo id hswp => exact ⟨start, closed, todo, id, hswp, h⟩
    · cases h
  · cases h

/-- **The sweeper only closes connections that have been registered, and not heard of, for
`offlineAfter`**, in every run in which nothing is heard of the device it has in hand and no
connectivity write fails. -/
theorem closesStale_of_undisturbed (cfg : Config) (ls : List Label)
    (hgrd : Along (timedStep cfg) (fun w l _ ↦ Undisturbed w.1 l) (.init, .init) ls) :
    Along (timedStep cfg) (ClosesStale cfg.timing) (.init, .init) ls := by
  refine along_of_invariant (I := fun w ↦ HeardInv w ∧ SweepHeard cfg.timing w w.1.sweep) ?_ ?_
    ⟨heardInv_init, trivial⟩ hgrd
  · rintro w l w' ⟨hw, hs⟩ hstep hl
    exact ⟨hw.step hstep hl, hs.step hw hstep hl⟩
  · rintro w l w' ⟨hw, hs⟩ hstep hl c hc
    obtain ⟨_, _, _, _, hswp, hentry⟩ := closes?_eq_some hc
    rw [hswp] at hs
    obtain ⟨n, hn, hheard⟩ := hs
    exact hheard.stale hn hentry

namespace Sample

/-- A connection is heard of at 100 and closed at 300. -/
def silence : List Label :=
  enroll :: connect 0 ++ ([.tick 100, .heartbeat 0 true, .tick 200, .sweepStart [device]] : List
    Label) ++ report ++ ([.sweepEnd] : List Label)

/-- The sweeper reads the row, the agent connects again, the sweeper closes the connection. -/
def reconnect : List Label :=
  enroll :: connect 0 ++ ([.tick 200, .sweepStart [device], .sweepRead] : List Label) ++
    connect 1 ++ ([.sweepDecide, .sweepMark, .sweepClose] : List Label)

/-- The agent is back, and the sweeper reads the row before its first connectivity write. -/
def unwritten : List Label :=
  enroll :: connect 0 ++ teardown 0 ++ ([.tick 200] : List Label) ++ (connect 1).dropLast ++
    ([.sweepStart [device]] : List Label) ++ report

/-- The address of the agent cannot be stored, so that its heartbeat leaves no trace. -/
def unstored : List Label :=
  enroll :: connect 0 ++ ([.tick 200, .heartbeat 0 false, .sweepStart [device]] : List Label) ++
    report

end Sample

open Sample

theorem closesStale_of_undisturbed_silence :
    ((exec (timedStep config) (.init, .init) silence).map fun w ↦ w.1.swept) = some
    (some ⟨300, [0]⟩) ∧
      Along (timedStep config) (ClosesStale config.timing) (.init, .init) silence :=
  ⟨by decide +kernel, closesStale_of_undisturbed config silence (by decide +kernel)⟩

/-- A connection registered or heard of just now is closed in all three cases. -/
theorem not_closesStale_of_reconnect :
    ¬ Along (timedStep config) (ClosesStale config.timing) (.init, .init) reconnect ∧
      ¬ Along (timedStep config) (ClosesStale config.timing) (.init, .init) unwritten ∧
      ¬ Along (timedStep config) (ClosesStale config.timing) (.init, .init) unstored := by
  decide +kernel

end WartungsRemote.ControlHub
