import WartungsRemote.ControlHub.Steps
import WartungsRemote.Transition.History

/-!
# Deleting a device that has connected

`Repo.Delete` removes only rows without a `last_seen_at`, so that no device is deleted that has ever
connected. The column is written by the first connectivity write, though, which comes **after the
handshake and after the registration** of the connection. Until then, a device that has
authenticated itself, and whose control connection is in the map, is deleted like one that was never
seen. This is the only way (`keptAfterHandshake_iff`).
-/

namespace WartungsRemote.ControlHub

open Device Transition Function Option State

/-! ### What is known of a device -/

/-- The devices that completed a handshake, and those with a connectivity write. -/
structure Contact where
  handshaken : UUID → Bool
  written : UUID → Bool

namespace Contact

def init : Contact where
  handshaken _ := false
  written _ := false

/-- The device that completes its handshake in a step. -/
def shakes (s : State) : Label → Option UUID
  | .admitConn c _ => (s.phase c).bound
  | _ => none

/-- The device of which a connectivity write is made in a step. -/
def writes (s : State) : Label → Option UUID
  | .connect c true | .heartbeat c true => (s.phase c).bound
  | _ => none

/-- What is remembered of a step. -/
def record (h : Contact) (s : State) (l : Label) (_ : State) : Contact where
  handshaken id := h.handshaken id || decide (shakes s l = some id)
  written id := h.written id || decide (writes s l = some id)

end Contact

/-- The hub, and its contacts. -/
abbrev Contacted : Type := State × Contact

/-- A step of the hub, remembered. -/
abbrev contactStep (cfg : Config) : Contacted → Label → Option Contacted :=
  withHistory (step cfg) Contact.record

/-- **Only a device that never connected is deleted**: when its row is removed, it has completed no
handshake, and no connection of it is registered. -/
def KeptAfterHandshake (id : UUID) (w : Contacted) (_ : Label) (w' : Contacted) : Prop :=
  (w.1.repo.devices id).isSome → w'.1.repo.devices id = none →
    w.2.handshaken id = false ∧ w.1.conns.lookup id = none
  deriving Decidable

/-- The condition on a step: a `Delete` that finds the row of a device with a completed handshake
comes after a connectivity write of the device. -/
def AwaitsWrite (id : UUID) (w : Contacted) (l : Label) : Prop :=
  l = .delete id → (w.1.repo.devices id).isSome → w.2.handshaken id = true → w.2.written id = true
  deriving Decidable

variable {cfg : Config} {s t : State} {l : Label} {w w' : Contacted} {c : ConnID} {id : UUID}

/-! ### Rows -/

theorem kept_of_updateRow {r : Repo} {id' : UUID} {f : Row → Row}
    (hf : ∀ d, (f d).lastSeenAt = d.lastSeenAt) {d' : Row}
    (h : (r.updateRow id' f).devices id = some d') :
    ∃ d, r.devices id = some d ∧ d'.lastSeenAt = d.lastSeenAt := by
  obtain ⟨d, hd, rfl⟩ := (r.updateRow_eq_some_iff id').1 h
  refine ⟨d, hd, ?_⟩
  split
  · exact hf d
  · rfl

/-- A row goes away only by a `Delete` that finds no `last_seen_at` in it. -/
theorem removed_of_step (h : step cfg s l = some t) (hs : (s.repo.devices id).isSome)
    (ht : t.repo.devices id = none) :
    l = .delete id ∧ ∃ d, s.repo.devices id = some d ∧ d.lastSeenAt = none := by
  have hgone : ¬ (t.repo.devices id).isSome := by simp [ht]
  cases step_cases h with
  | @enroll id' =>
    refine absurd ?_ hgone
    by_cases hid : id = id'
    · subst hid
      simp [Repo.insert]
    · simpa [Repo.insert, update_of_ne hid] using hs
  | delete id' =>
    obtain ⟨d, hd⟩ := isSome_iff_exists.1 hs
    by_cases hid : id = id'
    · subst hid
      refine ⟨rfl, d, hd, ?_⟩
      by_contra hseen
      rw [Repo.delete_devices_self hd, if_neg (by simpa using hseen)] at ht
      cases ht
    · refine absurd ?_ hgone
      show ((s.repo.delete id').devices id).isSome
      rwa [s.repo.delete_devices_of_ne id' hid]
  | revoke | connect | heartbeat | inventory | markLost | sweepMark =>
    exact absurd (Repo.isSome_updateRow _ hs) hgone
  | admitConn => exact absurd (Repo.isSome_updateRow _ (Repo.isSome_updateRow _ hs)) hgone
  | _ => exact absurd hs hgone

theorem Contact.exists_of_writes (hl : writes s l = some id) :
    ∃ c, (l = .connect c true ∨ l = .heartbeat c true) ∧ (s.phase c).bound = some id := by
  unfold writes at hl
  split at hl
  next c => exact ⟨c, .inl rfl, hl⟩
  next c => exact ⟨c, .inr rfl, hl⟩
  · cases hl

theorem kept_of_not_writes (h : step cfg s l = some t) (hl : Contact.writes s l ≠ some id)
    {d' : Row} (hd : t.repo.devices id = some d') :
    (∃ d, s.repo.devices id = some d ∧ d'.lastSeenAt = d.lastSeenAt) ∨
      id ∉ s.issued ∧ d'.lastSeenAt = none := by
  by_cases honl : ∃ c lands, l = .connect c lands ∨ l = .heartbeat c lands
  · -- the write is of another device, or it is not made
    obtain ⟨c, lands, honl⟩ := honl
    obtain ⟨conn, hconn, hrepo⟩ := writeOnline_of_step h honl
    rw [hrepo] at hd
    obtain ⟨d, hrow, rfl⟩ := (s.repo.updateRow_eq_some_iff _).1 hd
    refine .inl ⟨d, hrow, ?_⟩
    by_cases hid : id = conn.deviceID
    · rw [if_pos hid]
      cases lands with
      | true =>
        subst hid
        rcases honl with rfl | rfl <;> exact absurd hconn hl
      | false => rfl
    · rw [if_neg hid]
  cases step_cases h with
  | @enroll id' _ _ _ _ hnew =>
    by_cases hid : id = id'
    · subst hid
      simp only [Repo.insert, update_self, some.injEq] at hd
      exact .inr ⟨hnew, hd ▸ rfl⟩
    · simp only [Repo.insert, update_of_ne hid] at hd
      exact .inl ⟨d', hd, rfl⟩
  | delete id' => exact .inl ⟨d', s.repo.delete_devices_eq_some id' hd, rfl⟩
  | revoke | markLost | sweepMark => exact .inl (kept_of_updateRow (by intro; rfl) hd)
  | inventory => exact .inl (kept_of_updateRow (by intro; split <;> rfl) hd)
  | admitConn =>
    obtain ⟨d, hd, hseen⟩ := kept_of_updateRow (by intro; rfl) hd
    obtain ⟨d₀, hd₀, hseen₀⟩ := kept_of_updateRow (by intro; split <;> rfl) hd
    exact .inl ⟨d₀, hd₀, hseen.trans hseen₀⟩
  | connect => exact absurd ⟨_, _, .inl rfl⟩ honl
  | heartbeat => exact absurd ⟨_, _, .inr rfl⟩ honl
  | _ => exact .inl ⟨d', hd, rfl⟩

/-! ### The handshakes -/

/-- The run has completed a handshake for the device and may be in the map. -/
def Phase.Shaken (id : UUID) : Phase → Prop
  | .admitted conn | .registered conn | .serving conn | .ended conn => conn.deviceID = id
  | _ => False

theorem Phase.Mapped.shaken {p : Phase} (h : p.Mapped id) : p.Shaken id := by
  cases p with
  | registered | serving | ended => exact h
  | _ => exact h.elim

/-- A run has completed its handshake before, or does so now. -/
theorem shaken_of_step (h : step cfg s l = some t) (hc : (t.phase c).Shaken id) :
    (s.phase c).Shaken id ∨ Contact.shakes s l = some id := by
  cases step_cases h with
  | @admitConn c' _ ip hello _ hph =>
    by_cases hcc : c = c'
    · subst hcc
      have hadmitted : ((s.setPhase c (.admitted
        { deviceID := hello.deviceID, installID := hello.installID, remoteIP := ip })).phase
          c).Shaken id := hc
      rw [setPhase_phase_self] at hadmitted
      refine .inr ?_
      rw [Contact.shakes, hph]
      exact congrArg some hadmitted
    · exact .inl (by rwa [← setPhase_phase_of_ne (s := s) (c := c') hcc])
  | register hph | connect hph | endRead hph =>
    refine .inl (of_setPhase (P := Phase.Shaken id) (fun hshk ↦ ?_) hc)
    rw [hph]
    exact hshk
  | accept | identify | refuse | verify | reject | unmap | markLost | notify =>
    exact .inl (of_setPhase (P := Phase.Shaken id) (by rintro ⟨⟩) hc)
  | restart =>
    have hkilled : (killedPhase (s.phase c)).Shaken id := hc
    revert hkilled
    cases s.phase c <;> rintro ⟨⟩
  | _ => exact .inl hc

/-! ### The equivalence -/

/-- What the history says is in the tables, and the runs in the map have completed a handshake. -/
structure ContactInv (w : Contacted) : Prop where
  mapped : ∀ id c, w.1.conns.lookup id = some c → (w.1.phase c).Mapped id
  shaken : ∀ c id, (w.1.phase c).Shaken id → w.2.handshaken id = true
  enrolled : Enrolled w.1
  written : ∀ id, w.2.written id = true → id ∈ w.1.issued
  seen : ∀ id d, w.1.repo.devices id = some d → (d.lastSeenAt.isSome ↔ w.2.written id = true)

theorem contactInv_init : ContactInv (.init, .init) where
  mapped := nofun
  shaken := nofun
  enrolled := enrolled_init
  written := nofun
  seen := nofun

namespace ContactInv

theorem step (hw : ContactInv w) (h : contactStep cfg w l = some w') : ContactInv w' := by
  obtain ⟨t, hstep, rfl⟩ := withHistory_eq_some_iff.1 h
  refine ⟨mapped_of_step hstep hw.mapped, ?_, hw.enrolled.step hstep, ?_, ?_⟩
  · intro c id hc
    show (w.2.handshaken id || decide (Contact.shakes w.1 l = some id)) = true
    rw [Bool.or_eq_true, decide_eq_true_iff]
    exact (shaken_of_step hstep hc).imp (hw.shaken c id) fun hid ↦ hid
  · intro id hid
    change (w.2.written id || decide (Contact.writes w.1 l = some id)) = true at hid
    rw [Bool.or_eq_true, decide_eq_true_iff] at hid
    rcases hid with hold | hwr
    · exact issued_of_step hstep (hw.written id hold)
    · obtain ⟨c, -, hb⟩ := Contact.exists_of_writes hwr
      exact issued_of_step hstep (hw.enrolled.bound c id hb)
  · intro id d hd
    show d.lastSeenAt.isSome ↔ (w.2.written id || decide (Contact.writes w.1 l = some id)) = true
    rw [Bool.or_eq_true, decide_eq_true_iff]
    by_cases hwr : Contact.writes w.1 l = some id
    · obtain ⟨c, hl, hb⟩ := Contact.exists_of_writes hwr
      simp [hwr, seen_of_write hstep hl hb hd]
    · simp only [hwr, or_false]
      obtain ⟨d₀, hd₀, hseen⟩ | ⟨hnew, hseen⟩ := kept_of_not_writes hstep hwr hd
      · rw [hseen]
        exact hw.seen id d₀ hd₀
      · -- of a device enrolled just now nothing was written before
        have hnot : ¬ w.2.written id = true := fun hold ↦ hnew (hw.written id hold)
        simp [hseen, hnot]

/-- A `Delete` removes the row of a device of which no connectivity write was made. -/
theorem delete_iff (hw : ContactInv w) (h : ControlHub.step cfg w.1 (.delete id) = some t)
    (hrow : (w.1.repo.devices id).isSome) : t.repo.devices id = none ↔ w.2.written id = false := by
  obtain ⟨d, hd⟩ := isSome_iff_exists.1 hrow
  cases h
  show (w.1.repo.delete id).devices id = none ↔ _
  rw [Repo.delete_devices_self hd, ← Bool.not_eq_true, ← hw.seen id d hd]
  cases d.lastSeenAt <;> simp

theorem kept_iff (hw : ContactInv w) (h : contactStep cfg w l = some w') :
    KeptAfterHandshake id w l w' ↔ AwaitsWrite id w l := by
  obtain ⟨t, hstep, rfl⟩ := withHistory_eq_some_iff.1 h
  constructor
  · rintro hkept rfl hrow hshk
    by_contra hwr
    have hgone := (hw.delete_iff hstep hrow).2 (by simpa using hwr)
    rw [(hkept hrow hgone).1] at hshk
    cases hshk
  · intro hawaits hrow hgone
    obtain ⟨rfl, -⟩ := removed_of_step hstep hrow hgone
    have hwr := (hw.delete_iff hstep hrow).1 hgone
    have hshk : w.2.handshaken id = false := by
      by_contra hshk
      rw [hawaits rfl hrow (by simpa using hshk)] at hwr
      cases hwr
    refine ⟨hshk, eq_none_iff_forall_ne_some.2 fun c hc ↦ ?_⟩
    rw [hw.shaken c id (hw.mapped id c hc).shaken] at hshk
    cases hshk

end ContactInv

/-- **A device that has completed a handshake is not deleted, exactly if every `Delete` that finds
its row comes after a connectivity write of the device.** -/
theorem keptAfterHandshake_iff (cfg : Config) (id : UUID) (ls : List Label) :
    Along (contactStep cfg) (KeptAfterHandshake id) (.init, .init) ls ↔
      Along (contactStep cfg) (fun w l _ ↦ AwaitsWrite id w l) (.init, .init) ls :=
  along_congr_of_invariant (fun _ _ _ hw h ↦ hw.step h) (fun _ _ _ hw h ↦
    hw.kept_iff h) contactInv_init

/-- The device authenticates itself, its connection is registered, and it is deleted. -/
theorem not_keptAfterHandshake :
    ¬ Along (contactStep Sample.config) (KeptAfterHandshake Sample.device) (.init, .init)
      (Sample.enroll :: (Sample.connect 0).dropLast ++ ([.delete Sample.device] : List Label)) := by
  decide +kernel

end WartungsRemote.ControlHub
