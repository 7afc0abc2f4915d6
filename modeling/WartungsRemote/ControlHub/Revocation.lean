import WartungsRemote.ControlHub.Steps

/-!
# Revocation

`handleRevokeDevice` commits `Repo.Revoke` and returns. It does not speak to the hub, and every
status write of the hub is an unconditional `UPDATE`: a live connection's next heartbeat stores
`online` again, a handshake that has already verified its signature goes on to register, and a
teardown or a sweep in progress stores what it was about to store.

What revocation does achieve is that nobody **starts** acting for the device: a signature is checked
against a usable credential, and after `Revoke` there is none. `Retired` collects what holds from
then on when nobody was acting for the device at that moment (`Quiescent`).
-/

namespace WartungsRemote.ControlHub

open Device Transition Sample

variable {cfg : Config} {s t : State} {l : Label} {id : UUID}

/-- The device is stored as `revoked`, if it is stored at all, and has no connection in the map. -/
def RevokedFor (s : State) (id : UUID) : Prop :=
  (∀ d, s.repo.devices id = some d → d.status = .revoked) ∧ id ∉ s.conns

/-- Nothing in the hub acts for the device: no connection in the map, no `ServeAgentWS` run between
signature check and last status write, no visit of the sweeper outstanding. -/
structure Quiescent (s : State) (id : UUID) : Prop where
  unmapped : id ∉ s.conns
  unbound : ∀ c, (s.phase c).bound ≠ some id
  unswept : id ∉ s.sweep.pending

/-- The condition on a step: a device is revoked only when nothing in the hub acts for it. -/
def RevokesQuiescent (s : State) : Label → Prop
  | .revoke id => Quiescent s id
  | _ => True

/-- **The invariant of a revoked device.** -/
structure Retired (s : State) (id : UUID) : Prop where
  issued : id ∈ s.issued
  unusable : s.repo.Unusable id
  revoked : ∀ d, s.repo.devices id = some d → d.status = .revoked
  quiescent : Quiescent s id

theorem Retired.revokedFor (h : Retired s id) : RevokedFor s id :=
  ⟨h.revoked, h.quiescent.unmapped⟩

theorem retired_of_revoke (h : step cfg s (.revoke id) = some t) (hq : Quiescent s id) :
    Retired t id := by
  simp only [step] at h
  split at h
  next hiss =>
    cases h
    refine ⟨hiss, s.repo.unusable_revoke s.now id, fun d hd ↦ ?_, ?_⟩
    · obtain ⟨_, -, rfl⟩ := (s.repo.updateRow_eq_some_iff id).1 hd
      rw [if_pos rfl]
    · exact { hq with }
  · cases h

/-- Nothing begins to act for a retired device. -/
theorem Retired.quiescent_of_step (hr : Retired s id) (h : step cfg s l = some t) :
    Quiescent t id := by
  refine ⟨fun hmem ↦ ?_, fun c hb ↦ ?_, fun hmem ↦ ?_⟩
  · obtain ⟨c, hc⟩ := Option.isSome_iff_exists.1 (AList.lookup_isSome.2 hmem)
    obtain hold | ⟨-, _, hph, rfl⟩ := lookup_of_step h hc
    · exact hr.quiescent.unmapped (AList.lookup_isSome.1 (by rw [hold]; rfl))
    · exact hr.quiescent.unbound c (by rw [hph]; rfl)
  · obtain hold | hkey := bound_of_step h hb
    · exact hr.quiescent.unbound c hold
    · rw [hr.unusable.activeCredentialPublicKey_eq_none] at hkey
      cases hkey
  · obtain hold | hmap := pending_of_step h hmem
    · exact hr.quiescent.unswept hold
    · exact hr.quiescent.unmapped hmap

/-- **A retired device stays retired**, whatever the hub does. -/
theorem Retired.step (hr : Retired s id) (h : step cfg s l = some t) : Retired t id := by
  refine ⟨issued_of_step h hr.issued, unusable_of_step h hr.issued hr.unusable, fun d' hd' ↦ ?_,
    hr.quiescent_of_step h⟩
  cases rowChange_of_step h hd' with
  | kept hd _ hstat => exact hstat.trans (hr.revoked _ hd)
  | revoked _ _ _ hstat => exact hstat
  | enrolled _ hnew => exact absurd hr.issued hnew
  | @online _ c _ _ hph hdev =>
    refine absurd ?_ (hr.quiescent.unbound c)
    obtain hph | hph := hph <;> simp [hph, Phase.bound, hdev]
  | @torn _ c _ _ _ _ hph hdev =>
    refine absurd ?_ (hr.quiescent.unbound c)
    simp [hph, Phase.bound, hdev]
  | swept _ _ _ hswp =>
    refine absurd ?_ hr.quiescent.unswept
    simp [hswp, Sweep.pending]

/-- **Revocation is final in every run that revokes only quiescent devices**: the device stays
stored as `revoked`, and no connection of it is in the map. -/
theorem revokedFor_of_revoke (cfg : Config) (pre post : List Label) (id : UUID)
    (hrun : exec (step cfg) State.init (pre ++ .revoke id :: post) = some s)
    (hq : Along (step cfg) (fun s l _ ↦ RevokesQuiescent s l) State.init
      (pre ++ .revoke id :: post)) : RevokedFor s id := by
  obtain ⟨u, hu, hpost⟩ := (exec_append_eq_some_iff (step cfg)).1 hrun
  obtain ⟨v, hv, hrest⟩ := (exec_cons_eq_some_iff (step cfg)).1 hpost
  have hqui : Quiescent u id := (((along_append hu).1 hq).2 v hv).1
  have hretired : Retired s id :=
    invariant_of_exec (I := fun s ↦ Retired s id) (fun _ _ _ hr h ↦ hr.step h)
      (retired_of_revoke hv hqui) hrest
  exact hretired.revokedFor

/-- A device revoked after its connection is gone is turned away when it comes back. -/
theorem revokedFor_of_revoke_disconnected : ∃ s, exec (step config) State.init
        ((enroll :: connect 0 ++ teardown 0) ++ .revoke device ::
          [.accept 1 [3] "10.0.0.7", .hello 1 (some Sample.hello)]) = some s ∧
      s.phase 1 = .finished ∧ RevokedFor s device := by
  refine ⟨_, rfl, rfl, revokedFor_of_revoke config
    (enroll :: connect 0 ++ teardown 0)
    [.accept 1 [3] "10.0.0.7", .hello 1 (some hello)] device rfl ?_⟩
  iterate 11 refine .cons rfl trivial ?_
  refine .cons rfl ⟨by decide, ?_, by decide⟩ ?_
  · rintro (_ | c)
    · decide
    · exact (Option.some_ne_none device).symm
  · iterate 2 refine .cons rfl trivial ?_
    exact trivial

/-- The next heartbeat of a live connection undoes the revocation. -/
theorem not_revokedFor_after_heartbeat : ¬ ∀ (cfg : Config) (pre post : List Label) (id : UUID)
    (s : State),
      exec (step cfg) State.init (pre ++ .revoke id :: post) = some s → RevokedFor s id := by
  intro h
  have hrev := h config (enroll :: connect 0) [.heartbeat 0 true] device _ rfl
  exact absurd (hrev.1 _ rfl) (by decide)

end WartungsRemote.ControlHub
