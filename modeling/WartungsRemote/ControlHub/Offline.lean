import WartungsRemote.ControlHub.Steps

/-!
# Offline detection

A device unseen for `offlineAfter` is meant to be stored as `offline` by the sweeper, and the alert
rule for offline devices reads nothing but that column. Two paths break the promise:

* the sweeper visits only ids in the connection map, and every ordinary disconnect takes the id out
  of the map before the device is stale (as does a restart, for all devices at once);
* a teardown writes `connection_lost` whatever is stored, so the connection that the sweeper itself
  closes overwrites the `offline` it has just written.

`Reported` is the promise about one moment: every stale row up to an instant is `offline` or
`revoked`, apart from a list of ids still to be visited. `SweepInv` says what the sweeper's position
guarantees of it, and is preserved by every step that takes neither of the two paths (`Attended`).
-/

namespace WartungsRemote.ControlHub

open Device Transition Option State Sample

variable {cfg : Config} {s t : State} {l : Label}

/-- At time `now` the device has not been seen for `offlineAfter`. -/
def StaleAt (timing : Timing) (now : ℕ) (d : Row) : Prop :=
  ∃ seen, d.lastSeenAt = some seen ∧ seen + timing.offlineAfter ≤ now

/-- The stored status already tells that the device is out of reach. -/
def Settled (d : Row) : Prop :=
  d.status = .offline ∨ d.status = .revoked
  deriving Decidable

/-- The condition on a step, in the state it starts from: a sweep begins only when every stale
device it would have to report is in the map, and a teardown does not overwrite the settled status
of a stale device. -/
def Attended (timing : Timing) (s : State) : Label → Prop
  | .sweepStart _ => ∀ id d, s.repo.devices id = some d → StaleAt timing s.now d →
      Settled d ∨ id ∈ s.conns
  | .markLost c => ∀ conn d, s.phase c = .unmapped conn → s.repo.devices conn.deviceID = some d →
      StaleAt timing s.now d → ¬ Settled d
  | _ => True

/-! ### Staleness -/

variable {d : Row} {now start : ℕ} {timing : Timing}

theorem StaleAt.mono {now' : ℕ} (h : StaleAt timing now d) (hle : now ≤ now') :
    StaleAt timing now' d := by
  obtain ⟨seen, hseen, hold⟩ := h
  exact ⟨seen, hseen, Nat.le_trans hold hle⟩

theorem StaleAt.congr {d' : Row} (h : StaleAt timing now d')
    (hseen : d'.lastSeenAt = d.lastSeenAt) :
    StaleAt timing now d := by
  obtain ⟨seen, hsome, hold⟩ := h
  exact ⟨seen, hseen ▸ hsome, hold⟩

theorem not_staleAt_of_seen
    (hseen : d.lastSeenAt = some now) (hle : start ≤ now) : ¬ StaleAt timing start d := by
  rintro ⟨seen, hsome, hold⟩
  obtain rfl : now = seen := by simpa [hseen] using hsome
  have := timing.connectionLostAfter_lt
  omega

theorem not_staleAt_of_unseen (hseen : d.lastSeenAt = none) : ¬ StaleAt timing start d := by
  rintro ⟨_, hsome, -⟩
  simp [hseen] at hsome

/-- On a row that was stale when the sweep began the `switch` reports `offline` or finds it already
reported. -/
theorem decideStatus_of_staleAt
    (h : StaleAt timing start d) (hle : start ≤ now) :
    decideStatus timing now d = if d.status = .offline then none else some .offline := by
  obtain ⟨seen, hseen, hold⟩ := h
  have helapsed : timing.offlineAfter ≤ now - seen := by omega
  by_cases hoff : d.status = .offline <;> simp [decideStatus, hseen, helapsed, hoff]

/-! ### The promise and its invariant -/

/-- Every row stale at `start` is settled, apart from those in `todo`. -/
def Reported (timing : Timing) (s : State) (start : ℕ) (todo : List UUID) : Prop :=
  ∀ id d, s.repo.devices id = some d → StaleAt timing start d → Settled d ∨ id ∈ todo

/-- What the row the sweeper has read still tells about the stored one. -/
def ReadMatches (timing : Timing) (s : State) (start : ℕ) (id : UUID) (d₀ : Row) : Prop :=
  ∀ d, s.repo.devices id = some d → StaleAt timing start d →
    d₀.lastSeenAt = d.lastSeenAt ∧ (d₀.status = .offline → Settled d)

/-- What the status the sweeper has decided for still tells about the stored row. -/
def DecisionFits (timing : Timing) (s : State) (start : ℕ) (id : UUID) (status : Status) : Prop :=
  status = .offline ∨ ∀ d, s.repo.devices id = some d → ¬ StaleAt timing start d

/-- What the sweeper's position guarantees about the rows it has dealt with. -/
def SweepInv (timing : Timing) (s : State) : Sweep → Prop
  | .idle => True
  | .visiting start _ todo => Reported timing s start todo
  | .read start _ todo id d₀ =>
    Reported timing s start (id :: todo) ∧ ReadMatches timing s start id d₀
  | .marking start _ todo id status =>
    Reported timing s start (id :: todo) ∧ DecisionFits timing s start id status
  | .closing start _ todo _ => Reported timing s start todo

/-- When the sweep in progress began. -/
def Sweep.start? : Sweep → Option ℕ
  | .idle => none
  | .visiting start _ _ | .read start _ _ _ _ | .marking start _ _ _ _ | .closing start _ _ _ =>
    some start

/-- **The invariant of attended runs.** -/
structure OfflineInv (timing : Timing) (s : State) : Prop where
  /-- Sweeps began in the past, the completed one before the one in progress. -/
  swept_le : ∀ rec, s.swept = some rec → rec.start ≤ s.now
  start_le : ∀ start, s.sweep.start? = some start → start ≤ s.now
  swept_le_start : ∀ rec start, s.swept = some rec → s.sweep.start? = some start → rec.start ≤ start
  /-- The completed sweep left nothing unreported. -/
  swept_reported : ∀ rec, s.swept = some rec → Reported timing s rec.start []
  /-- The sweep in progress keeps track of what is left. -/
  sweep_inv : SweepInv timing s s.sweep

theorem staleAt_of_step (h : step cfg s l = some t) (hle : start ≤ s.now) {id : UUID} {d' : Row}
    (hd' : t.repo.devices id = some d') (hstal : StaleAt cfg.timing start d') :
    ∃ d, s.repo.devices id = some d ∧ d'.lastSeenAt = d.lastSeenAt ∧
      StaleAt cfg.timing start d := by
  cases rowChange_of_step h hd' with
  | kept hd hseen | torn hd hseen | swept hd hseen | revoked hd hseen =>
    exact ⟨_, hd, hseen, hstal.congr hseen⟩
  | online _ _ _ hseen => exact absurd hstal (not_staleAt_of_seen hseen hle)
  | enrolled _ _ hseen => exact absurd hstal (not_staleAt_of_unseen hseen)

/-- A row that is stale afterwards was stale before, and has kept its settled status. -/
def Follows (timing : Timing) (s t : State) (start : ℕ) : Prop :=
  ∀ id d', t.repo.devices id = some d' → StaleAt timing start d' →
    ∃ d, s.repo.devices id = some d ∧ d'.lastSeenAt = d.lastSeenAt ∧ StaleAt timing start d ∧
      (Settled d → Settled d')

theorem Reported.mono {todo : List UUID} (h : Reported timing s start todo)
    (hf : Follows timing s t start) :
    Reported timing t start todo := by
  intro id d' hd' hstal
  obtain ⟨d, hd, -, hold, hkept⟩ := hf id d' hd' hstal
  exact (h id d hd hold).imp_left hkept

theorem SweepInv.mono {pos : Sweep} (h : SweepInv timing s pos)
    (hf : ∀ start, pos.start? = some start → Follows timing s t start) : SweepInv timing t pos := by
  cases pos with
  | idle => trivial
  | visiting | closing => exact Reported.mono h (hf _ rfl)
  | read _ _ _ id =>
    refine ⟨h.1.mono (hf _ rfl), fun d' hd' hstal ↦ ?_⟩
    obtain ⟨d, hd, hseen, hold, hkept⟩ := hf _ rfl id d' hd' hstal
    obtain ⟨hsame, hoff⟩ := h.2 d hd hold
    exact ⟨hsame.trans hseen.symm, fun h₀ ↦ hkept (hoff h₀)⟩
  | marking _ _ _ id =>
    refine ⟨h.1.mono (hf _ rfl), h.2.imp_right fun hnew d' hd' hstal ↦ ?_⟩
    obtain ⟨d, hd, -, hold, -⟩ := hf _ rfl id d' hd' hstal
    exact hnew d hd hold

/-- **No attended step unsettles a stale device**, except a sweeper decision that fits. -/
theorem follows_of_step (h : step cfg s l = some t) (hatt : Attended cfg.timing s l)
    (hle : start ≤ s.now) (hfits : ∀ start' closed todo id status, l = .sweepMark →
      s.sweep = .marking start' closed todo id status → DecisionFits cfg.timing s start id status) :
    Follows cfg.timing s t start := by
  intro id d' hd' hstal
  obtain ⟨d, hd, hseen, hold⟩ := staleAt_of_step h hle hd' hstal
  refine ⟨d, hd, hseen, hold, fun hsett ↦ ?_⟩
  cases rowChange_of_step h hd' with
  | kept hd₀ _ hstat =>
    cases hd.symm.trans hd₀
    rwa [Settled, hstat]
  | online _ _ _ hseen' => exact absurd hstal (not_staleAt_of_seen hseen' hle)
  | enrolled _ _ hseen' => exact absurd hstal (not_staleAt_of_unseen hseen')
  | revoked _ _ _ hstat => exact .inr hstat
  | torn _ _ hl hph hdev =>
    subst hl hdev
    exact absurd hsett (hatt _ d hph hd (hold.mono hle))
  | swept _ _ hl hswp =>
    obtain hoff | hnew := hfits _ _ _ id d'.status hl hswp
    · exact .inl hoff
    · exact absurd hold (hnew _ hd)

/-- The steps that move the sweeper. -/
def Label.sweeps : Label → Bool
  | .sweepStart _ | .sweepRead | .sweepDecide | .sweepMark | .sweepClose | .sweepEnd | .restart =>
    true
  | _ => false

theorem sweep_of_step (h : step cfg s l = some t) (hl : l.sweeps = false) :
    t.sweep = s.sweep ∧ t.swept = s.swept ∧ s.now ≤ t.now := by
  cases step_cases h with
  | sweepStart | sweepRead | sweepSkip | sweepDecide | sweepPass | sweepMark | sweepClose
  | sweepGone
  | sweepEnd | restart => cases hl
  | tick => exact ⟨rfl, rfl, Nat.le_add_right _ _⟩
  | _ => exact ⟨rfl, rfl, le_rfl⟩

/-- A step that completes no sweep: to be looked at are the promise of the completed sweep and the
position of the one in progress. -/
theorem OfflineInv.of_reported (hinv : OfflineInv timing s) (hnow : s.now ≤ t.now)
    (hswept : t.swept = s.swept) (hstart :
      ∀ start, t.sweep.start? = some start → s.sweep.start? = some start ∨ start = s.now)
    (hreported : ∀ rec, s.swept = some rec → Reported timing t rec.start [])
    (hswp : SweepInv timing t t.sweep) : OfflineInv timing t where
  swept_le rec hrec := Nat.le_trans (hinv.swept_le rec (hswept ▸ hrec)) hnow
  start_le start h := by
    obtain hold | rfl := hstart start h
    · exact Nat.le_trans (hinv.start_le start hold) hnow
    · exact hnow
  swept_le_start rec start hrec h := by
    obtain hold | rfl := hstart start h
    · exact hinv.swept_le_start rec start (hswept ▸ hrec) hold
    · exact hinv.swept_le rec (hswept ▸ hrec)
  swept_reported rec hrec := hreported rec (hswept ▸ hrec)
  sweep_inv := hswp

/-- An attended step of somebody other than the sweeper. -/
theorem OfflineInv.of_idle_sweeper (hinv : OfflineInv cfg.timing s) (h : step cfg s l = some t)
    (hatt : Attended cfg.timing s l) (hl : l.sweeps = false) : OfflineInv cfg.timing t := by
  obtain ⟨hswp, hswept, hnow⟩ := sweep_of_step h hl
  have hmark : l ≠ .sweepMark := by
    rintro rfl
    cases hl
  have hf : ∀ start ≤ s.now, Follows cfg.timing s t start := fun start hle ↦
    follows_of_step h hatt hle fun _ _ _ _ _ hl' ↦ absurd hl' hmark
  refine hinv.of_reported hnow hswept (fun start hstart ↦ .inl (hswp ▸ hstart)) (fun rec hrec ↦
    ?_) ?_
  · exact (hinv.swept_reported rec hrec).mono (hf _ (hinv.swept_le rec hrec))
  · rw [hswp]
    exact hinv.sweep_inv.mono fun start hstart ↦ hf start (hinv.start_le start hstart)

section

variable (hinv : OfflineInv cfg.timing s)
include hinv

/-- The sweeper moves on without touching the registry: only its new position needs proof. -/
theorem OfflineInv.of_reposition (hnow : t.now = s.now)
    (hrepo : t.repo = s.repo) (hswept : t.swept = s.swept)
    (hstart : ∀ start, t.sweep.start? = some start → s.sweep.start? = some start ∨ start = s.now)
    (hswp : SweepInv cfg.timing s t.sweep) : OfflineInv cfg.timing t := by
  have hf (start : ℕ) : Follows cfg.timing s t start := fun _ d hd hstal ↦
    ⟨d, hrepo ▸ hd, rfl, hstal, id⟩
  exact hinv.of_reported (Nat.le_of_eq hnow.symm) hswept hstart
    (fun rec hrec ↦ (hinv.swept_reported rec hrec).mono (hf _)) (hswp.mono fun start _ ↦ hf start)

theorem OfflineInv.at {pos : Sweep} (hpos : s.sweep = pos) :
    SweepInv cfg.timing s pos ∧ s.sweep.start? = pos.start? :=
  hpos ▸ ⟨hinv.sweep_inv, rfl⟩

omit hinv in
theorem Reported.drop {id : UUID} {todo : List UUID} (h : Reported timing s start (id :: todo))
    (hid : ∀ d, s.repo.devices id = some d → StaleAt timing start d → Settled d) :
    Reported timing s start todo := by
  intro id' d hd hstal
  obtain hsett | hmem := h id' d hd hstal
  · exact .inl hsett
  · obtain rfl | hmem := List.mem_cons.1 hmem
    · exact .inl (hid d hd hstal)
    · exact .inr hmem

/-- An attended sweep has every stale device on its list. -/
theorem OfflineInv.sweepStart {order : List UUID} (h : step cfg s (.sweepStart order) = some t)
    (hatt : Attended cfg.timing s (.sweepStart order)) : OfflineInv cfg.timing t := by
  cases step_cases h with
  | sweepStart _ hperm =>
    refine hinv.of_reposition rfl rfl rfl (fun start hstart ↦ .inr (some.inj hstart).symm) ?_
    intro id d hd hstal
    exact (hatt id d hd hstal).imp_right fun hid ↦ hperm.mem_iff.2 (AList.mem_keys.1 hid)

/-- The sweeper reads the next row, or skips the device. -/
theorem OfflineInv.sweepRead (h : s.sweepRead = some t) : OfflineInv cfg.timing t := by
  unfold State.sweepRead at h
  split at h
  next start closed id todo hpos =>
    obtain ⟨hsw, hstart⟩ := hinv.at hpos
    split at h
    next d hd =>
      split at h
      · cases h
        refine hinv.of_reposition rfl rfl rfl (fun _ h' ↦ .inl (hstart.trans h')) ⟨hsw, ?_⟩
        intro d' hd' _
        obtain rfl : d = d' := by simpa [hd] using hd'
        exact ⟨rfl, .inl⟩
      next hunseen =>
        cases h
        refine hinv.of_reposition rfl rfl rfl (fun _ h' ↦ .inl (hstart.trans h')) (hsw.drop ?_)
        intro d' hd' hstal
        obtain rfl : d = d' := by simpa [hd] using hd'
        exact absurd hstal (not_staleAt_of_unseen (by simpa using hunseen))
    next hnone =>
      cases h
      refine hinv.of_reposition rfl rfl rfl (fun _ h' ↦ .inl (hstart.trans h')) (hsw.drop ?_)
      intro d hd
      simp [hnone] at hd
  · cases h

/-- The sweeper decides on the row that it has read. -/
theorem OfflineInv.sweepDecide (h : s.sweepDecide cfg = some t) : OfflineInv cfg.timing t := by
  unfold State.sweepDecide at h
  split at h
  next start closed todo id d₀ hpos =>
    obtain ⟨⟨hrep, hread⟩, hstart⟩ := hinv.at hpos
    have hle : start ≤ s.now := hinv.start_le start hstart
    -- what the row that was read tells about a stale stored row
    have hdecide : ∀ d, s.repo.devices id = some d → StaleAt cfg.timing start d →
        decideStatus cfg.timing s.now d₀ = (if d₀.status = .offline then none else some .offline) :=
      fun d hd hstal ↦ decideStatus_of_staleAt (hstal.congr (hread d hd hstal).1.symm) hle
    split at h
    next status hstat =>
      cases h
      refine hinv.of_reposition rfl rfl rfl (fun _ h' ↦ .inl (hstart.trans h')) ⟨hrep, ?_⟩
      refine or_iff_not_imp_left.2 fun hne d hd hstal ↦ hne ?_
      have := hdecide d hd hstal
      rw [hstat] at this
      split_ifs at this
      · exact some.inj this
    next hnone =>
      cases h
      refine hinv.of_reposition rfl rfl rfl (fun _ h' ↦ .inl (hstart.trans h')) (hrep.drop ?_)
      intro d hd hstal
      have := hdecide d hd hstal
      rw [hnone] at this
      split at this
      next hoff => exact (hread d hd hstal).2 hoff
      · cases this
  · cases h

/-- The sweeper's write takes nothing back that this or an earlier sweep has reported. -/
theorem OfflineInv.follows_sweepMark (h : step cfg s .sweepMark = some t) {start' : ℕ}
    {closed : List ConnID} {todo : List UUID} {id : UUID} {status : Status}
    (hpos : s.sweep = .marking start closed todo id status) (hearl : start' ≤ start) :
    Follows cfg.timing s t start' := by
  obtain ⟨⟨-, hfits⟩, hstart⟩ := hinv.at hpos
  have hle : start' ≤ s.now := Nat.le_trans hearl (hinv.start_le start hstart)
  refine follows_of_step h trivial hle fun _ _ _ id₁ status₁ _ hpos₁ ↦ ?_
  obtain ⟨-, -, -, rfl, rfl⟩ := Sweep.marking.inj (hpos.symm.trans hpos₁)
  exact hfits.imp_right fun hnew d₁ hd₁ hstale₁ ↦ hnew d₁ hd₁ (hstale₁.mono hearl)

/-- The sweeper writes what it has decided. -/
theorem OfflineInv.sweepMark (h : step cfg s .sweepMark = some t) : OfflineInv cfg.timing t := by
  cases step_cases h with
  | @sweepMark start closed id todo status hpos =>
    obtain ⟨⟨hrep, hfits⟩, hstart⟩ := hinv.at hpos
    refine hinv.of_reported le_rfl rfl (fun start₁ h₁ ↦ .inl ?_) (fun rec hrec ↦ ?_) ?_
    · dsimp only at h₁
      split at h₁ <;> exact hstart.trans h₁
    · exact (hinv.swept_reported rec hrec).mono
        (hinv.follows_sweepMark h hpos (hinv.swept_le_start rec start hrec hstart))
    · suffices hdone : Reported cfg.timing _ start todo by
        dsimp only
        split <;> exact hdone
      -- the id in hand is now reported, or was not stale
      refine (hrep.mono (hinv.follows_sweepMark h hpos le_rfl)).drop fun d' hd' hstal ↦ ?_
      obtain ⟨d, hd, rfl⟩ := (s.repo.updateRow_eq_some_iff id).1 hd'
      rw [if_pos rfl] at hstal ⊢
      obtain rfl | hnew := hfits
      · exact .inl rfl
      · exact absurd hstal (hnew d hd)

theorem OfflineInv.sweepClose (h : step cfg s .sweepClose = some t) : OfflineInv cfg.timing t := by
  cases step_cases h with
  | sweepClose hpos | sweepGone hpos =>
    obtain ⟨hsw, hstart⟩ := hinv.at hpos
    exact hinv.of_reposition rfl rfl rfl (fun _ h' ↦ .inl (hstart.trans h')) hsw

theorem OfflineInv.sweepEnd (h : step cfg s .sweepEnd = some t) : OfflineInv cfg.timing t := by
  cases step_cases h with
  | @sweepEnd start _ hpos =>
    obtain ⟨hsw, hstart⟩ := hinv.at hpos
    refine ⟨?_, ?_, ?_, ?_, trivial⟩
    · rintro rec ⟨⟩
      exact hinv.start_le start hstart
    · rintro _ ⟨⟩
    · rintro _ _ _ ⟨⟩
    · rintro rec ⟨⟩
      exact hsw

/-- **Every attended step preserves the invariant.** -/
theorem OfflineInv.step (h : step cfg s l = some t) (hatt : Attended cfg.timing s l) :
    OfflineInv cfg.timing t := by
  cases l with
  | sweepStart => exact hinv.sweepStart h hatt
  | sweepRead => exact hinv.sweepRead h
  | sweepDecide => exact hinv.sweepDecide h
  | sweepMark => exact hinv.sweepMark h
  | sweepClose => exact hinv.sweepClose h
  | sweepEnd => exact hinv.sweepEnd h
  | restart =>
    cases h
    exact hinv.of_reposition rfl rfl rfl nofun trivial
  | tick | enroll | delete | revoke | accept | hello | verify | admitConn | register | connect
  | heartbeat | inventory | endRead | unmap | markLost | notify =>
    exact hinv.of_idle_sweeper h hatt rfl

end

end WartungsRemote.ControlHub
