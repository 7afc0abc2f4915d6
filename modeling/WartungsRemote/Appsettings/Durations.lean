import WartungsRemote.Codec.Reading
import WartungsRemote.Device.Registry

/-!
# Settings that are durations

The settings that an administrator enters as a number of hours or days (`internal/appsettings` and
`handlers_settings.go`): the two pairs of retention windows, and the age at which the sweeper of
`internal/support` rotates a support credential. A number goes through a `time.Duration`, whose
multiplications wrap, and through a decimal text in the `app_settings` table.

The handlers check that a number is positive, and nothing else. Up to 2562047 hours and up to 106751
days the settings **mean what was entered**; beyond, the duration wraps. The pair of windows is
moreover written by **two statements**, so a request that fails between them has changed one window.

Instants are numbers of nanoseconds; a column of the database holds microseconds. The requests'
permission check, their decoding and their audit entries are left out, and so are reads that fail:
they end the request or the tick.
-/

namespace WartungsRemote.Appsettings

open List Reading

/-! ### The table -/

/-- The keys of `app_settings` whose values are durations. -/
inductive Key
  | metricsRawRetentionHours
  | metricsHourlyRetentionHours
  | networkRawRetentionHours
  | networkHourlyRetentionHours
  | supportCredentialRotationDays
  deriving DecidableEq

/-- The table `app_settings`. -/
abbrev Settings : Type := Key → Option (List UInt8)

/-- How a statement ends for its caller: with success, or an error after or without its effect. -/
inductive Answer
  | done
  | lost
  | failed
  deriving DecidableEq

/-- How a request is answered. -/
inductive Status
  | ok
  | invalidRequest
  | internalError
  deriving DecidableEq

def Settings.set (s : Settings) (key : Key) (value : List UInt8) : Answer → Settings
  | .failed => s
  | _ => Function.update s key (some value)

def Answer.status : Answer → Status
  | .done => .ok
  | _ => .internalError

/-! ### Retention windows -/

/-- `time.Duration(h) * time.Hour`. -/
def ofHours (h : ℤ) : ℤ :=
  wrap (h * 3600000000000)

/-- One window as `MetricsRetention` reads it: a positive override, or the default. -/
def window (s : Settings) (key : Key) (default : ℤ) : ℤ :=
  match (s key).bind parseInt with
  | some h => if 0 < h then ofHours h else default
  | none => default

/-- The two windows of one kind of metrics. -/
inductive Pair
  | metrics
  | network

def Pair.raw : Pair → Key
  | .metrics => .metricsRawRetentionHours
  | .network => .networkRawRetentionHours

def Pair.hourly : Pair → Key
  | .metrics => .metricsHourlyRetentionHours
  | .network => .networkHourlyRetentionHours

/-- `Repo.MetricsRetention` and `Repo.NetworkMetricsRetention`. -/
def Pair.retention (p : Pair) (s : Settings) (defaultRaw defaultHourly : ℤ) : ℤ × ℤ :=
  (window s p.raw defaultRaw, window s p.hourly defaultHourly)

/-- `Repo.SetMetricsRetention` and `Repo.SetNetworkMetricsRetention`, whose statements are answered
by `a₁` and `a₂`. -/
def Pair.setRetention (p : Pair) (s : Settings) (raw hourly : ℤ) (a₁ a₂ : Answer) :
    Settings × Status :=
  if raw ≤ 0 ∨ hourly ≤ 0 then (s, .internalError)
  else
    let s := s.set p.raw (itoa (hours raw.toNat).toNat) a₁
    if a₁ = .done then (s.set p.hourly (itoa (hours hourly.toNat).toNat) a₂, a₂.status)
    else (s, .internalError)

/-- `handleSetRetentionSettings` and `handleSetNetworkRetentionSettings`. -/
def Pair.handleSetRetentionSettings (p : Pair) (s : Settings) (rawHours hourlyHours : ℤ)
    (a₁ a₂ : Answer) : Settings × Status :=
  if rawHours ≤ 0 ∨ hourlyHours ≤ 0 then (s, .invalidRequest)
  else p.setRetention s (ofHours rawHours) (ofHours hourlyHours) a₁ a₂

section Windows

variable {s : Settings} {k k' : Key} {v : List UInt8} {a : Answer} {d h : ℤ}

theorem window_set_of_ne (hne : k ≠ k') : window (s.set k' v a) k d = window s k d := by
  cases a <;> simp [window, Settings.set, hne]

theorem window_lt : window s k 0 < 9223372036854775808 := by
  unfold window
  split
  · split_ifs
    · exact wrap_lt _
    · norm_num
  · norm_num

theorem window_of_itoa {n : ℕ} (hpos : 0 < n) (hlt : n < 9223372036854775808)
    (hv : s k = some (itoa n)) : window s k d = ofHours n := by
  simp [window, hv, parseInt_itoa hlt, hpos]

theorem exists_window_ne (ha : a ≠ .failed) : ∃ s :
    Settings, window (s.set k v a) k d ≠ window s k d := by
  have hset : ∀ s : Settings, window (s.set k v a) k d = window (fun _ ↦ some v) k d := by
    cases a <;> simp_all [window, Settings.set]
  by_contra! hall
  have hone := hall fun _ ↦ some (itoa 1)
  have htwo := hall fun _ ↦ some (itoa 2)
  rw [hset, window_of_itoa (s := fun _ ↦ some (itoa _)) (by norm_num) (by norm_num) rfl]
    at hone htwo
  exact absurd (hone.symm.trans htwo) (by decide)

theorem ofHours_eq (hpos : 0 < h) (hle : h ≤ 2562047) : ofHours h = h * 3600000000000 :=
  wrap_eq_self (by omega) (by omega)

/-- A number of hours that a duration holds comes back as it was entered. -/
theorem window_set_hours (hpos : 0 < h) (hle : h ≤ 2562047) :
    window (s.set k (itoa (hours (ofHours h).toNat).toNat) .done) k d = h * 3600000000000 := by
  obtain ⟨n, rfl⟩ := Int.eq_ofNat_of_zero_le hpos.le
  have hnat : ((n : ℤ) * 3600000000000).toNat = n * 3600000000000 := by omega
  have hhours : (hours (n * 3600000000000)).toNat = n := by
    rw [hours_mul (by omega) (by omega), Int.toNat_natCast]
  rw [ofHours_eq hpos hle, hnat, hhours, window_of_itoa (n := n) (by omega) (by omega),
    ofHours_eq hpos hle]
  simp [Settings.set]

end Windows

/-- A request does what was entered, whatever the table and the defaults: after success the windows
are exactly so many hours, and after an error they are what they were. -/
def MeansEntered (p : Pair) (rawHours hourlyHours : ℤ) (a₁ a₂ : Answer) : Prop :=
  ∀ s defaultRaw defaultHourly,
    let r := p.handleSetRetentionSettings s rawHours hourlyHours a₁ a₂
    (r.2 = .ok → p.retention r.1 defaultRaw defaultHourly =
      (rawHours * 3600000000000, hourlyHours * 3600000000000)) ∧
    (r.2 ≠ .ok → p.retention r.1 defaultRaw defaultHourly = p.retention s defaultRaw defaultHourly)

/-- A request of positive numbers does what was entered exactly if it is refused because a duration
wraps to a negative one, its first statement has no effect, or durations hold the numbers and both
statements succeed. -/
theorem meansEntered_iff (p : Pair) {rawHours hourlyHours : ℤ} (hraw : 0 < rawHours)
    (hhourly : 0 < hourlyHours) (a₁ a₂ : Answer) : MeansEntered p rawHours hourlyHours a₁ a₂ ↔
      ofHours rawHours ≤ 0 ∨ ofHours hourlyHours ≤ 0 ∨ a₁ = .failed ∨
        rawHours ≤ 2562047 ∧ hourlyHours ≤ 2562047 ∧ a₁ = .done ∧ a₂ = .done := by
  have hkeys : p.raw ≠ p.hourly := by cases p <;> decide
  by_cases hwrap : ofHours rawHours ≤ 0 ∨ ofHours hourlyHours ≤ 0
  · refine iff_of_true (fun s d e ↦ ?_) (or_assoc.1 (.inl hwrap))
    simp [Pair.handleSetRetentionSettings, Pair.setRetention, hwrap, hraw.not_ge, hhourly.not_ge]
  rw [← or_assoc, or_iff_right hwrap]
  unfold MeansEntered Pair.retention
  simp only [Pair.handleSetRetentionSettings, Pair.setRetention, hwrap, hraw.not_ge, hhourly.not_ge,
    or_self, if_false]
  cases a₁ with
  | failed => simp [Settings.set]
  | lost =>
    refine iff_of_false (fun hmeans ↦ ?_) (by simp)
    obtain ⟨s, hne⟩ := exists_window_ne (k := p.raw) (d := 0) (a := .lost) (by decide)
    exact hne (congrArg Prod.fst ((hmeans s 0 0).2 (by simp)))
  | done =>
    simp only [if_true]
    cases a₂ with
    | done =>
      constructor
      · intro hmeans
        have hwindows := (hmeans (fun _ ↦ none) 0 0).1 rfl
        have hle : ∀ {s k} {h : ℤ}, window s k 0 = h * 3600000000000 → h ≤ 2562047 := by
          intro s k h heq
          have := window_lt (s := s) (k := k)
          omega
        exact .inr ⟨hle (congrArg Prod.fst hwindows), hle (congrArg Prod.snd hwindows),
          trivial, rfl⟩
      · rintro (hfail | ⟨hle, hle', -⟩)
        · cases hfail
        · exact fun s d e ↦ ⟨fun _ ↦
            Prod.ext ((window_set_of_ne hkeys).trans (window_set_hours hraw hle))
              (window_set_hours hhourly hle'), fun hne ↦ absurd rfl hne⟩
    | _ =>
      refine iff_of_false (fun hmeans ↦ ?_) (by simp)
      obtain ⟨s, hne⟩ := exists_window_ne (k := p.raw) (d := 0) (a := .done) (by decide)
      have hwin := congrArg Prod.fst ((hmeans s 0 0).2 (by simp [Answer.status]))
      exact hne ((window_set_of_ne hkeys).symm.trans hwin)

theorem meansEntered_longest : MeansEntered .metrics 2562047 1 .done .done :=
  (meansEntered_iff .metrics (by decide) (by decide) .done .done).2 (by decide)

/-- 5124096 hours, some 585 years, are accepted and make the window 25 minutes in nanoseconds, which
is no hour: the default applies. And two ordinary numbers whose second statement fails leave the
first window changed. -/
theorem not_meansEntered :
    ¬ MeansEntered .network 5124096 1 .done .done ∧
      ¬ MeansEntered .metrics 24 48 .done .failed := by
  constructor
  · intro hmeans
    have hwin := congrArg Prod.fst ((hmeans (fun _ ↦ none) 0 0).1 (by decide +kernel))
    exact absurd (hwin.symm.trans_lt window_lt) (by norm_num)
  · intro hmeans
    obtain ⟨s, hne⟩ := exists_window_ne (k := .metricsRawRetentionHours) (d := 0) (a := .done)
      (by decide)
    have hstat : (Pair.metrics.handleSetRetentionSettings s 24 48 .done .failed).2 ≠ .ok := by
      rw [Pair.handleSetRetentionSettings, if_neg (by decide), Pair.setRetention,
        if_neg (by decide)]
      exact nofun
    have hwin := congrArg Prod.fst ((hmeans s 0 0).2 hstat)
    exact hne hwin

/-! ### Rotation of support credentials -/

def supportCredentialRotationDays (s : Settings) : ℤ :=
  match (s .supportCredentialRotationDays).bind parseInt with
  | some days => if days < 0 then 0 else days
  | none => 0

def handleSetSupportCredentialRotationSettings (s : Settings) (rotationDays : ℤ) (a : Answer) :
    Settings × Status :=
  if rotationDays < 0 then (s, .invalidRequest)
  else (s.set .supportCredentialRotationDays (itoa rotationDays.toNat) a, a.status)

/-- A row of `device_support_credentials`. -/
structure Credential where
  deviceID : UUID
  updatedAt : ℤ

/-- `support.Repo.ListDueForRotation`: the rows before the cutoff, which reaches the database in
whole microseconds. -/
def listDueForRotation (creds : List Credential) (now olderThan : ℤ) : List UUID :=
  let cutoff := now + wrap (-olderThan)
  (creds.filter fun c ↦ c.updatedAt < cutoff / 1000).map (·.deviceID)

/-- `time.Duration(days) * 24 * time.Hour`. -/
def ofDays (days : ℤ) : ℤ :=
  ofHours (wrap (days * 24))

/-- One tick of `RunRotationSweeper`: the devices that a rotate command is sent to. -/
def rotationTick (s : Settings) (creds : List Credential) (now : ℤ) (isOnline : UUID → Bool) :
    List UUID :=
  let days := supportCredentialRotationDays s
  if days ≤ 0 then [] else (listDueForRotation creds now (ofDays days)).filter isOnline

/-- Once a number of days is accepted, a tick sends a rotate command to exactly the devices that are
online and whose credential is older, in microseconds. -/
def RotatesDue (days : ℤ) : Prop :=
  ∀ s a t, handleSetSupportCredentialRotationSettings s days a = (t, .ok) →
    ∀ creds now isOnline id, id ∈ rotationTick t creds now isOnline ↔
      isOnline id ∧ ∃ c ∈ creds, c.deviceID = id ∧ days * 86400000000 < now / 1000 - c.updatedAt

section Rotation

variable {s t : Settings} {days : ℤ} {a : Answer}

theorem exists_handle (hpos : 0 < days) :
    ∃ t, handleSetSupportCredentialRotationSettings s days .done = (t, .ok) := by
  rw [handleSetSupportCredentialRotationSettings, if_neg hpos.not_gt]
  exact ⟨_, rfl⟩

theorem supportCredentialRotationDays_of_handle (hpos : 0 < days) (hlt : days < 9223372036854775808)
    (h : handleSetSupportCredentialRotationSettings s days a = (t, .ok)) :
    supportCredentialRotationDays t = days := by
  rw [handleSetSupportCredentialRotationSettings, if_neg hpos.not_gt, Prod.mk.injEq] at h
  obtain ⟨rfl, hstat⟩ := h
  cases a with
  | done =>
    have hread : parseInt (itoa days.toNat) = some days := by
      rw [parseInt_itoa (by omega), Int.toNat_of_nonneg hpos.le]
    simp [supportCredentialRotationDays, Settings.set, hread, hpos.le]
  | _ => cases hstat

theorem mem_rotationTick {creds : List Credential} {now : ℤ} {isOnline : UUID → Bool} {id : UUID}
    (hpos : 0 < days) (hdays : supportCredentialRotationDays t = days) :
    id ∈ rotationTick t creds now isOnline ↔ isOnline id ∧
      ∃ c ∈ creds, c.deviceID = id ∧ c.updatedAt < (now + wrap (-ofDays days)) / 1000 := by
  rw [rotationTick, hdays, if_neg hpos.not_ge, listDueForRotation]
  simp only [mem_filter, mem_map, decide_eq_true_eq]
  tauto

theorem ofDays_eq (hpos : 0 < days) (hle : days ≤ 106751) :
    ofDays days = days * 86400000000000 := by
  rw [ofDays, wrap_eq_self (by omega) (by omega), ofHours_eq (by omega) (by omega)]
  ring

/-- A number of days means what was entered exactly up to 106751: a duration does not hold more. -/
theorem rotatesDue_iff (hpos : 0 < days) (hlt : days < 9223372036854775808) :
    RotatesDue days ↔ days ≤ 106751 := by
  constructor
  · -- The command goes to the device whose credential was stored just before the cutoff, and a
    -- cutoff is at most the longest duration ago.
    intro hdue
    obtain ⟨t, hacc⟩ := exists_handle (s := fun _ ↦ none) hpos
    have hdays := supportCredentialRotationDays_of_handle hpos hlt hacc
    let c : Credential := ⟨0, wrap (-ofDays days) / 1000 - 1⟩
    have hsent : 0 ∈ rotationTick t [c] 0 fun _ ↦ true :=
      (mem_rotationTick hpos hdays).2 ⟨rfl, c, by simp, rfl, by simp [c]⟩
    obtain ⟨-, _, hmem, -, hold⟩ := (hdue _ _ _ hacc _ _ _ _).1 hsent
    obtain rfl := mem_singleton.1 hmem
    have hlow := le_wrap (-ofDays days)
    simp only [c] at hold
    omega
  · intro hle s a t hacc creds now isOnline id
    rw [mem_rotationTick hpos (supportCredentialRotationDays_of_handle hpos hlt hacc),
      ofDays_eq hpos hle, wrap_eq_self (by omega) (by omega)]
    have hcutoff : ∀ u : ℤ,
        u < (now + -(days * 86400000000000)) / 1000 ↔ days * 86400000000 < now / 1000 - u := by
      intro u
      omega
    simp only [hcutoff]

end Rotation

theorem rotatesDue_longest : RotatesDue 106751 :=
  (rotatesDue_iff (by decide) (by decide)).2 (by decide)

/-- 106752 days, some 292 years, are accepted, and a credential stored just now is rotated at every
tick. -/
theorem not_rotatesDue : ¬ RotatesDue 106752 := by
  intro hdue
  obtain ⟨t, hacc⟩ := exists_handle (s := fun _ ↦ none) (show (0 : ℤ) < 106752 by decide)
  have hdays := supportCredentialRotationDays_of_handle (by decide) (by decide) hacc
  have hsent : 0 ∈ rotationTick t [⟨0, 0⟩] 0 fun _ ↦ true :=
    (mem_rotationTick (by decide) hdays).2 ⟨rfl, ⟨0, 0⟩, mem_singleton_self _, rfl,
      by decide +kernel⟩
  obtain ⟨-, c, hmem, -, hold⟩ := (hdue _ _ _ hacc _ _ _ _).1 hsent
  obtain rfl := mem_singleton.1 hmem
  exact absurd hold (by decide)

end WartungsRemote.Appsettings
