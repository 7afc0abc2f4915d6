import WartungsRemote.ControlHub.Deletion
import WartungsRemote.Httpapi.DeviceUpdate

/-!
# The architecture of a device

The handshake stores the architecture that the agent reports, and `handleTriggerDeviceUpdate` looks
up the release for a device with what is stored. In between, two messages of the agent lead to a
write to the device's row (`Message.label?`): a heartbeat, which leaves the architecture alone, and
an **inventory response**, which goes through the same update as the handshake with an empty
architecture.

So the stored architecture is the reported one until an inventory response is stored, or until a
handshake fails to store a new one, whose error is ignored (`keepsArchitecture_iff`). Protocol
errors, which answer what does not decode or is too large, and the tables of metrics, credentials
and sessions are not part of this state.
-/

namespace WartungsRemote.ControlHub

open Device Transition Option State

/-! ### Messages -/

def maxInventoryBytes : ℕ := 1024 * 1024

/-- The fields of an `InventoryResponsePayload` that go to the device's row. -/
structure InventoryResponse where
  hostname : String
  osFamily : String
  osDistribution : String
  osVersion : String
  agentVersion : String
  deriving DecidableEq

/-- What `handleMessage` gets, by the type of the envelope. `size` is the length of the payload,
`decodes` whether it decodes; `none` is a payload that does not. -/
inductive Message
  | heartbeat (decodes : Bool)
  | inventoryResponse (size : ℕ) (payload : Option InventoryResponse)
  | metricsReport (size : ℕ) (decodes : Bool)
  | networkMetricsBatch (size : ℕ) (decodes : Bool)
  | supportCredentialReport (decodes : Bool)
  | commandResult
  | sessionOpenResult
  | sessionClose (decodes : Bool)
  /-- A type that is not supported. -/
  | other (type : String)

/-- `handleMessage`, as far as it writes to the device's row. -/
def Message.label? (c : ConnID) (lands : Bool) : Message → Option Label
  | .heartbeat true => some (.heartbeat c lands)
  | .inventoryResponse size (some inv) =>
    if maxInventoryBytes < size then none
    else some (.inventory c inv.hostname inv.osFamily inv.osDistribution inv.osVersion
      inv.agentVersion lands)
  | _ => none

/-- A step of the hub, or a message that the read loop of a connection handles. -/
inductive Event
  | hub (l : Label)
  | message (c : ConnID) (m : Message) (lands : Bool)

/-- The step of the hub that an event amounts to. -/
def Event.label? : Event → Option Label
  | .hub l => some l
  | .message c m lands => m.label? c lands

/-- A message without a write changes nothing here, and is only read in the read loop. -/
def eventStep (cfg : Config) (s : State) : Event → Option State
  | .hub l => step cfg s l
  | .message c m lands =>
    match m.label? c lands, s.phase c with
    | some l, _ => step cfg s l
    | none, .serving _ => some s
    | none, _ => none

variable {cfg : Config} {s t : State} {l : Label} {e : Event} {id : UUID}

theorem eventStep_eq_some (h : eventStep cfg s e = some t) :
    (∃ l, e.label? = some l ∧ step cfg s l = some t) ∨ e.label? = none ∧ t = s := by
  cases e with
  | hub l => exact .inl ⟨l, rfl, h⟩
  | message c m lands =>
    cases hl : m.label? c lands with
    | some l =>
      simp only [eventStep, hl] at h
      exact .inl ⟨l, hl, h⟩
    | none =>
      simp only [eventStep, hl] at h
      split at h
      · contradiction
      · exact .inr ⟨hl, (some.inj h).symm⟩
      · cases h

/-! ### What a device has reported -/

/-- The architecture that each device reported in its last handshake. -/
abbrev Architectures : Type := UUID → Option String

/-- The architecture that the device reports in a handshake that a step completes. -/
def State.reports (s : State) (id : UUID) : Label → Option String
  | .admitConn c _ =>
    match s.phase c with
    | .verified _ h _ => if h.deviceID = id then some h.arch else none
    | _ => none
  | _ => none

/-- The architecture that a step stores for the device, by its handshake or by an inventory
response. -/
def State.stores (s : State) (id : UUID) : Label → Option String
  | .admitConn c true => s.reports id (.admitConn c true)
  | .inventory c _ _ _ _ _ true => if (s.phase c).bound = some id then some "" else none
  | _ => none

/-- What is remembered of an event. -/
def Architectures.record (reported : Architectures) (s : State) (e : Event) (_ : State) :
    Architectures :=
  fun id ↦ (e.label?.bind (s.reports id)).or (reported id)

/-- The hub, and what the devices have reported. -/
abbrev Informed : Type := State × Architectures

/-- An event, remembered. -/
abbrev informedStep (cfg : Config) : Informed → Event → Option Informed :=
  withHistory (eventStep cfg) Architectures.record

/-- **The stored architecture of a device is the one that it reported in its last handshake.** -/
def KeepsArchitecture (id : UUID) (w : Informed) : Prop :=
  ∀ d ∈ w.1.repo.devices id, ∀ arch ∈ w.2 id, d.architecture = arch
  deriving Decidable

/-- The condition on an event. An inventory response is stored only for a device that has reported
the empty architecture or was deleted; and a handshake that fails to store what the device reports
finds it stored already. -/
def Inventoried (id : UUID) (w : Informed) (e : Event) : Prop :=
  ∀ l ∈ e.label?, ∀ d ∈ w.1.repo.devices id,
    (w.1.reports id l = none → ∀ arch ∈ w.1.stores id l, ∀ reported ∈ w.2 id, arch = reported) ∧
      (w.1.stores id l = none → ∀ arch ∈ w.1.reports id l, d.architecture = arch)
  deriving Decidable

variable {d' : Row} {arch : String} {reported : Architectures}

/-! ### What a step does to the architecture -/

/-- A handshake that stores an architecture stores the one that is reported. -/
theorem eq_of_stores_of_reports {arch' : String} (hstores : s.stores id l = some arch)
    (hrep : s.reports id l = some arch') : arch = arch' := by
  unfold stores at hstores
  split at hstores
  · exact some.inj (hstores.symm.trans hrep)
  · cases hrep
  · cases hstores

theorem architecture_of_updateRow {r : Repo} {id' : UUID} {f : Row → Row}
    (hf : ∀ d, (f d).architecture = d.architecture) (h : (r.updateRow id' f).devices id = some d') :
    ∃ d, r.devices id = some d ∧ d'.architecture = d.architecture := by
  obtain ⟨d, hd, rfl⟩ := (r.updateRow_eq_some_iff id').1 h
  refine ⟨d, hd, ?_⟩
  split
  · exact hf d
  · rfl

/-- A row has the architecture that the step stores, or the one it had; or it is a new device. -/
theorem architecture_of_step (h : step cfg s l = some t) (hd : t.repo.devices id = some d') :
    (∃ d, s.repo.devices id = some d ∧ d'.architecture = (s.stores id l).getD d.architecture) ∨
      id ∉ s.issued ∧ s.stores id l = none ∧ s.reports id l = none := by
  cases step_cases h with
  | @enroll id' _ _ _ _ hnew =>
    by_cases hid : id = id'
    · subst hid
      exact .inr ⟨hnew, rfl, rfl⟩
    · simp only [Repo.insert, Function.update_of_ne hid] at hd
      exact .inl ⟨d', hd, rfl⟩
  | delete id' => exact .inl ⟨d', s.repo.delete_devices_eq_some id' hd, rfl⟩
  | revoke | markLost | sweepMark => exact .inl (architecture_of_updateRow (by intro; rfl) hd)
  | connect | heartbeat => exact .inl (architecture_of_updateRow (by intro; split <;> rfl) hd)
  | @admitConn c lands _ hello _ hph =>
    obtain ⟨_, hd₁, hsame⟩ := architecture_of_updateRow (by intro; rfl) hd
    obtain ⟨d, hrow, rfl⟩ := (s.repo.updateRow_eq_some_iff _).1 hd₁
    refine .inl ⟨d, hrow, hsame.trans ?_⟩
    cases lands with
    | true =>
      simp only [stores, reports, hph, eq_comm]
      split <;> rfl
    | false =>
      split <;> rfl
  | @inventory c _ _ _ _ _ lands conn hph =>
    obtain ⟨d, hrow, rfl⟩ := (s.repo.updateRow_eq_some_iff _).1 hd
    refine .inl ⟨d, hrow, ?_⟩
    cases lands with
    | true =>
      simp only [stores, hph, Phase.bound, some.injEq, eq_comm]
      split <;> rfl
    | false =>
      split <;> rfl
  | _ => exact .inl ⟨d', hd, rfl⟩

/-! ### The equivalence -/

variable {w w' : Informed}

/-- Only devices that were enrolled have reported anything. -/
structure InformedInv (w : Informed) : Prop where
  enrolled : Enrolled w.1
  reported : ∀ id, (w.2 id).isSome → id ∈ w.1.issued

theorem informedInv_init : InformedInv (.init, fun _ ↦ none) where
  enrolled := enrolled_init
  reported := nofun

theorem bound_of_reports (h : s.reports id l = some arch) : ∃ c, (s.phase c).bound = some id := by
  unfold reports at h
  split at h
  next c _ =>
    split at h
    next hph =>
      split at h
      next hid => exact ⟨c, by rw [hph, ← hid]; rfl⟩
      · cases h
    · cases h
  · cases h

theorem InformedInv.step (hw : InformedInv w) (h : informedStep cfg w e = some w') :
    InformedInv w' := by
  obtain ⟨t, hstep, rfl⟩ := withHistory_eq_some_iff.1 h
  obtain ⟨l, hl, hstep⟩ | ⟨hl, rfl⟩ := eventStep_eq_some hstep
  · refine ⟨hw.enrolled.step hstep, fun id hsome ↦ issued_of_step hstep ?_⟩
    cases hrep : w.1.reports id l with
    | some arch =>
      obtain ⟨c, hc⟩ := bound_of_reports hrep
      exact hw.enrolled.bound c id hc
    | none => exact hw.reported id (by simpa [Architectures.record, hl, hrep] using hsome)
  · exact ⟨hw.enrolled, fun id hsome ↦
      hw.reported id (by simpa [Architectures.record, hl] using hsome)⟩

/-- One event keeps the architecture exactly if it meets the condition. -/
theorem InformedInv.keeps_iff (hw : InformedInv w) (hkeep : KeepsArchitecture id w)
    (h : informedStep cfg w e = some w') : KeepsArchitecture id w' ↔ Inventoried id w e := by
  obtain ⟨t, hstep, rfl⟩ := withHistory_eq_some_iff.1 h
  obtain ⟨l, hl, hstep⟩ | ⟨hl, rfl⟩ := eventStep_eq_some hstep
  swap
  · -- the message is not about the row
    have hsame : w.2.record w.1 e w.1 = w.2 := by
      funext
      simp [Architectures.record, hl]
    rw [hsame]
    exact iff_of_true hkeep (by simp [Inventoried, hl])
  cases hd : t.repo.devices id with
  | none =>
    refine iff_of_true (by simp [KeepsArchitecture, hd]) fun l' hl' d hrow ↦ ?_
    cases hl.symm.trans hl'
    obtain ⟨rfl, -⟩ := removed_of_step hstep (by simp [mem_def.1 hrow]) hd
    exact ⟨nofun, nofun⟩
  | some d' =>
    have hkeep' : KeepsArchitecture id (t, w.2.record w.1 e t) ↔
        ∀ arch ∈ (w.1.reports id l).or (w.2 id), d'.architecture = arch := by
      simp [KeepsArchitecture, hd, Architectures.record, hl]
    rw [hkeep']
    obtain ⟨d, hrow, harch⟩ | ⟨hnew, hstores, hrep⟩ := architecture_of_step hstep hd
    · simp only [Inventoried, hl, hrow, mem_def, some.injEq, forall_eq', harch]
      cases hstores : w.1.stores id l <;> cases hrep : w.1.reports id l
      · simpa using hkeep d hrow
      · simp
      · simp
      · simp [eq_of_stores_of_reports hstores hrep]
    · have hnone : w.2 id = none := by
        by_contra hsome
        exact hnew (hw.reported id (isSome_iff_ne_none.2 hsome))
      simp [Inventoried, hl, hstores, hrep, hnone]

/-- **The stored architecture stays what the device reported in its last handshake exactly if no
inventory response is stored for a device that has reported an architecture, and no handshake fails
to store a new one.** -/
theorem keepsArchitecture_iff (cfg : Config) (id : UUID) (es : List Event) :
    Along (informedStep cfg) (fun _ _ w' ↦ KeepsArchitecture id w') (.init, fun _ ↦ none) es ↔
      Along (informedStep cfg) (fun w e _ ↦ Inventoried id w e) (.init, fun _ ↦ none) es := by
  have hinit : InformedInv (.init, fun _ ↦ none) ∧ KeepsArchitecture id (.init, fun _ ↦ none) :=
    ⟨informedInv_init, nofun⟩
  constructor
  · refine along_of_invariant (I := fun w ↦ InformedInv w ∧ KeepsArchitecture id w) ?_ ?_ hinit
    · exact fun w e w' hw h hkeep ↦ ⟨hw.1.step h, hkeep⟩
    · exact fun w e w' hw h hkeep ↦ (hw.1.keeps_iff hw.2 h).1 hkeep
  · refine along_of_invariant (I := fun w ↦ InformedInv w ∧ KeepsArchitecture id w) ?_ ?_ hinit
    · exact fun w e w' hw h hqui ↦ ⟨hw.1.step h, (hw.1.keeps_iff hw.2 h).2 hqui⟩
    · exact fun w e w' hw h hqui ↦ (hw.1.keeps_iff hw.2 h).2 hqui

namespace Sample

/-- The agent connects and answers a request for its inventory. -/
def inventory : List Event :=
  (enroll :: connect 0).map .hub ++
    ([.message 0 (.heartbeat true) true, .message 0 (.metricsReport 100 true) true,
      .message 0 (.inventoryResponse 500 (some ⟨"host", "linux", "debian", "12", "1.0.0"⟩)) true] :
        List Event)

/-- What `handleTriggerDeviceUpdate` finds for the device in the stable channel. -/
def offered (releases : AgentRelease.Table) (d : Row) : Option AgentRelease.Release :=
  (releases.latest d.osFamily.toList d.architecture.toList (Httpapi.updateChannel [])).toOption

end Sample

open Sample

/-- A device that has reported `amd64` is stored without an architecture after its first inventory
response, and its release is not found any more. -/
theorem not_keepsArchitecture :
    ¬ Along (informedStep config) (fun _ _ w' ↦ KeepsArchitecture device w') (.init, fun _ ↦
      none) inventory ∧ ((exec (informedStep config) (.init, fun _ ↦ none) inventory).bind fun w ↦
          (w.1.repo.devices device).map fun d ↦
            ((offered Httpapi.Sample.manifest { d with architecture := "amd64" }).isSome,
              (offered Httpapi.Sample.manifest d).isSome)) = some (true, false) := by
  decide +kernel

end WartungsRemote.ControlHub
