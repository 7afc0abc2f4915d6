import WartungsRemote.Httpapi.Queries
import WartungsRemote.Monitoring.Version
import WartungsRemote.Transition.History

/-!
# Alert rules and their evaluation

`internal/alerting`: the rules, the alerts and `Engine.Evaluate`, which runs every enabled rule
against every device in its scope. `evaluateRule` has three results: an error ends the matter, a
condition that **holds** opens an alert unless there is one, and a condition that **does not hold**
resolves the open ones.

The pass is a loop over the rules and devices that it has read at its beginning, in which every
access to the database or to the hub is a step of its own; in between, users acknowledge, resolve
and delete alerts and change the rules. What the hub answers and the latest metrics are in the label
of `evaluate`.

The rows are in the order in which the database returns them. Audit events and notifications are
left out. A threshold and a percentage are doubles without a sign of zero.
-/

namespace WartungsRemote.Alerting

open List Option Json
open Device (Listed MetricsPoint)

/-! ### Rules -/

inductive RuleType
  | offline
  | cpu
  | ram
  | disk
  | service
  | agentVersion
  /-- The column holds any text. -/
  | other (name : Text)
  deriving DecidableEq

inductive ScopeType
  | global
  | customer
  | group
  | device
  deriving DecidableEq

/-- A row of `alert_rules`. -/
structure Rule where
  id : UUID
  scopeType : ScopeType
  scopeID : Option UUID
  ruleType : RuleType
  config : Value ℚ
  enabled : Bool

def scopedDevices (all : List Listed) (rule : Rule) : List Listed :=
  match rule.scopeType, rule.scopeID with
  | .global, _ => all
  | .customer, some id => all.filter fun d ↦ d.customerID = some id
  | .group, some id => all.filter fun d ↦ d.groupID = some id
  | .device, some id => (all.find? fun d ↦ d.id = id).toList
  | _, none => []

/-! ### Configurations -/

/-- How a key is compared with the name of a field: regardless of case. Two characters beyond ASCII
are variants of `S` and `K`. -/
def foldChar (c : Char) : Char :=
  if c = Char.ofNat 0x17F then 'S' else if c = Char.ofNat 0x212A then 'K' else c.toUpper

/-- `json.Unmarshal` into a structure with one field, which has the value `zero` before. -/
def unmarshalField {α : Type} (name : Text) (zero : α) (set : α → Value ℚ → Option α)
    (v : Value ℚ) : Option α :=
  if v.depth ≤ maxNestingDepth then
    match v with
    | .null => some zero
    | .obj members =>
      (members.filter fun m ↦ m.1.map foldChar = name.map foldChar).foldlM (fun a m ↦
        set a m.2) zero
    | _ => none
  else none

/-- A field of type `string`. -/
def setString (s : Text) : Value ℚ → Option Text
  | .null => some s
  | .str s' => some s'
  | _ => none

/-- A field of type `float64`. -/
def setFloat (x : ℚ) : Value ℚ → Option ℚ
  | .null => some x
  | .num q => nearest q
  | _ => none

/-- `threshold_percent`. -/
def Rule.threshold (rule : Rule) : Option ℚ :=
  unmarshalField "threshold_percent".toList 0 setFloat rule.config

/-- `minimum_version`. -/
def Rule.minimumVersion (rule : Rule) : Option Text :=
  unmarshalField "minimum_version".toList [] setString rule.config

/-- `service_name`. -/
def Rule.serviceName (rule : Rule) : Option Text :=
  unmarshalField "service_name".toList [] setString rule.config

/-! ### What an evaluation reads -/

structure ServiceInfo where
  name : Text
  displayName : Text
  status : Text
  deriving DecidableEq

/-- What comes of asking a device for its services. -/
inductive Answer
  /-- The device is not connected. -/
  | offline
  /-- `SendAndWait` returns an error. -/
  | noAnswer
  /-- The payload does not decode. -/
  | undecodable
  | result (status : Text) (data : List ServiceInfo)
  deriving DecidableEq

/-- The observed services. -/
def Answer.services : Answer → Option (List ServiceInfo)
  | .result status data => if status = ['s', 'u', 'c', 'c', 'e', 's', 's'] then some data else none
  | .offline | .noAnswer | .undecodable => none

structure Reads where
  /-- `LatestMetrics`, which fails, or finds nothing, or finds the latest row. -/
  metrics : Option (Option MetricsPoint)
  answer : Answer
  deriving DecidableEq

/-! ### Evaluation -/

/-- The result of an operation on doubles; nothing overflows here. -/
def double (q : ℚ) : ℚ :=
  (nearest q).getD 0

/-- `float64(used) / float64(total) * 100`. -/
def percent (used total : ℚ) : ℚ :=
  double (double (double used / double total) * 100)

/-- `%.1f` and `%.0f`. -/
def formatFixed (digits : ℕ) (x : ℚ) : Text :=
  let n := (roundEven (|x| * 10 ^ digits)).toNat
  let fraction := (Nat.toDigits 10 (n % 10 ^ digits))
  (if x < 0 then ['-'] else []) ++ Nat.toDigits 10 (n / 10 ^ digits) ++
    if digits = 0 then [] else '.' :: replicate (digits - fraction.length) '0' ++ fraction

/-- `at %.1f%% (threshold %.0f%%)`. -/
def atThreshold (value threshold : ℚ) : Text :=
  " at ".toList ++ formatFixed 1 value ++ "% (threshold ".toList ++ formatFixed 0 threshold ++
    "%)".toList

/-- What is found wrong with a device. -/
structure Finding where
  severity : Severity
  summary : Text
  deriving DecidableEq

/-- A rule on a percentage. -/
def exceeds (name : Text) (threshold value : ℚ) : Option Finding :=
  if threshold ≤ value then some ⟨.warning, name ++ atThreshold value threshold⟩ else none

/-- The rule on a service, once the services are known. -/
def checkService (name : Text) (services : List ServiceInfo) : Option Finding :=
  match services.find? fun svc ↦ svc.name = name with
  | some svc =>
    if svc.status ≠ ['r', 'u', 'n', 'n', 'i', 'n', 'g'] then
      some ⟨.critical, "service ".toList ++ name ++ " is ".toList ++ svc.status⟩
    else none
  | none => some ⟨.critical, "service ".toList ++ name ++ " not found".toList⟩

/-- `evaluateRule`: an error, or what is found. -/
def evaluateRule (rule : Rule) (d : Listed) (reads : Reads) : Option (Option Finding) :=
  match rule.ruleType with
  | .offline =>
    some (if d.status = .offline then some ⟨.critical, d.displayName ++ " is offline".toList⟩
      else none)
  | .cpu => do
    let threshold ← rule.threshold
    let latest ← reads.metrics
    some (latest.bind fun p ↦ exceeds "CPU".toList threshold p.cpuPercent)
  | .ram => do
    let threshold ← rule.threshold
    let latest ← reads.metrics
    some (latest.bind fun p ↦
      if p.memoryTotalBytes = 0 then none
      else exceeds "RAM".toList threshold (percent p.memoryUsedBytes p.memoryTotalBytes))
  | .disk => do
    let threshold ← rule.threshold
    let latest ← reads.metrics
    some (latest.bind fun p ↦
      p.filesystems.findSome? fun fs ↦
        if fs.totalBytes = 0 then none
        else exceeds ("disk ".toList ++ fs.path) threshold
          (percent fs.usedBytes.toNat fs.totalBytes.toNat))
  | .agentVersion => do
    let minimum ← rule.minimumVersion
    let version := d.agentVersion.getD []
    some (if version ≠ [] ∧ Monitoring.isOlderVersion version minimum then
        some ⟨.warning,
          "agent version ".toList ++ version ++ " is older than required ".toList ++ minimum⟩
      else none)
  | .service => do
    let name ← rule.serviceName
    -- without an answer that says success there is nothing to find
    some (if name = [] then none else reads.answer.services.bind (checkService name))
  | .other _ => some none

/-! ### The engine and its tables -/

/-- How far a pass of `Evaluate` has come. -/
inductive Phase
  | idle
  | listed (rules : List Rule)
  /-- The rules and devices that are left. -/
  | evaluating (todo : List (Rule × Listed))
  /-- `OpenIfNotExists`, before its `SELECT`. -/
  | opening (rule : Rule) (d : Listed) (finding : Finding) (todo : List (Rule × Listed))
  /-- `OpenIfNotExists`, before its `INSERT`. -/
  | inserting (rule : Rule) (d : Listed) (finding : Finding) (todo : List (Rule × Listed))
  | resolving (rule : Rule) (d : Listed) (todo : List (Rule × Listed))

structure Engine where
  now : ℕ
  rules : List Rule
  alerts : List Row
  phase : Phase

def Engine.init : Engine where
  now := 0
  rules := []
  alerts := []
  phase := .idle

/-- How a statement ends. -/
inductive Outcome
  | ok
  | failed
  /-- The statement took effect and still reported an error. -/
  | failedLate
  deriving DecidableEq

inductive Label
  | tick (d : ℕ)
  /-- `Evaluate` begins with `ListRules`, which returns the rules in some order or fails. -/
  | listRules (ids : Option (List UUID))
  /-- `ListAll` returns the devices or fails. -/
  | listDevices (devices : Option (List Listed))
  | evaluate (reads : Reads)
  | selectExisting (ok : Bool)
  | insert (id : UUID) (out : Outcome)
  | autoResolve (out : Outcome)
  /-- The server stops, and with it the pass. -/
  | stop
  /-- What users do to alerts and rules. -/
  | acknowledge (id : UUID)
  | resolve (id : UUID)
  | delete (id : UUID)
  | createRule (rule : Rule)
  | setRuleEnabled (id : UUID) (enabled : Bool)
  | deleteRule (id : UUID)
  | deleteDevice (id : UUID)

/-- The steps that `Evaluate` makes. -/
def Label.ofEngine : Label → Bool
  | .listRules _ | .listDevices _ | .evaluate _ | .selectExisting _ | .insert _ _
  | .autoResolve _ => true
  | _ => false

/-- An alert that is open or acknowledged. -/
def Row.live (a : Row) : Bool :=
  a.state = .open || a.state = .acknowledged

/-- The alert of a rule on a device. -/
def Row.of (a : Row) (deviceID ruleID : UUID) : Bool :=
  a.deviceID = deviceID && a.ruleID = some ruleID

/-- The number of open or acknowledged alerts of a rule on a device. -/
def Engine.liveAlerts (e : Engine) (deviceID ruleID : UUID) : ℕ :=
  e.alerts.countP fun a ↦ a.of deviceID ruleID && a.live

/-- What is left of a pass. -/
def Phase.next : List (Rule × Listed) → Phase
  | [] => .idle
  | todo => .evaluating todo

namespace Engine

variable (e : Engine)

/-- `UPDATE alerts SET ... WHERE ...`. -/
def updateAlerts (p : Row → Bool) (f : Row → Row) : Engine :=
  { e with alerts := e.alerts.map fun a ↦ if p a then f a else a }

def listRules : Option (List UUID) → Option Engine
  | some ids =>
    match e.phase with
    | .idle =>
      if ids.Perm (e.rules.map Rule.id) then
        some { e with phase := .listed (ids.filterMap fun id ↦ e.rules.find? fun r ↦ r.id = id) }
      else none
    | _ => none
  | none =>
    match e.phase with
    | .idle => some e
    | _ => none

/-- The rules and devices of a pass, in the order of the two loops. -/
def pairs (rules : List Rule) (devices : List Listed) : List (Rule × Listed) :=
  (rules.filter Rule.enabled).flatMap fun rule ↦ (scopedDevices devices rule).map fun d ↦ (rule, d)

def listDevices (devices : Option (List Listed)) : Option Engine :=
  match e.phase with
  | .listed rules =>
    match devices with
    | some devices => some { e with phase := .next (pairs rules devices) }
    | none => some { e with phase := .idle }
  | _ => none

/-- One round of the inner loop, up to its statement. -/
def evaluate (reads : Reads) : Option Engine :=
  match e.phase with
  | .evaluating ((rule, d) :: todo) =>
    match evaluateRule rule d reads with
    | none => some { e with phase := .next todo }
    | some (some finding) => some { e with phase := .opening rule d finding todo }
    | some none => some { e with phase := .resolving rule d todo }
  | _ => none

/-- The `SELECT` of `OpenIfNotExists`. -/
def selectExisting (ok : Bool) : Option Engine :=
  match e.phase with
  | .opening rule d finding todo =>
    if ok && (e.alerts.find? fun a ↦ a.of d.id rule.id && a.live).isNone then
      some { e with phase := .inserting rule d finding todo }
    else some { e with phase := .next todo }
  | _ => none

/-- The `INSERT` of `OpenIfNotExists`. The database generates the id, and the rule is still there or
the statement fails. -/
def insert (id : UUID) (out : Outcome) : Option Engine :=
  match e.phase with
  | .inserting rule d finding todo =>
    if id ∈ e.alerts.map Row.id then none
    else if out = .failed ∨ rule.id ∉ e.rules.map Rule.id then some { e with phase := .next todo }
    else
      some { e with
        alerts := e.alerts ++
          [{ id, deviceID := d.id, ruleID := some rule.id, severity := finding.severity,
             state := .open, openedAt := e.now, resolvedAt := none,
             summary := some finding.summary }]
        phase := .next todo }
  | _ => none

/-- `AutoResolveIfOpen`. -/
def autoResolve (out : Outcome) : Option Engine :=
  match e.phase with
  | .resolving rule d todo =>
    if out = .failed then some { e with phase := .next todo }
    else
      some { e.updateAlerts (fun a ↦ a.of d.id rule.id && a.live) fun a ↦
          { a with state := .resolved, resolvedAt := some e.now } with
        phase := .next todo }
  | _ => none

def acknowledge (id : UUID) : Engine :=
  e.updateAlerts (fun a ↦ a.id = id && a.state = .open) fun a ↦ { a with state := .acknowledged }

def resolve (id : UUID) : Engine :=
  e.updateAlerts (fun a ↦ a.id = id && a.state ≠ .resolved) fun a ↦
    { a with state := .resolved, resolvedAt := some e.now }

/-- `CreateRule`, with the id that the database generates. -/
def createRule (rule : Rule) : Option Engine :=
  if rule.id ∈ e.rules.map Rule.id then none else some { e with rules := e.rules ++ [rule] }

def setRuleEnabled (id : UUID) (enabled : Bool) : Engine :=
  { e with rules := e.rules.map fun r ↦ if r.id = id then { r with enabled } else r }

/-- `DeleteRule`; its alerts stay. -/
def deleteRule (id : UUID) : Engine :=
  { e with
    rules := e.rules.filter fun r ↦ r.id ≠ id
    alerts := e.alerts.map fun a ↦ if a.ruleID = some id then { a with ruleID := none } else a }

end Engine

/-- One step of the engine or of its users. -/
def step (e : Engine) : Label → Option Engine
  | .tick d => some { e with now := e.now + d }
  | .listRules ids => e.listRules ids
  | .listDevices devices => e.listDevices devices
  | .evaluate reads => e.evaluate reads
  | .selectExisting ok => e.selectExisting ok
  | .insert id out => e.insert id out
  | .autoResolve out => e.autoResolve out
  | .stop => some { e with phase := .idle }
  | .acknowledge id => some (e.acknowledge id)
  | .resolve id => some (e.resolve id)
  | .delete id => some { e with alerts := e.alerts.filter fun a ↦ a.id ≠ id }
  | .createRule rule => e.createRule rule
  | .setRuleEnabled id enabled => some (e.setRuleEnabled id enabled)
  | .deleteRule id => some (e.deleteRule id)
  | .deleteDevice id => some { e with alerts := e.alerts.filter fun a ↦ a.deviceID ≠ id }

/-! ### What a step does -/

/-- What may become of an alert: it keeps its device, may lose its rule, and stays resolved. -/
structure Row.Ages (a a' : Row) : Prop where
  id : a'.id = a.id
  of : ∀ deviceID ruleID, a'.of deviceID ruleID = true → a.of deviceID ruleID = true
  live : a'.live = true → a.live = true

theorem ages_refl (a : Row) : a.Ages a :=
  ⟨rfl, fun _ _ ↦ id, id⟩

theorem ages_ite {p : Bool} {a a' : Row} (h : p = true → a.Ages a') :
    a.Ages (if p then a' else a) := by
  split
  · exact h ‹_›
  · exact ages_refl a

theorem ages_resolved (a : Row) (now : ℕ) :
    a.Ages { a with state := .resolved, resolvedAt := some now } :=
  ⟨rfl, fun _ _ ↦ id, nofun⟩

/-- Alerts that age become fewer. -/
theorem liveAlerts_le {e t : Engine} {f : Row → Option Row}
    (hages : ∀ a a', f a = some a' → a.Ages a') (hals : t.alerts = e.alerts.filterMap f)
    (deviceID ruleID : UUID) : t.liveAlerts deviceID ruleID ≤ e.liveAlerts deviceID ruleID := by
  unfold Engine.liveAlerts
  rw [hals, countP_filterMap]
  refine countP_mono_left fun a _ ha ↦ ?_
  cases hfa : f a with
  | none => simp [hfa] at ha
  | some a' =>
    rw [hfa] at ha
    obtain ⟨hof, hlive⟩ := Bool.and_eq_true_iff.1 ha
    exact Bool.and_eq_true_iff.2 ⟨(hages a a' hfa).of _ _ hof, (hages a a' hfa).live hlive⟩

/-- The alert that the pass is about to open. -/
def Phase.insertion : Phase → Option (Rule × Listed)
  | .inserting rule d _ _ => some (rule, d)
  | _ => none

/-- **What a step does**: the pass goes on, to its `INSERT` only if there is no alert and to its
`AutoResolveIfOpen` only if the condition does not hold; it opens an alert or resolves some; or
users change the tables. -/
inductive Moves (e : Engine) : Label → Engine → Prop
  | passed {l} {phase : Phase} (engine : l.ofEngine = true)
      (insertion : ∀ rule d, phase.insertion = some (rule, d) →
        e.alerts.find? (fun a ↦ a.of d.id rule.id && a.live) = none)
      (resolution : ∀ rule d todo, phase = .resolving rule d todo → ∃ reads, l = .evaluate reads ∧
        e.phase = .evaluating ((rule, d) :: todo) ∧ evaluateRule rule d reads = some none) :
      Moves e l { e with phase }
  | opened {id out rule d} {finding : Finding} {todo} (phase : e.phase.insertion = some (rule, d))
      (fresh : id ∉ e.alerts.map Row.id) :
      Moves e (.insert id out) { e with
        alerts := e.alerts ++
          [{ id, deviceID := d.id, ruleID := some rule.id, severity := finding.severity,
             state := .open, openedAt := e.now, resolvedAt := none,
             summary := some finding.summary }]
        phase := .next todo }
  | resolved {out rule d todo} (phase : e.phase = .resolving rule d todo) (ok : out ≠ .failed) :
      Moves e (.autoResolve out) { e.updateAlerts (fun a ↦ a.of d.id rule.id && a.live) fun a ↦
          { a with state := .resolved, resolvedAt := some e.now } with
        phase := .next todo }
  | changed {l} {t : Engine} {f : Row → Option Row} (user : l.ofEngine = false)
      (ages : ∀ a a', f a = some a' → a.Ages a') (alerts : t.alerts = e.alerts.filterMap f)
      (phase : t.phase = e.phase ∨ t.phase = .idle) : Moves e l t

section Moves

variable {e t : Engine} {l : Label}

theorem Phase.insertion_next (todo : List (Rule × Listed)) :
    (Phase.next todo).insertion = none := by
  cases todo <;> rfl

/-- The pass is about to write. -/
def Phase.writes : Phase → Bool
  | .inserting _ _ _ _ | .resolving _ _ _ => true
  | _ => false

theorem Phase.writes_next (todo : List (Rule × Listed)) : (Phase.next todo).writes = false := by
  cases todo <;> rfl

theorem moves_of_phase {phase : Phase} (hl : l.ofEngine = true) (hph : phase.writes = false) :
    Moves e l { e with phase } := by
  refine .passed hl (fun rule d hins ↦ ?_) ?_
  · cases phase with
    | inserting => cases hph
    | _ => cases hins
  · rintro rule d todo rfl
    cases hph

theorem moves_of_map {g : Row → Row} (hl : l.ofEngine = false) (hg : ∀ a : Row, a.Ages (g a))
    (hals : t.alerts = e.alerts.map g) (hph : t.phase = e.phase ∨ t.phase = .idle) :
    Moves e l t := by
  refine .changed (f := some ∘ g) hl (fun a a' ha ↦ ?_) (by rw [hals, filterMap_eq_map]) hph
  cases ha
  exact hg a

theorem moves_of_filter {p : Row → Bool} (hl : l.ofEngine = false)
    (hals : t.alerts = e.alerts.filter p) (hph : t.phase = e.phase) : Moves e l t := by
  refine .changed (f := guard p) hl (fun a a' ha ↦ ?_) (by rw [hals, filterMap_eq_filter])
    (.inl hph)
  obtain ⟨rfl, -⟩ := guard_eq_some_iff.1 ha
  exact ages_refl a

theorem moves_of_evaluate {reads : Reads} (h : e.evaluate reads = some t) :
    Moves e (.evaluate reads) t := by
  unfold Engine.evaluate at h
  split at h
  next rule d todo hph =>
    split at h
    · exact some.inj h ▸ moves_of_phase rfl (Phase.writes_next _)
    · exact some.inj h ▸ moves_of_phase rfl rfl
    next hevd =>
      refine some.inj h ▸ .passed rfl (fun _ _ hins ↦ ?_) fun rule' d' todo' hrsv ↦ ?_
      · cases hins
      · obtain ⟨rfl, rfl, rfl⟩ := Phase.resolving.inj hrsv
        exact ⟨reads, rfl, hph, hevd⟩
  · cases h

/-- `Moves` has everything that a step can do. -/
theorem moves_of_step (h : step e l = some t) : Moves e l t := by
  cases l with
  | listRules ids =>
    cases ids with
    | none =>
      simp only [step, Engine.listRules] at h
      split at h
      · cases h
        exact moves_of_phase rfl (by simp [Phase.writes, *])
      · cases h
    | some =>
      simp only [step, Engine.listRules] at h
      split at h
      · split at h
        · cases h
          exact moves_of_phase rfl rfl
        · cases h
      · cases h
  | listDevices =>
    simp only [step, Engine.listDevices] at h
    split at h
    · split at h <;> cases h
      · exact moves_of_phase rfl (Phase.writes_next _)
      · exact moves_of_phase rfl rfl
    · cases h
  | evaluate reads => exact moves_of_evaluate h
  | selectExisting =>
    simp only [step, Engine.selectExisting] at h
    split at h
    · split at h
      next hnone =>
        cases h
        refine .passed rfl (fun rule d hph ↦ ?_) fun _ _ _ hrsv ↦ ?_
        swap
        · cases hrsv
        obtain ⟨rfl, rfl⟩ := Prod.mk.inj (some.inj hph)
        exact isNone_iff_eq_none.1 (Bool.and_eq_true_iff.1 hnone).2
      · cases h
        exact moves_of_phase rfl (Phase.writes_next _)
    · cases h
  | insert id out =>
    simp only [step, Engine.insert] at h
    split at h
    next rule d finding todo hph =>
      split at h
      · cases h
      next hnew =>
        split at h <;> cases h
        · exact moves_of_phase rfl (Phase.writes_next _)
        · exact .opened (by rw [hph]; rfl) hnew
    · cases h
  | autoResolve out =>
    simp only [step, Engine.autoResolve] at h
    split at h
    next rule d todo hph =>
      split at h <;> cases h
      · exact moves_of_phase rfl (Phase.writes_next _)
      next hok => exact .resolved hph hok
    · cases h
  | tick | setRuleEnabled =>
    cases h
    exact moves_of_map rfl ages_refl (map_id _).symm (.inl rfl)
  | stop =>
    cases h
    exact moves_of_map rfl ages_refl (map_id _).symm (.inr rfl)
  | createRule =>
    simp only [step, Engine.createRule] at h
    split_ifs at h
    · cases h
      exact moves_of_map rfl ages_refl (map_id _).symm (.inl rfl)
  | acknowledge =>
    cases h
    refine moves_of_map rfl (fun a ↦ ?_) rfl (.inl rfl)
    refine ages_ite fun hopen ↦ ⟨rfl, fun _ _ hof ↦ hof, fun _ ↦ ?_⟩
    simp only [Bool.and_eq_true, decide_eq_true_eq] at hopen
    simp [Row.live, hopen.2]
  | resolve =>
    cases h
    exact moves_of_map rfl (fun a ↦ ages_ite fun _ ↦ ages_resolved a e.now) rfl (.inl rfl)
  | deleteRule =>
    cases h
    refine moves_of_map rfl (fun a ↦ ?_) rfl (.inl rfl)
    split
    · exact ⟨rfl, fun _ _ hof ↦ by simp [Row.of] at hof, fun hlive ↦ hlive⟩
    · exact ages_refl a
  | delete | deleteDevice =>
    cases h
    exact moves_of_filter rfl rfl rfl

end Moves

end WartungsRemote.Alerting
