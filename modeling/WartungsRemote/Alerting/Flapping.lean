import WartungsRemote.Alerting.Engine

/-!
# Service alerts and connectivity

A rule on a service is evaluated by asking the device for its services. When there is no answer that
says success, `evaluateRule` reports that **the condition does not hold**
(`evaluateRule_of_unobserved`), so as not to open an alert because of the connection. `Evaluate`
takes this to mean that the condition has cleared: an alert on a service that is down goes away when
the device is disconnected and comes back as a new one when it is connected again.
-/

namespace WartungsRemote.Alerting

open List
open Device (Listed)
open Transition

/-! ### What a pass has not observed -/

/-- An evaluation of a rule on a service without an observation. -/
structure Missed where
  deviceID : UUID
  ruleID : UUID
  /-- The configuration of the rule decodes, and there was an alert to resolve. -/
  endangers : Bool
  deriving DecidableEq

/-- The evaluations of a pass without an observation. -/
abbrev Unobserved : Type := List Missed

/-- What an evaluation misses. -/
def Engine.misses (e : Engine) (rule : Rule) (d : Listed) (reads : Reads) : Unobserved :=
  if rule.ruleType = .service ∧ reads.answer.services = none then
    [⟨d.id, rule.id, rule.serviceName.isSome && 0 < e.liveAlerts d.id rule.id⟩]
  else []

/-- What is remembered of a step: a pass begins with `ListRules`, and what is evaluated again counts
anew. -/
def Unobserved.record (h : Unobserved) (e : Engine) (l : Label) (_ : Engine) : Unobserved :=
  match l with
  | .listRules _ => []
  | .evaluate reads =>
    match e.phase with
    | .evaluating ((rule, d) :: _) =>
      e.misses rule d reads ++ h.filter fun m ↦ !(m.deviceID = d.id && m.ruleID = rule.id)
    | _ => h
  | _ => h

/-- The engine, and what its pass has not observed. -/
abbrev Watched : Type := Engine × Unobserved

/-- A step of the engine, remembered. -/
abbrev watchedStep : Watched → Label → Option Watched :=
  withHistory step Unobserved.record

/-- The alert is of a rule on a device that the pass has not observed. -/
def Row.unobserved (a : Row) (h : Unobserved) : Bool :=
  h.any fun m ↦ a.of m.deviceID m.ruleID

/-- **A pass in which a service was not observed does not change the state of its alert.** -/
def KeepsUnobserved (w : Watched) (l : Label) (w' : Watched) : Prop :=
  l.ofEngine = true → ∀ a ∈ w.1.alerts, a.live = true → a.unobserved w.2 = true →
    ∃ a' ∈ w'.1.alerts, a'.id = a.id ∧ a'.state = a.state
  deriving Decidable

/-- The pass has come to `AutoResolveIfOpen` by an evaluation that endangers an alert. -/
def Watched.endangers (w : Watched) : Bool :=
  match w.1.phase with
  | .resolving rule d _ => ⟨d.id, rule.id, true⟩ ∈ w.2
  | _ => false

/-- The step resolves alerts for the engine. -/
def Label.resolves : Label → Bool
  | .autoResolve out => out ≠ .failed
  | _ => false

/-- After an evaluation that endangers an alert, `AutoResolveIfOpen` fails. -/
def Spared (w : Watched) (l : Label) : Prop :=
  w.endangers = true → l.resolves = false
  deriving Decidable

section

variable {e t : Engine} {l : Label} {w w' : Watched} {rule : Rule} {d : Listed}
  {todo : List (Rule × Listed)} {reads : Reads} {m : Missed}

/-! ### The rule and the loop -/

/-- Without an observation, **the condition does not hold** as long as the configuration decodes. -/
theorem evaluateRule_of_unobserved (hserv : rule.ruleType = .service)
    (hans : reads.answer.services = none) :
    evaluateRule rule d reads = rule.serviceName.map fun _ ↦ none := by
  simp only [evaluateRule, hserv, hans]
  cases rule.serviceName <;> simp

theorem mem_misses : m ∈ e.misses rule d reads ↔ rule.ruleType = .service ∧ reads.answer.services =
    none ∧ m = ⟨d.id, rule.id, rule.serviceName.isSome && 0 < e.liveAlerts d.id rule.id⟩ := by
  unfold Engine.misses
  split_ifs with hmiss
  · simp [hmiss]
  · simpa using fun hserv hans ↦ absurd ⟨hserv, hans⟩ hmiss

/-- When `AutoResolveIfOpen` is next without an observation, an alert was endangered, or there is
none. -/
def Endangered (w : Watched) : Prop :=
  ∀ rule d todo, w.1.phase = .resolving rule d todo → ∀ m ∈ w.2, m.deviceID = d.id →
    m.ruleID = rule.id → m.endangers = true ∨ w.1.liveAlerts d.id rule.id = 0

theorem Endangered.step (hw : Endangered w) (h : watchedStep w l = some w') : Endangered w' := by
  obtain ⟨t, hstep, rfl⟩ := withHistory_eq_some_iff.1 h
  intro rule d todo hph m hm hdev hrule
  cases moves_of_step hstep with
  | passed _ _ hresolution =>
    obtain ⟨reads, rfl, hevaluating, hevd⟩ := hresolution rule d todo hph
    simp only [Unobserved.record, hevaluating, mem_append, mem_filter] at hm
    obtain hnew | ⟨-, hoth⟩ := hm
    · obtain ⟨hserv, hans, rfl⟩ := mem_misses.1 hnew
      -- the condition would be an error if the configuration did not decode
      rw [evaluateRule_of_unobserved hserv hans, Option.map_eq_some_iff] at hevd
      obtain ⟨name, hname, -⟩ := hevd
      show (rule.serviceName.isSome && decide (0 < w.1.liveAlerts d.id rule.id)) = true ∨
        w.1.liveAlerts d.id rule.id = 0
      rw [hname, Option.isSome_some, Bool.true_and, decide_eq_true_iff]
      exact (Nat.eq_zero_or_pos _).symm
    · simp [hdev, hrule] at hoth
  | opened | resolved =>
    have hwr := congrArg Phase.writes hph
    simp only [Phase.writes_next] at hwr
    cases hwr
  | changed huser hages hals hsame =>
    have hold : w.2.record w.1 l t = w.2 := by
      cases l with
      | listRules | evaluate => cases huser
      | _ => rfl
    rw [hold] at hm
    rcases hsame with hsame | hidle
    · exact (hw rule d todo (hsame ▸ hph) m hm hdev hrule).imp_right fun hnone ↦
        Nat.eq_zero_of_le_zero ((liveAlerts_le hages hals _ _).trans_eq hnone)
    · cases hidle.symm.trans hph

/-! ### Flapping -/

theorem Endangered.keepsUnobserved (hw : Endangered w) (h : watchedStep w l = some w')
    (hspar : Spared w l) :
    KeepsUnobserved w l w' := by
  obtain ⟨t, hstep, rfl⟩ := withHistory_eq_some_iff.1 h
  intro hl a ha hlive hunobserved
  cases moves_of_step hstep with
  | passed => exact ⟨a, ha, rfl, rfl⟩
  | opened => exact ⟨a, mem_append_left _ ha, rfl, rfl⟩
  | @resolved out rule d todo hph hok =>
    refine ⟨a, mem_map.2 ⟨a, ha, if_neg fun hfnd ↦ ?_⟩, rfl, rfl⟩
    obtain ⟨m, hm, hof⟩ := any_eq_true.1 hunobserved
    simp only [Row.of, Bool.and_eq_true, decide_eq_true_eq] at hfnd hof
    obtain ⟨⟨hdev, hrule⟩, -⟩ := hfnd
    have hdev' : m.deviceID = d.id := hof.1.symm.trans hdev
    have hrule' : m.ruleID = rule.id := Option.some.inj (hof.2.symm.trans hrule)
    obtain hendangers | hnone := hw rule d todo hph m hm hdev' hrule'
    · have hfail := hspar (by
        simp only [Watched.endangers, hph, decide_eq_true_eq]
        rwa [← hdev', ← hrule', ← hendangers])
      simp [Label.resolves, hok] at hfail
    · exact countP_eq_zero.1 hnone a ha (by simp [Row.of, hdev, hrule, hlive])
  | changed huser =>
    rw [hl] at huser
    cases huser

/-- **A pass without an observation leaves the alerts of a service alone** if, whenever it so
evaluates a rule, the configuration does not decode, there is no alert to resolve, or
`AutoResolveIfOpen` fails. Otherwise `Evaluate` resolves the alert next, whatever the device has
answered. -/
theorem keepsUnobserved_of_spared (ls : List Label) :
    (Along watchedStep (fun w l _ ↦ Spared w l) (.init, []) ls →
      Along watchedStep KeepsUnobserved (.init, []) ls) ∧
    ∀ (e : Engine) rule d todo reads, e.phase = .evaluating ((rule, d) :: todo) →
      ⟨d.id, rule.id, true⟩ ∈ e.misses rule d reads →
      ∃ t, exec step e [.evaluate reads, .autoResolve .ok] = some t ∧
        t.liveAlerts d.id rule.id = 0 := by
  constructor
  · intro hspar
    refine along_of_invariant (I := Endangered) (fun _ _ _ hw h _ ↦ hw.step h)
      (fun _ _ _ hw h hspar ↦ hw.keepsUnobserved h hspar) (fun _ _ _ h ↦ ?_) hspar
    cases h
  · intro e rule d todo reads hph hmiss
    obtain ⟨hserv, hans, heq⟩ := mem_misses.1 hmiss
    obtain ⟨hname, -⟩ := Bool.and_eq_true_iff.1 (congrArg Missed.endangers heq).symm
    obtain ⟨name, hname⟩ := Option.isSome_iff_exists.1 hname
    have hevd : evaluateRule rule d reads = some none := by
      rw [evaluateRule_of_unobserved hserv hans, hname, Option.map_some]
    have hstep : step e (.evaluate reads) = some { e with phase := .resolving rule d todo } := by
      simp only [step, Engine.evaluate, hph, hevd]
    rw [exec_cons, hstep]
    refine ⟨_, rfl, countP_eq_zero.2 fun a ha hfnd ↦ ?_⟩
    obtain ⟨_, -, rfl⟩ := mem_map.1 ha
    split at hfnd
    · simp [Row.live] at hfnd
    · contradiction

end

namespace Sample

def device : Listed where
  id := 1
  installID := 1
  customerID := none
  groupID := none
  displayName := ['p', 'c']
  hostname := none
  osFamily := none
  osName := none
  osVersion := none
  architecture := none
  agentVersion := none
  status := .online
  health := .healthy
  healthReasons := none
  tags := none
  lastSeenAt := none
  lastPublicIP := none
  transportSecure := none

/-- The service `ssh` is to be running on every device. -/
def rule : Rule where
  id := 7
  scopeType := .global
  scopeID := none
  ruleType := .service
  config := .obj [("service_name".toList, .str ['s', 's', 'h'])]
  enabled := true

/-- A pass up to the evaluation of the rule. -/
def pass (answer : Answer) : List Label :=
  [.listRules (some [7]), .listDevices (some [device]), .evaluate ⟨none, answer⟩]

/-- The service has stopped and an alert is opened; in the next pass the answer is another. -/
def flap (answer : Answer) (out : Outcome) : List Label :=
  ([.createRule rule] : List Label) ++
    pass (.result "success".toList [⟨['s', 's', 'h'], [], "stopped".toList⟩]) ++
      ([.selectExisting true, .insert 3 .ok] : List Label) ++ pass answer ++
        ([.autoResolve out] : List Label)

end Sample

/-- `AutoResolveIfOpen` fails in the pass in which the device is not connected. -/
theorem keepsUnobserved_of_spared_failed :
    Along watchedStep KeepsUnobserved (.init, []) (Sample.flap .offline .failed) :=
  (keepsUnobserved_of_spared _).1 (by decide +kernel)

/-- The alert is resolved if the device is not connected, does not answer, or answers something
else. -/
theorem not_keepsUnobserved :
    ¬ Along watchedStep KeepsUnobserved (.init, []) (Sample.flap .offline .ok) ∧
      ¬ Along watchedStep KeepsUnobserved (.init, []) (Sample.flap .noAnswer .ok) ∧
      ¬ Along watchedStep KeepsUnobserved (.init, []) (Sample.flap .undecodable .ok) ∧
      ¬ Along watchedStep KeepsUnobserved (.init, []) (Sample.flap (.result "error".toList [])
        .ok) := by
  decide +kernel

end WartungsRemote.Alerting
