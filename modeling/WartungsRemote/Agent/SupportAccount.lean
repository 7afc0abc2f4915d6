import WartungsRemote.Agent.Policy
import WartungsRemote.Transition.Run

/-!
# The support account

`EnsureSupportAccount` gives the account for remote support a new password, and the agent
**reports** it to the server afterwards. Two tasks do so: the provisioning, which every connection
starts and which does nothing if a marker file says that it has succeeded before, and the command to
rotate the password, in the read loop of a connection. A task of a connection that is gone may still
be running when the next one is established.

The server and the device agree when everything is quiet, unless a password is set while another one
is set and not reported, or a report **fails** although the server has a password, which the
rotation does not try again (`agreement_of_careful`).

Reports are stored in the order in which they were written. A disconnect may lose the last ones, and
the server may fail to store one. The password itself stands for the encrypted row.
-/

namespace WartungsRemote.Agent.SupportAccount

open Transition Option

structure Credential where
  username : String
  password : String
  deriving DecidableEq

def supportAccountUsername : String := "remotewartung"

inductive Kind
  | provision
  /-- The command `rotate_support_credential`. -/
  | rotate
  deriving DecidableEq

inductive Phase
  /-- Before `os.Stat` of the marker. -/
  | checking
  /-- Before `EnsureSupportAccount`. -/
  | ready
  /-- The password is set, and not reported. -/
  | ensured (c : Credential)
  /-- The report is written; the marker is not. -/
  | reported
  | done
  deriving DecidableEq

/-- The password is set and not reported. -/
def Phase.unreported : Phase → Bool
  | ensured _ => true
  | _ => false

/-- A task, with the connection that it writes to. -/
structure Task where
  conn : ℕ
  kind : Kind
  phase : Phase

structure State where
  /-- The password of the account. -/
  account : Option String
  /-- The passwords generated so far. -/
  generated : List String
  marker : Bool
  /-- The number of connections so far. -/
  conns : ℕ
  connected : Bool
  tasks : List Task
  /-- The reports that are on their way. -/
  wire : List Credential
  /-- The reports that were written, and will not be stored. -/
  lost : List Credential
  /-- The row of `device_support_credentials`. -/
  stored : Option Credential

def State.init : State where
  account := none
  generated := []
  marker := false
  conns := 0
  connected := false
  tasks := []
  wire := []
  lost := []
  stored := none

inductive Label
  | connect
  /-- The connection ends; the first reports on their way arrive. -/
  | disconnect (arriving : ℕ)
  /-- The server sends the command to rotate the password. -/
  | rotate
  /-- A task looks for the marker. -/
  | check (i : ℕ)
  /-- `EnsureSupportAccount` of a task, with a generated password. It may fail, and may have set it
  then. -/
  | ensure (i : ℕ) (password : String) (set ok : Bool)
  /-- A task writes its report, or fails to. -/
  | report (i : ℕ) (ok : Bool)
  /-- A task writes the marker, or fails to. -/
  | mark (i : ℕ) (ok : Bool)
  /-- The server stores a report (`Repo.Upsert`), or fails to. -/
  | store (ok : Bool)

namespace State

variable (policy : AgentPolicy) (s : State)

/-- The task comes to the given phase. -/
def setPhase (i : ℕ) (phase : Phase) : State :=
  { s with tasks := s.tasks.modify i fun task ↦ { task with phase } }

/-- `runSession` after the handshake. -/
def connect : Option State :=
  if s.connected then none
  else
    some { s with
      conns := s.conns + 1
      connected := true
      tasks := if policy.tunnels then s.tasks ++ [⟨s.conns, .provision, .checking⟩] else s.tasks }

def disconnect (arriving : ℕ) : Option State :=
  if s.connected then
    some { s with
      connected := false
      wire := s.wire.take arriving
      lost := s.lost ++ s.wire.drop arriving }
  else none

/-- The read loop of the connection is at a command. -/
def reading : Prop :=
  s.connected = true ∧ ∀ task ∈ s.tasks, task.kind = .rotate → task.conn + 1 = s.conns →
    task.phase = .done
  deriving Decidable

/-- The command, which is denied if the policy allows no tunnel. -/
def rotate : Option State :=
  if s.reading then
    some { s with
      tasks := if policy.tunnels then s.tasks ++ [⟨s.conns - 1, .rotate, .ready⟩] else s.tasks }
  else none

def check (i : ℕ) : Option State :=
  match s.tasks[i]? with
  | some ⟨_, _, .checking⟩ => some (s.setPhase i (if s.marker then .done else .ready))
  | _ => none

def ensure (i : ℕ) (password : String) (set ok : Bool) : Option State :=
  match s.tasks[i]? with
  | some ⟨_, _, .ready⟩ =>
    if password ∈ s.generated ∨ (ok = true ∧ set = false) then none
    else
      some { s.setPhase i (if ok then .ensured ⟨supportAccountUsername, password⟩ else .done) with
             account := if set then some password else s.account
             generated := password :: s.generated }
  | _ => none

/-- A write succeeds only on the present connection. The provisioning then writes the marker; the
rotation is over. -/
def report (i : ℕ) (ok : Bool) : Option State :=
  match s.tasks[i]? with
  | some ⟨conn, kind, .ensured c⟩ =>
    if ok then
      if s.connected = true ∧ conn + 1 = s.conns then
        some { s.setPhase i (if kind = .provision then .reported else .done) with
          wire := s.wire ++ [c] }
      else none
    else some (s.setPhase i .done)
  | _ => none

def mark (i : ℕ) (ok : Bool) : Option State :=
  match s.tasks[i]? with
  | some ⟨_, _, .reported⟩ => some { s.setPhase i .done with marker := s.marker || ok }
  | _ => none

def store (ok : Bool) : Option State :=
  match s.wire with
  | c :: wire =>
    if ok then some { s with wire, stored := some c }
    else some { s with wire, lost := s.lost ++ [c] }
  | [] => none

end State

def step (policy : AgentPolicy) (s : State) : Label → Option State
  | .connect => s.connect policy
  | .disconnect arriving => s.disconnect arriving
  | .rotate => s.rotate policy
  | .check i => s.check i
  | .ensure i password set ok => s.ensure i password set ok
  | .report i ok => s.report i ok
  | .mark i ok => s.mark i ok
  | .store ok => s.store ok

/-! ### Agreement -/

/-- The agent is connected, no task is running, and every written report is stored. -/
def State.Quiet (s : State) : Prop :=
  s.connected = true ∧ (∀ task ∈ s.tasks, task.phase = .done) ∧ s.wire = [] ∧ s.lost = []
  deriving Decidable

/-- **The server and the device agree**: when all is quiet, the server has the password of the
account. -/
def Agreement (s : State) : Prop :=
  s.Quiet → ∀ c ∈ s.stored, s.account = some c.password
  deriving Decidable

/-- The credential that the server will have when it has stored what is on its way. -/
def State.upcoming (s : State) : Option Credential :=
  s.wire.getLast?.or s.stored

/-- The condition on a step: a password is set only if no other one is set and not reported, and a
report (or an `EnsureSupportAccount` that has set one) fails only if the server has none, and gets
none. -/
def Careful (s : State) : Label → Prop
  | .ensure _ _ set ok =>
    set = true → (∀ task ∈ s.tasks, task.phase.unreported = false) ∧
      (ok = false → s.upcoming = none)
  | .report _ ok => ok = false → s.upcoming = none
  | _ => True

instance (s : State) : DecidablePred (Careful s) := by
  rintro (_ | _) <;> unfold Careful <;> infer_instance

/-! ### What a step does -/

section Steps

variable {policy : AgentPolicy} {s t : State} {i : ℕ}

theorem check_eq_some (h : s.check i = some t) : ∃ task, s.tasks[i]? = some task ∧
    task.phase.unreported = false ∧ t = s.setPhase i (if s.marker then .done else .ready) := by
  unfold State.check at h
  split at h
  next htask => exact ⟨_, htask, rfl, (some.inj h).symm⟩
  · cases h

theorem ensure_eq_some {password : String} {set ok : Bool}
    (h : s.ensure i password set ok = some t) :
    ∃ task, s.tasks[i]? = some task ∧ task.phase.unreported = false ∧ (ok = true → set = true) ∧
      t = { s.setPhase i (if ok then .ensured ⟨supportAccountUsername, password⟩ else .done) with
            account := if set then some password else s.account
            generated := password :: s.generated } := by
  unfold State.ensure at h
  split at h
  next htask =>
    by_cases hgrd : password ∈ s.generated ∨ (ok = true ∧ set = false)
    · rw [if_pos hgrd] at h
      cases h
    · rw [if_neg hgrd] at h
      refine ⟨_, htask, rfl, fun hok ↦ ?_, (some.inj h).symm⟩
      exact eq_true_of_ne_false fun hset ↦ hgrd (.inr ⟨hok, hset⟩)
  · cases h

theorem report_eq_some {ok : Bool} (h : s.report i ok = some t) :
    ∃ conn kind c, s.tasks[i]? = some ⟨conn, kind, .ensured c⟩ ∧
      ((ok = true ∧
        t = { s.setPhase i (if kind = .provision then .reported else .done) with
          wire := s.wire ++ [c] }) ∨ (ok = false ∧ t = s.setPhase i .done)) := by
  unfold State.report at h
  split at h
  next conn kind c htask =>
    refine ⟨conn, kind, c, htask, ?_⟩
    cases ok with
    | true =>
      rw [if_pos rfl] at h
      by_cases hconn : s.connected = true ∧ conn + 1 = s.conns
      · rw [if_pos hconn] at h
        exact .inl ⟨rfl, (some.inj h).symm⟩
      · rw [if_neg hconn] at h
        cases h
    | false => exact .inr ⟨rfl, (some.inj h).symm⟩
  · cases h

theorem mark_eq_some {ok : Bool} (h : s.mark i ok = some t) : ∃ task, s.tasks[i]? = some task ∧
    task.phase.unreported = false ∧ t = { s.setPhase i .done with marker := s.marker || ok } := by
  unfold State.mark at h
  split at h
  next htask => exact ⟨_, htask, rfl, (some.inj h).symm⟩
  · cases h

variable {phase : Phase} {task : Task}

theorem mem_setPhase (h : task ∈ (s.setPhase i phase).tasks) :
    task ∈ s.tasks ∨ task.phase = phase := by
  obtain ⟨j, hj⟩ := List.mem_iff_getElem?.1 h
  simp only [State.setPhase, List.getElem?_modify] at hj
  obtain ⟨_, htask₀, rfl⟩ := map_eq_some_iff.1 hj
  split_ifs
  · exact .inr rfl
  · exact .inl (List.mem_of_getElem? htask₀)

theorem mem_setPhase_of_ne {task₀ : Task} (hi : s.tasks[i]? = some task₀) (h : task ∈ s.tasks)
    (hne : task ≠ task₀) : task ∈ (s.setPhase i phase).tasks := by
  obtain ⟨j, hj⟩ := List.mem_iff_getElem?.1 h
  refine List.mem_of_getElem? (i := j) ?_
  have hij : i ≠ j := by
    rintro rfl
    exact hne (some.inj (hj.symm.trans hi))
  rw [State.setPhase, List.getElem?_modify_ne _ _ hij, hj]

theorem setPhase_mem (hi : s.tasks[i]? = some task) :
    { task with phase } ∈ (s.setPhase i phase).tasks := by
  refine List.mem_of_getElem? (i := i) ?_
  rw [State.setPhase, List.getElem?_modify_eq, hi]
  rfl

end Steps

/-! ### The invariant -/

/-- A password that is set and not reported is the account's; and without one, and nothing lost, the
server will have the password of the account. -/
structure Coherent (s : State) : Prop where
  current : ∀ task ∈ s.tasks, ∀ c, task.phase = .ensured c → s.account = some c.password
  upcoming : s.lost = [] → ∀ c ∈ s.upcoming,
    s.account = some c.password ∨ ∃ task ∈ s.tasks, task.phase.unreported = true

namespace Coherent

variable {policy : AgentPolicy} {s t : State} {i : ℕ}

theorem init : Coherent .init where
  current := nofun
  upcoming := nofun

variable {task : Task} {ok : Bool}

section

variable (h : Coherent s)
include h

theorem addTask (htask : task.phase.unreported = false) (conns : ℕ) (connected : Bool) :
    Coherent { s with conns, connected, tasks := s.tasks ++ [task] } where
  current task' htask' c hc := by
    obtain hold | hnew := List.mem_snoc.1 htask'
    · exact h.current task' hold c hc
    · rw [← hnew, hc] at htask
      cases htask
  upcoming hlost c hc := by
    refine (h.upcoming hlost c hc).imp_right ?_
    rintro ⟨task', htask', hun⟩
    exact ⟨task', List.mem_append_left _ htask', hun⟩

theorem current_setPhase {phase : Phase} (hph : ∀ c, phase ≠ .ensured c) :
    ∀ task ∈ (s.setPhase i phase).tasks, ∀ c, task.phase = .ensured c →
      s.account = some c.password := by
  intro task htask c hc
  obtain hold | hnew := mem_setPhase htask
  · exact h.current task hold c hc
  · exact absurd (hnew.symm.trans hc) (hph c)

theorem setPhase (phase : Phase) (htask : s.tasks[i]? = some task)
    (hbef : task.phase.unreported = false) (haft : phase.unreported = false) :
    Coherent (s.setPhase i phase) where
  current := h.current_setPhase fun c hc ↦ by simp [hc, Phase.unreported] at haft
  upcoming hlost c hc := by
    refine (h.upcoming hlost c hc).imp_right ?_
    rintro ⟨task', htask', hun⟩
    refine ⟨task', mem_setPhase_of_ne htask htask' ?_, hun⟩
    rintro rfl
    cases hbef.symm.trans hun

theorem disconnect {arriving : ℕ} : Coherent { s with
    connected := false
    wire := s.wire.take arriving
    lost := s.lost ++ s.wire.drop arriving } where
  current := h.current
  upcoming hlost := by
    -- Nothing is lost, so everything is still on its way.
    obtain ⟨hlost, hdrop⟩ := List.append_eq_nil_iff.1 hlost
    have htake : s.wire.take arriving = s.wire := by
      have hall := List.take_append_drop arriving s.wire
      rwa [hdrop, List.append_nil] at hall
    rw [htake]
    exact h.upcoming hlost

/-- A password is set when no other one is set and not reported. -/
theorem ensure {password : String} {set : Bool} (htask : s.tasks[i]? = some task)
    (hbef : task.phase.unreported = false) (hok : ok = true → set = true)
    (hcare : Careful s (.ensure i password set ok)) :
    Coherent { s.setPhase i (if ok then .ensured ⟨supportAccountUsername, password⟩ else .done) with
      account := if set then some password else s.account
      generated := password :: s.generated } := by
  cases set with
  | false =>
    obtain rfl : ok = false := eq_false_of_ne_true fun h ↦ nomatch hok h
    have h' := h.setPhase .done htask hbef rfl
    exact { h' with }
  | true =>
    obtain ⟨hnone, hfail⟩ := hcare rfl
    constructor
    case current =>
      intro task' htask' c hc
      obtain hold | hnew := mem_setPhase htask'
      · have hun := hnone task' hold
        rw [hc] at hun
        cases hun
      · rw [hc] at hnew
        split_ifs at hnew
        obtain rfl := Phase.ensured.inj hnew
        rfl
    case upcoming =>
      intro hlost c hc
      cases ok with
      | true => exact .inr ⟨_, setPhase_mem htask, rfl⟩
      | false =>
        have hmem : c ∈ s.upcoming := hc
        rw [hfail rfl] at hmem
        cases hmem

theorem report (hs : s.report i ok = some t) (hcare : Careful s (.report i ok)) : Coherent t := by
  obtain ⟨_, _, c, htask, ⟨-, rfl⟩ | ⟨rfl, rfl⟩⟩ := report_eq_some hs
  · have haccount := h.current _ (List.mem_of_getElem? htask) c rfl
    refine ⟨h.current_setPhase fun c' hc' ↦ by split_ifs at hc', fun hlost c' hc' ↦ ?_⟩
    -- The report is the last one on its way.
    simp only [State.upcoming, State.setPhase, List.getLast?_concat, some_or, mem_some_iff] at hc'
    exact .inl (hc' ▸ haccount)
  · refine ⟨h.current_setPhase nofun, fun hlost c' hc' ↦ ?_⟩
    have hmem : c' ∈ s.upcoming := hc'
    rw [hcare rfl] at hmem
    cases hmem

theorem store (hs : s.store ok = some t) : Coherent t := by
  unfold State.store at hs
  split at hs
  next c wire hwire =>
    split_ifs at hs
    · cases hs
      -- What the server will have in the end does not change.
      have hupcoming : s.upcoming = State.upcoming { s with wire, stored := some c } := by
        rw [State.upcoming, State.upcoming, hwire]
        cases wire with
        | nil => rfl
        | cons => rw [List.getLast?_cons_cons, List.getLast?_cons, some_or, some_or]
      exact ⟨h.current, fun hlost ↦ hupcoming ▸ h.upcoming hlost⟩
    · cases hs
      refine ⟨h.current, fun hlost ↦ ?_⟩
      cases (List.append_eq_nil_iff.1 hlost).2
  · cases hs

/-- **Every step keeps the invariant**, if it is careful. -/
theorem step {l : Label} (hs : step policy s l = some t) (hcare : Careful s l) : Coherent t := by
  cases l with
  | connect =>
    simp only [SupportAccount.step, State.connect] at hs
    split_ifs at hs with hconnected htuns
    · cases hs
      exact h.addTask rfl (s.conns + 1) true
    · cases hs
      exact { h with }
  | disconnect =>
    simp only [SupportAccount.step, State.disconnect] at hs
    split_ifs at hs
    cases hs
    exact h.disconnect
  | rotate =>
    simp only [SupportAccount.step, State.rotate] at hs
    split_ifs at hs with hreading htuns
    · cases hs
      exact h.addTask rfl s.conns s.connected
    · cases hs
      exact h
  | check =>
    obtain ⟨task, htask, hbef, rfl⟩ := check_eq_some hs
    refine h.setPhase _ htask hbef ?_
    split_ifs
    · rfl
    · rfl
  | ensure =>
    obtain ⟨task, htask, hbef, hok, rfl⟩ := ensure_eq_some hs
    exact h.ensure htask hbef hok hcare
  | report => exact h.report hs hcare
  | mark =>
    obtain ⟨task, htask, hbef, rfl⟩ := mark_eq_some hs
    have h' := h.setPhase .done htask hbef rfl
    exact { h' with }
  | store => exact h.store hs

theorem agreement : Agreement s := by
  rintro ⟨-, htasks, hwire, hlost⟩ c hc
  have hmem : c ∈ s.upcoming := by
    rw [State.upcoming, hwire]
    exact hc
  obtain haccount | ⟨task, htask, hun⟩ := h.upcoming hlost c hmem
  · exact haccount
  · rw [htasks task htask] at hun
    cases hun

end

end Coherent

/-! ### The password -/

/-- **The server and the device agree**, in every run whose steps are careful. -/
theorem agreement_of_careful {policy : AgentPolicy} {ls : List Label} {s : State}
    (hrun : exec (step policy) .init ls = some s)
    (hcare : Along (step policy) (fun s l _ ↦ Careful s l) .init ls) : Agreement s :=
  (invariant_of_along (fun _ _ _ h hs hl ↦ h.step hs hl) Coherent.init hrun hcare).agreement

/-- The first report fails, the next connection provisions again; later the password is rotated. -/
theorem agreement_of_careful_rotated : ∃ s, exec (step .default) .init
      [.connect, .check 0, .ensure 0 "first" true true, .report 0 false, .disconnect 0, .connect,
        .check 1, .ensure 1 "second" true true, .report 1 true, .mark 1 true, .store true, .rotate,
        .ensure 2 "third" true true, .report 2 true, .store true] = some s ∧
      s.Quiet ∧ s.stored = some ⟨"remotewartung", "third"⟩ ∧ Agreement s := by
  refine exists_of_exec (fun s ↦ s.Quiet ∧ s.stored = some ⟨"remotewartung", "third"⟩)
    (by decide +kernel) fun s hrun ⟨hqui, hstor⟩ ↦ ?_
  exact ⟨hqui, hstor, agreement_of_careful hrun (by decide +kernel)⟩

/-- **A rotation whose report fails is not tried again**: the device has the second password, the
marker says it is provisioned, and the server has the first one. -/
theorem not_agreement_failed_report : ∃ s, exec (step .default) .init
      [.connect, .check 0, .ensure 0 "first" true true, .report 0 true, .mark 0 true, .store true,
        .rotate, .ensure 1 "second" true true, .report 1 false, .disconnect 0, .connect, .check 2] =
          some s ∧
      ¬ Agreement s := by
  exact exists_of_exec _ (by decide +kernel) fun _ _ h ↦ h

/-- The password is set by two tasks at the same time, and reported in the other order. -/
example : (exec (step .default) .init
    [.connect, .check 0, .ensure 0 "first" true true, .rotate, .ensure 1 "second" true true,
      .report 1 true, .report 0 true, .mark 0 true, .store true, .store true]).map (fun s ↦
        decide (Agreement s)) =
    some false := by
  decide +kernel

end WartungsRemote.Agent.SupportAccount
