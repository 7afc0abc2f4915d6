import WartungsRemote.RemoteSession.Calls

/-!
# Opens that fail

A call of `OpenTerminal` or `OpenTunnel` that has created its row can return an error at three
places (`Stmt.exit`): after `Repo.Close` when the agent could not be asked, did not answer in time
or has declined; when `SetState` fails; and, for a tunnel, when the ticket cannot be generated or
inserted. **Only the first of them closes the row**, and it does so in the context of the request,
which may be what has failed. So a failed open leaves a row behind that is in no final state, unless
somebody else has ended it in the meantime (`failsClosed_iff`). Failing to generate the ticket is a
`createTunnel` that fails without an effect.
-/

namespace WartungsRemote.RemoteSession

open Transition List State

/-- The session whose opening returns an error when the statement ends so. -/
def Stmt.exit (out : Outcome) : Stmt → Option UUID
  | .close id .failed _ => some id
  | .setState id _ | .createTunnel id => if out = .ok then none else some id
  | _ => none

namespace State

/-- The session whose opening returns an error in a step. -/
def fails (s : State) : Label → Option UUID
  | .exec tid out =>
    match s.threads tid with
    | some (.running (stmt :: _)) => stmt.exit out
    | _ => none
  | _ => none

/-- The session is in a final state. -/
def Final (s : State) (id : UUID) : Prop :=
  ∃ r ∈ s.sessions, r.id = id ∧ r.state.final = true
  deriving Decidable

end State

/-- **A failed open leaves nothing open.** -/
def FailsClosed (s : State) (l : Label) (t : State) : Prop :=
  ∀ id ∈ s.fails l, t.Final id

instance (s : State) (l : Label) (t : State) : Decidable (FailsClosed s l t) :=
  Option.decidableForallMem _

/-- The condition on a step in which a call returns an error: the call closes its row, and
`Repo.Close` takes effect; or somebody else has ended the session, and the call does not make it
active. -/
def Settled (s : State) (l : Label) : Prop :=
  ∀ id ∈ s.fails l, (∃ reason, s.makes l = some (.close id .failed reason)) ∨
    s.Final id ∧ s.makes l ≠ some (.setState id .active)

variable {s t : State} {l : Label} {w : Called} {id : UUID}

theorem fails_eq_some (h : s.fails l = some id) :
    ∃ tid out stmt rest, l = .exec tid out ∧ s.threads tid = some (.running (stmt :: rest)) ∧
      stmt.exit out = some id := by
  cases l with
  | exec tid out =>
    simp only [fails] at h
    split at h
    next stmt rest hth => exact ⟨tid, out, stmt, rest, rfl, hth, h⟩
    · cases h
  | _ => cases h

theorem exit_eq_some {out : Outcome} {stmt : Stmt} (h : stmt.exit out = some id) :
    (∃ reason, stmt = .close id .failed reason) ∨
      out ≠ .ok ∧ ((∃ state, stmt = .setState id state) ∨ stmt = .createTunnel id) := by
  cases stmt with
  | close _ state reason =>
    cases state with
    | failed =>
      cases h
      exact .inl ⟨reason, rfl⟩
    | _ => cases h
  | setState _ state =>
    simp only [Stmt.exit] at h
    split_ifs at h
    next hout =>
      cases h
      exact .inr ⟨hout, .inl ⟨state, rfl⟩⟩
  | createTunnel =>
    simp only [Stmt.exit] at h
    split_ifs at h
    next hout =>
      cases h
      exact .inr ⟨hout, .inr rfl⟩
  | _ => cases h

theorem owns_of_exit (hw : CallInv w) {tid : ThreadID} {out : Outcome} {stmt : Stmt}
    {rest : List Stmt} (hth : w.1.threads tid = some (.running (stmt :: rest)))
    (h : stmt.exit out = some id) :
    Owns w tid id := by
  have hfits := hw.threads tid _ hth stmt mem_cons_self
  obtain ⟨_, rfl⟩ | ⟨-, ⟨_, rfl⟩ | rfl⟩ := exit_eq_some h
  · exact hfits
  · exact hfits.2
  · exact hfits

theorem final_close {reason : String} (hhas : s.Has id) :
    ((Stmt.close id .failed reason).run s).Final id := by
  obtain ⟨r, hr, hid⟩ := mem_map.1 hhas
  exact ⟨_, mem_map_of_mem hr, by simp [hid], by simp [hid, SessionState.final]⟩

theorem not_final_setState : ¬ ((Stmt.setState id .active).run s).Final id := by
  rintro ⟨r, hr, hid, hfin⟩
  obtain ⟨_, -, rfl⟩ := mem_map.1 hr
  split at hfin
  · cases hfin
  next hne =>
    rw [if_neg hne] at hid
    exact hne hid

/-- A call that returns an error has closed its row, or the row was final and stays so. -/
theorem failsClosed_step_iff (hw : CallInv w) (h : step w.1 l = some t) :
    FailsClosed w.1 l t ↔ Settled w.1 l := by
  refine forall₂_congr fun id hfails ↦ ?_
  obtain ⟨tid, out, stmt, _, rfl, hth, hexit⟩ := fails_eq_some hfails
  have hown := owns_of_exit hw hth hexit
  have hsess : t.sessions = (stmt.attempt w.1 out).sessions := by
    obtain ⟨_, _, _, ⟨⟩, -, rfl⟩ := exec_of_running h hth
    rfl
  have hfin : t.Final id ↔ (stmt.attempt w.1 out).Final id := by
    unfold Final
    rw [hsess]
  rw [hfin]
  by_cases hfail : out = .failed
  · simp [makes, hth, hfail, Stmt.attempt]
  have hmakes : w.1.makes (.exec tid out) = some stmt := by simp [makes, hth, hfail]
  rw [hmakes, Stmt.attempt, if_neg hfail]
  obtain ⟨reason, rfl⟩ | ⟨-, ⟨state, rfl⟩ | rfl⟩ := exit_eq_some hexit
  · exact iff_of_true (final_close hown.1) (.inl ⟨reason, rfl⟩)
  · obtain rfl : state = .active := (hw.threads tid _ hth _ mem_cons_self).1
    refine iff_of_false not_final_setState ?_
    rintro (⟨reason, ⟨⟩⟩ | ⟨-, hne⟩)
    exact hne rfl
  · simp [Stmt.run]

/-- **A failed open leaves nothing open, exactly if every call that returns an error has closed its
row or finds the session ended by somebody else.** -/
theorem failsClosed_iff (ls : List Label) :
    Along step FailsClosed .init ls ↔ Along step (fun s l _ ↦ Settled s l) .init ls := by
  rw [← along_withHistory Calls.record .init, ← along_withHistory Calls.record .init]
  refine along_congr_of_invariant (I := CallInv) (fun _ _ _ hw h ↦ hw.step h) (fun w l w' hw h ↦
    ?_) callInv_init
  obtain ⟨t, hstep, rfl⟩ := withHistory_eq_some_iff.1 h
  exact failsClosed_step_iff hw hstep

/-- The ticket is not inserted; `SetState` fails; the request is cancelled while the agent is asked,
and so is the closing of the row. -/
theorem not_failsClosed : ¬ Along step FailsClosed .init
        [.openTunnel 0 1 2 3 .sshTunnel 100, .agentReply 0 .success, .exec (.request 0) .ok,
          .exec (.request 0) .failed] ∧
      ¬ Along step FailsClosed .init
        [.openTerminal 0 1 2 3 none 100, .openMaintenance 0 none, .agentReply 0 .success,
          .exec (.request 0) .failed] ∧
      ¬ Along step FailsClosed .init
        [.openTunnel 0 1 2 3 .sshTunnel 100, .agentReply 0 .unreachable,
          .exec (.request 0) .failed] := by
  decide +kernel

end WartungsRemote.RemoteSession
