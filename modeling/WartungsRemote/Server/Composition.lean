import WartungsRemote.RemoteSession.Service

/-!
# The server

The control hub and the session service as `NewRouter` wires them together. They share a clock, they
stop and start together, and the hub's disconnect handler is the session service's: the step in
which `ServeAgentWS` calls it is at once the step in which `InterruptAllForDevice` runs. All other
steps are steps of one of the two.

The handlers look at `IsOnline` before they call `OpenTerminal` and `OpenTunnel`, but a connection
may be gone by then, and `SendAndWait` finds that out for itself.
-/

namespace WartungsRemote.Server

open Option RemoteSession
open ControlHub (ConnID)

/-- The two components, and the device a `ServeAgentWS` run passed to the disconnect handler. -/
structure State where
  hub : ControlHub.State
  svc : RemoteSession.State
  notified : ConnID → Option UUID

/-- An empty installation before its first request. -/
def State.init : State where
  hub := .init
  svc := .init
  notified _ := none

inductive Label
  | tick (d : ℕ)
  /-- A step of the hub alone. -/
  | hub (l : ControlHub.Label)
  /-- A step of the session service alone. -/
  | session (l : RemoteSession.Label)
  /-- The teardown of connection `c` calls the disconnect handler. -/
  | notify (c : ConnID) (out : Outcome) (rows : List InterruptedSession)
  | restart (out : Outcome) (rows : List InterruptedSession)

/-- The steps of the hub that are steps of the whole server. -/
def sharedByHub : ControlHub.Label → Bool
  | .tick _ | .notify _ | .restart => true
  | _ => false

/-- The steps of the session service that are steps of the whole server. -/
def sharedBySessions : RemoteSession.Label → Bool
  | .tick _ | .interruptDevice _ _ _ _ | .restart _ _ => true
  | _ => false

/-- `ServeAgentWS` calls the disconnect handler with the device of its connection. -/
def State.notify (cfg : ControlHub.Config) (s : State) (c : ConnID) (out : Outcome)
    (rows : List InterruptedSession) : Option State :=
  match s.hub.phase c with
  | .lost conn =>
    (ControlHub.step cfg s.hub (.notify c)).bind fun hub ↦
      (s.svc.interruptDevice c conn.deviceID out rows).map fun svc ↦
        { hub, svc, notified := Function.update s.notified c (some conn.deviceID) }
  | _ => none

/-- One step of the server. -/
def step (cfg : ControlHub.Config) (s : State) : Label → Option State
  | .tick d =>
    (ControlHub.step cfg s.hub (.tick d)).bind fun hub ↦
      (RemoteSession.step s.svc (.tick d)).map fun svc ↦ { s with hub, svc }
  | .hub l =>
    if sharedByHub l then none
    else (ControlHub.step cfg s.hub l).map fun hub ↦ { s with hub }
  | .session l =>
    if sharedBySessions l then none
    else (RemoteSession.step s.svc l).map fun svc ↦ { s with svc }
  | .notify c out rows => s.notify cfg c out rows
  | .restart out rows =>
    (ControlHub.step cfg s.hub .restart).bind fun hub ↦
      (RemoteSession.step s.svc (.restart out rows)).map fun svc ↦ { s with hub, svc }

section Inversion

variable {cfg : ControlHub.Config} {s t : State}

theorem step_hub_eq_some {l : ControlHub.Label} (h : step cfg s (.hub l) = some t) :
    ∃ hub, ControlHub.step cfg s.hub l = some hub ∧ t = { s with hub } := by
  simp only [step] at h
  split_ifs at h
  · obtain ⟨hub, hhub, rfl⟩ := map_eq_some_iff.1 h
    exact ⟨hub, hhub, rfl⟩

theorem step_session_eq_some {l : RemoteSession.Label} (h : step cfg s (.session l) = some t) :
    sharedBySessions l = false ∧ ∃ svc, RemoteSession.step s.svc l = some svc ∧
      t = { s with svc } := by
  simp only [step] at h
  split_ifs at h
  next hl =>
    obtain ⟨svc, hsvc, rfl⟩ := map_eq_some_iff.1 h
    exact ⟨by simpa using hl, svc, hsvc, rfl⟩

theorem step_notify_eq_some {c : ConnID} {out : Outcome} {rows : List InterruptedSession}
    (h : step cfg s (.notify c out rows) = some t) : ∃ conn svc, s.hub.phase c = .lost conn ∧
      s.svc.interruptDevice c conn.deviceID out rows = some svc ∧
      t = { hub := s.hub.setPhase c .finished, svc,
            notified := Function.update s.notified c (some conn.deviceID) } := by
  simp only [step, State.notify] at h
  split at h
  next conn hph =>
    obtain ⟨hub, hhub, hmap⟩ := bind_eq_some_iff.1 h
    obtain ⟨svc, hsvc, rfl⟩ := map_eq_some_iff.1 hmap
    refine ⟨conn, svc, hph, hsvc, ?_⟩
    simp only [ControlHub.step, ControlHub.State.notify, hph, some.injEq] at hhub
    rw [hhub]
  · cases h

end Inversion

end WartungsRemote.Server
