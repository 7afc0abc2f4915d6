import WartungsRemote.Auth.Grants
import WartungsRemote.Auth.Tables
import WartungsRemote.Transition.Run

/-!
# The last administrator

`handleSetUserStatus`: a user who holds `user.manage` sets the status of a user, but nobody disables
or locks **themselves**. So requests that come one after the other leave an administrator. But who
asks is looked at when a request begins, and the status is written later: two administrators who
disable **each other** at the same time are both disabled (`not_hasAdministrator_crossed`).

What a request does after it has written the status, and `mfa_required`, concern no status and are
left out. No request changes a grant.
-/

namespace WartungsRemote.Auth.Administrators

open Transition

/-- A request that has passed its checks and has the status still to write. -/
structure Request where
  actor : UUID
  target : UUID
  status : UserStatus

structure State where
  users : List User
  requests : ReqID → Option Request

inductive Label
  /-- `RequireSession` reads the user, and the handler makes its checks. -/
  | check (n : ReqID) (actor target : UUID) (status : UserStatus)
  /-- `SetStatus`, which takes effect or not, and the request is over. -/
  | setStatus (n : ReqID) (effect : Bool)

def Active (users : List User) (id : UUID) : Prop :=
  ∃ u ∈ users, u.id = id ∧ u.status = .active
  deriving Decidable

section

variable (grants : UUID → List PermissionGrant)

def step (s : State) : Label → Option State
  | .check n actor target status =>
    if s.requests n = none ∧ Active s.users actor ∧ HasAnyGrant (grants actor) .userManage then
      -- "cannot disable/lock your own account"
      if target = actor ∧ status ≠ .active then some s
      else some { s with requests := Function.update s.requests n (some ⟨actor, target, status⟩) }
    else none
  | .setStatus n effect =>
    (s.requests n).map fun r ↦
      { users :=
          if effect then updateUser s.users r.target fun u ↦
            { u with status := r.status, lockedUntil := none }
          else s.users
        requests := Function.update s.requests n none }

/-- Some user who holds `user.manage` is active. -/
def HasAdministrator (s : State) : Prop :=
  ∃ u ∈ s.users, HasAnyGrant (grants u.id) .userManage ∧ u.status = .active
  deriving Decidable

/-- Whoever has asked for a status is still active when it is written. -/
def Current (s : State) : Label → Prop
  | .check _ _ _ _ => True
  | .setStatus n _ => ∀ r ∈ s.requests n, Active s.users r.actor

instance (s : State) : DecidablePred (Current s) := by
  rintro (_ | _) <;> unfold Current <;> infer_instance

/-- What a request has checked. -/
structure Request.Checked (r : Request) : Prop where
  manages : HasAnyGrant (grants r.actor) .userManage
  self : r.target = r.actor → r.status = .active

/-- There is an administrator, and every request was checked. -/
structure AdministratorInv (s : State) : Prop where
  administrator : HasAdministrator grants s
  requests : ∀ n r, s.requests n = some r → r.Checked grants

end

variable {grants : UUID → List PermissionGrant} {s t : State} {l : Label}

/-- A request leaves the user who has made it active. -/
theorem active_of_setStatus {r : Request} (h : Active s.users r.actor)
    (hself : r.target = r.actor → r.status = .active) :
    Active (updateUser s.users r.target fun u ↦ { u with status := r.status, lockedUntil := none })
      r.actor := by
  obtain ⟨u, hu, hid, hact⟩ := h
  refine ⟨_, List.mem_map_of_mem hu, ?_⟩
  split
  next heq => exact ⟨hid, hself (heq.symm.trans hid)⟩
  · exact ⟨hid, hact⟩

theorem AdministratorInv.setRequest (h : AdministratorInv grants s) {n : ReqID} {o : Option Request}
    (ho : ∀ r, o = some r → r.Checked grants) :
    ∀ m r, Function.update s.requests n o m = some r → r.Checked grants :=
  (Function.forall_update_iff s.requests fun _ o ↦ ∀ r, o = some r → r.Checked grants).2
    ⟨ho, fun m _ ↦ h.requests m⟩

/-- Whoever asks is still active, and is not the one they disable. -/
theorem AdministratorInv.step (h : AdministratorInv grants s) (hstep : step grants s l = some t)
    (hcurr : Current s l) : AdministratorInv grants t := by
  cases l with
  | check n actor target status =>
    simp only [step] at hstep
    split_ifs at hstep with hactor hself <;> cases hstep
    · exact h
    · refine ⟨h.administrator, h.setRequest ?_⟩
      rintro r ⟨⟩
      exact ⟨hactor.2.2, fun heq ↦ not_not.1 fun hne ↦ hself ⟨heq, hne⟩⟩
  | setStatus n effect =>
    obtain ⟨r, hr, rfl⟩ := Option.map_eq_some_iff.1 hstep
    have hchecked := h.requests n r hr
    refine ⟨?_, h.setRequest (by simp)⟩
    cases effect with
    | false => exact h.administrator
    | true =>
      obtain ⟨u, hu, hid, hact⟩ := active_of_setStatus (hcurr r hr) hchecked.self
      exact ⟨u, hu, hid ▸ hchecked.manages, hact⟩

/-- **There is an administrator at all times**, if there is one at first and whoever asks for a
status is still active when it is written. -/
theorem hasAdministrator_of_current {ls : List Label} (h₀ : HasAdministrator grants s)
    (hidle : ∀ n, s.requests n = none) (hrun : exec (step grants) s ls = some t)
    (hcurr : Along (step grants) (fun s l _ ↦ Current s l) s ls) : HasAdministrator grants t :=
  (invariant_of_along (fun _ _ _ h hstep hcurr ↦ AdministratorInv.step h hstep hcurr)
    ⟨h₀, by simp [hidle]⟩ hrun hcurr).administrator

namespace Sample

/-- Everybody holds `user.manage`. -/
def manages (_ : UUID) : List PermissionGrant :=
  [⟨.userManage, .global, none⟩]

def user (id : UUID) : User :=
  ⟨id, [], [], .active, false, 0, none, none⟩

def init : State :=
  ⟨[user 1, user 2], fun _ ↦ none⟩

end Sample

open Sample

theorem hasAdministrator_of_current_sample : ∃ t, exec (step manages) init
    [.check 0 1 2 .disabled, .check 1 1 1 .locked, .setStatus 0 true] = some t ∧
      HasAdministrator manages t :=
  exists_of_exec (fun _ ↦ True) (by decide +kernel) fun _ hrun _ ↦
    hasAdministrator_of_current (by decide) (fun _ ↦ rfl) hrun (by decide +kernel)

/-- Two administrators disable each other. -/
theorem not_hasAdministrator_crossed : HasAdministrator manages init ∧
    ∃ t, exec (step manages) init
      [.check 0 1 2 .disabled, .check 1 2 1 .disabled, .setStatus 0 true, .setStatus 1 true] =
        some t ∧
      ¬ HasAdministrator manages t :=
  ⟨by decide, exists_of_exec _ (by decide +kernel) fun _ _ h ↦ h⟩

end WartungsRemote.Auth.Administrators
