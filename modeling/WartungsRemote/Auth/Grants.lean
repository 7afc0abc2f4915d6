import WartungsRemote.Device.Registry

/-!
# Permissions and their scopes

A grant gives a permission globally, for a customer, or for a device group. `HasPermission` asks for
a permission on a given resource, and `HasAnyGrant` whether it is held anywhere at all; the second
says nothing about any device.

**The scopes of a caller** are those of all its grants: a resource is in scope if some grant covers
it, whatever the permission (`InScope`). Without a global grant the resource's customer and group
decide (`inScope_iff`).
-/

namespace WartungsRemote.Auth

open List

/-- The permission names. -/
inductive Permission
  | deviceRead | deviceManage | customerRead | customerManage | monitoringRead
  | remoteTerminal | remoteTunnelSSH | remoteTunnelRDP | remoteFilesRead | remoteFilesWrite
  | remoteServiceControl | remoteProcessTerminate | remotePower | privilegeRequest
  | maintenanceRead | maintenanceWrite | auditRead | enrollmentCreate | credentialRevoke
  | agentUpdate | userManage | roleManage | systemSettings | alertManage
  deriving DecidableEq

inductive ScopeType
  | global | customer | group
  deriving DecidableEq

structure PermissionGrant where
  permission : Permission
  scope : ScopeType
  scopeID : Option UUID
  deriving DecidableEq

/-- What a permission is asked for. -/
structure Resource where
  customerID : Option UUID
  groupID : Option UUID
  deriving DecidableEq

/-- The branches of the `switch` over a grant's scope. -/
def PermissionGrant.covers (g : PermissionGrant) (resource : Resource) : Bool :=
  match g.scope with
  | .global => true
  | .customer => resource.customerID.isSome && g.scopeID.isSome && g.scopeID == resource.customerID
  | .group => resource.groupID.isSome && g.scopeID.isSome && g.scopeID == resource.groupID

def HasPermission (grants : List PermissionGrant) (permission : Permission) (resource : Resource) :
    Bool :=
  grants.any fun g ↦ g.permission == permission && g.covers resource

def HasAnyGrant (grants : List PermissionGrant) (permission : Permission) : Bool :=
  grants.any (·.permission == permission)

/-- The resource is in one of the caller's scopes. -/
def InScope (grants : List PermissionGrant) (resource : Resource) : Bool :=
  grants.any (·.covers resource)

/-- No grant is global. -/
def Scoped (grants : List PermissionGrant) : Prop :=
  ∀ g ∈ grants, g.scope ≠ .global
  deriving Decidable

/-- The customers that the caller has a grant for. -/
def customerScopes (grants : List PermissionGrant) : List UUID :=
  (grants.filter (·.scope = .customer)).filterMap (·.scopeID)

/-- The device groups that the caller has a grant for. -/
def groupScopes (grants : List PermissionGrant) : List UUID :=
  (grants.filter (·.scope = .group)).filterMap (·.scopeID)

variable {grants : List PermissionGrant} {permission : Permission} {resource : Resource} {id : UUID}

theorem mem_customerScopes :
    id ∈ customerScopes grants ↔ ∃ g ∈ grants, g.scope = .customer ∧ g.scopeID = some id := by
  simp [customerScopes, and_assoc]

theorem mem_groupScopes : id ∈ groupScopes grants ↔ ∃ g ∈ grants, g.scope = .group ∧
    g.scopeID = some id := by
  simp [groupScopes, and_assoc]

/-- Without a global grant, a resource is in scope by its customer or by its group. -/
theorem inScope_iff (hscp : Scoped grants) : InScope grants resource = true ↔
      (∃ id ∈ customerScopes grants, resource.customerID = some id) ∨
        ∃ id ∈ groupScopes grants, resource.groupID = some id := by
  constructor
  · intro h
    obtain ⟨g, hg, hcov⟩ := any_eq_true.1 h
    rw [PermissionGrant.covers] at hcov
    split at hcov
    case h_1 hscope => exact absurd hscope (hscp g hg)
    case h_2 hscope =>
      simp only [Bool.and_eq_true, beq_iff_eq] at hcov
      obtain ⟨id, hid⟩ := Option.isSome_iff_exists.1 hcov.1.2
      exact .inl ⟨id, mem_customerScopes.2 ⟨g, hg, hscope, hid⟩, by rw [← hcov.2, hid]⟩
    case h_3 hscope =>
      simp only [Bool.and_eq_true, beq_iff_eq] at hcov
      obtain ⟨id, hid⟩ := Option.isSome_iff_exists.1 hcov.1.2
      exact .inr ⟨id, mem_groupScopes.2 ⟨g, hg, hscope, hid⟩, by rw [← hcov.2, hid]⟩
  · rintro (⟨id, hid, hresource⟩ | ⟨id, hid, hresource⟩)
    · obtain ⟨g, hg, hscope, hscopeID⟩ := mem_customerScopes.1 hid
      refine any_eq_true.2 ⟨g, hg, ?_⟩
      simp [PermissionGrant.covers, hscope, hscopeID, hresource]
    · obtain ⟨g, hg, hscope, hscopeID⟩ := mem_groupScopes.1 hid
      refine any_eq_true.2 ⟨g, hg, ?_⟩
      simp [PermissionGrant.covers, hscope, hscopeID, hresource]

end WartungsRemote.Auth
