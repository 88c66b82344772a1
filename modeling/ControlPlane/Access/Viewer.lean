import ControlPlane.Access.Role
import ControlPlane.Error
import ControlPlane.Facade.Inventory
import ControlPlane.Tenant

/-!
# Viewer roles

Every tenant has a cluster role, and every inventory a role in its namespace, that allows to read
just that one object. `AccessRule.check` refuses rules that allow more than reading.
-/

namespace ControlPlane

/-- The only verb that a viewer role may have. -/
def readVerb : String := "get"

def tenantRoleName (tenant : String) : String := s!"dbaas-tenant-{tenant}-viewer"

def inventoryRoleName (inventory : String) : String := s!"dbaas-inventory-{inventory}-viewer"

/-- The reference that makes the object with this metadata a controller. -/
def Metadata.ownerReference (m : Metadata) (apiVersion kind : String) :
    Except Error OwnerReference :=
  match m.ownerReference? apiVersion kind with
  | some r => .ok r
  | none => .error (.validation (objectKey m.ns (m.name.getD "")) "owner has no uid")

/-- Allows to read the one object of this name. -/
def AccessRule.read (resources : List String) (name : String) : AccessRule where
  apiGroups := some [planeGroup]
  nonResourceUrls := none
  resourceNames := some [name]
  resources := some resources
  verbs := [readVerb]

def managedLabels : Dict String := [(managedByLabel, managerName)]

/-- Metadata of an artifact that belongs to its owner. -/
def artifactMetadata (ns : Option String) (name : String) (owner : OwnerReference) : Metadata where
  name := some name
  ns := ns
  labels := some managedLabels
  ownerReferences := some [owner]

/-- What a viewer role is made for. -/
structure ViewedObject where
  metadata : Metadata
  kind : String
  scope : Scope
  roleName : String
  resources : List String

def Tenant.viewed (t : Tenant) : ViewedObject where
  metadata := t.metadata
  kind := Tenant.kind
  scope := .cluster
  roleName := tenantRoleName t.metadata.anyName
  resources := [Tenant.plural]

/-- `ns` is the namespace whose grants are kept. -/
def Inventory.viewed (ns : String) (i : Inventory) : ViewedObject where
  metadata := i.metadata
  kind := Inventory.kind
  scope := .namespaced ns
  roleName := inventoryRoleName i.metadata.anyName
  resources := [Inventory.plural, Inventory.plural ++ "/status"]

namespace ViewedObject

/-- The namespace written into the artifacts: that of the object, if it has one. -/
def artifactNs (v : ViewedObject) : Option String :=
  match v.scope with
  | .namespaced _ => v.metadata.ns
  | .cluster => none

def owner (v : ViewedObject) : Except Error OwnerReference :=
  v.metadata.ownerReference planeApiVersion v.kind

def rules (v : ViewedObject) : List AccessRule := [.read v.resources v.metadata.anyName]

def roleRef (v : ViewedObject) : RoleRef where
  apiGroup := accessGroup
  kind := v.scope.breadth.roleKind
  name := v.roleName

/-- The role that allows to read the object. -/
def role (v : ViewedObject) : Except Error Role := do
  let owner ← v.owner
  return { metadata := artifactMetadata v.artifactNs v.roleName owner, rules := some v.rules }

/-- The binding that gives the role to these subjects. -/
def binding (v : ViewedObject) (subjects : SubjectSet) : Except Error RoleBinding := do
  let owner ← v.owner
  return { metadata := artifactMetadata v.artifactNs v.roleName owner, roleRef := v.roleRef
           subjects := some subjects.toBindings }

end ViewedObject

/-- The verbs in these rules other than reading. -/
def AccessRule.offending (rules : List AccessRule) : List String :=
  (rules.flatMap (·.verbs)).filter (· ≠ readVerb)

/-- Refuses rules that allow anything but reading. -/
def AccessRule.check (artifact : String) (rules : List AccessRule) : Except Error Unit :=
  match offending rules with
  | [] => .ok ()
  | verbs =>
    let listed := ", ".intercalate verbs
    .error (.validation artifact s!"rules carry verbs other than get: {listed}")

end ControlPlane
