import ControlPlane.Controller.Basic

/-!
# Grants

For the namespace of a tenant's inventories, access reviews tell who administers it and who develops
with it. They may read the tenant unless they may list all tenants anyway. An inventory may be read
by those it names itself, or else by those that the tenants of the namespace name.

Each grant is a viewer role and a binding. The role is written before the binding, and the binding
only if the role allows nothing but reading.
-/

namespace ControlPlane

/-- Who is to read one object. -/
structure Grant where
  viewed : ViewedObject
  subjects : SubjectSet

/-- All grants of a namespace. -/
structure Grants where
  tenants : List Grant
  inventories : List Grant

namespace Controller

def review (q : AccessQuestion) : Controller SubjectSet := api (.review q)

/-- Those who may create both inventories and secrets. -/
def admins (ns : String) : Controller SubjectSet := do
  let inventories ← review (.createInventories ns)
  let secrets ← review (.createSecrets ns)
  return inventories.intersection secrets

/-- Adds those who may read an inventory by name, one inventory after the other. -/
def addReaders (ns : String) : List Inventory → SubjectSet → Controller SubjectSet
  | [], s => return s
  | i :: rest, s => do
    let readers ← review (.getInventory ns i.metadata.anyName)
    addReaders ns rest (s.union readers)

/-- Those who may list the inventories, and those who may read one of them. -/
def developers (ns : String) (inventories : List Inventory) : Controller SubjectSet := do
  let listers ← review (.listInventories ns)
  addReaders ns inventories listers

/-- Who is to read the tenants of a namespace. -/
def tenantViewers (ns : String) (inventories : List Inventory) : Controller SubjectSet := do
  let admins ← admins ns
  let developers ← developers ns inventories
  let listers ← review .listTenants
  return (admins.union developers).difference listers

/-- Those whom the tenants name, one tenant after the other. -/
def tenantDefaults (tenants : List Tenant) : SubjectSet :=
  tenants.foldl (fun s t => s.union (.ofAuthz t.spec.authz)) .empty

/-- Who is to read an inventory. -/
def inventoryViewers (tenants : List Tenant) (i : Inventory) : SubjectSet :=
  match i.declaredAuthz? with
  | some a => .ofAuthz a
  | none => tenantDefaults tenants

/-- The grants that a namespace should have. Without a tenant nobody is asked about. -/
def grants (ns : String) : Controller Grants := do
  let inventories ← api (.listInventories ns)
  let tenants ← api (.listTenants ns)
  let viewers ← if tenants.isEmpty then pure .empty else tenantViewers ns inventories
  return {
    tenants := tenants.map fun t => ⟨t.viewed, viewers⟩
    inventories := inventories.map fun i => ⟨i.viewed ns, inventoryViewers tenants i⟩ }

/-- Brings a role to the rules of `desired`; false when these allow more than reading, and then
nothing is written. -/
def convergeRole (scope : Scope) (desired : Role) : Controller Bool := do
  let name := desired.metadata.anyName
  let rules := desired.rules.getD []
  match AccessRule.check name rules with
  | .error _ => return false
  | .ok () =>
    match ← api (.getRole scope name) with
    | none => api (.createRole scope desired)
    | some r =>
      if r.rules.getD [] ≠ rules then
        api (.patchRules scope name r.metadata.resourceVersion rules)
    return true

/-- Brings a binding to the subjects of `desired`. A binding keeps its role for good, so that one of
another role is deleted and created anew. -/
def convergeBinding (scope : Scope) (desired : RoleBinding) : Controller Unit := do
  let name := desired.metadata.anyName
  let subjects := desired.subjects.getD []
  match ← api (.getBinding scope name) with
  | none => api (.createBinding scope desired)
  | some b =>
    if b.roleRef ≠ desired.roleRef then
      api (.deleteBinding scope name)
      api (.createBinding scope desired)
    else if b.subjects.getD [] ≠ subjects then
      api (.patchSubjects scope name b.metadata.resourceVersion subjects)

/-- Brings a role and its binding to what is desired. -/
def converge (scope : Scope) (role : Role) (binding : RoleBinding) : Controller Unit := do
  if ← convergeRole scope role then convergeBinding scope binding

/-- Brings one grant about; false when a write met a conflict. -/
def establish (g : Grant) : Controller Bool := do
  let role ← g.viewed.role
  let binding ← g.viewed.binding g.subjects
  return (← unlessConflict (converge g.viewed.scope role binding)).isSome

/-- Brings all grants about, whatever conflicts the writes of some of them meet; false when there
was one. -/
def establishAll : List Grant → Controller Bool
  | [] => return true
  | g :: rest => do
    let settled ← establish g
    let others ← establishAll rest
    return settled && others

end Controller

/-- Reconciles the grants of a namespace, unless it is about to go. -/
def Namespace.reconcile (interval : Duration) (n : Namespace) : Controller Action := do
  if n.metadata.deletionTimestamp.isSome then return .awaitChange
  let ns := n.metadata.anyName
  let grants ← Controller.grants ns
  if ← Controller.establishAll (grants.tenants ++ grants.inventories) then
    Controller.memory (.forgetFailures .grants ns)
    return .requeue interval
  else return .requeue Controller.conflictPause

end ControlPlane
