import ControlPlane.Access.Role
import ControlPlane.Facade.Kind
import ControlPlane.ObjectStore
import ControlPlane.Tenant

/-!
# What has to be looked at again

When an inventory, a policy or a namespace changes, the facades whose access depends on it have to
be reconciled; when a policy changes, so do the other policies of its namespace; and when an
inventory or a tenant changes, so do the grants of a namespace.
-/

namespace ControlPlane

namespace Facade

variable {k : FacadeKind}

/-- The namespace and the name of the inventory that the facade refers to. -/
def inventoryRef? (f : Facade k) : Option (String × String) :=
  match f.reference, f.metadata.ns with
  | .inventory r, some own => some (r.namespaceOr own, r.name)
  | _, _ => none

/-- The facades that refer to an inventory of this namespace and, if given, of this name. -/
def referring (store : ObjectStore (Facade k)) (ns : String) (name : Option String) :
    List ObjectRef :=
  (store.objects.filter fun f =>
    match f.inventoryRef? with
    | some r => r.1 = ns && (match name with | some n => r.2 = n | none => true)
    | none => false).map (·.metadata.ref)

def dependentsOfInventory (store : ObjectStore (Facade k)) (i : Metadata) : List ObjectRef :=
  match i.ns with
  | some ns => referring store ns (some i.anyName)
  | none => []

/-- A policy concerns every inventory of its namespace. -/
def dependentsOfPolicy (store : ObjectStore (Facade k)) (p : Metadata) : List ObjectRef :=
  match p.ns with
  | some ns => referring store ns none
  | none => []

/-- The labels of a namespace decide on the facades in it. -/
def dependentsOfNamespace (store : ObjectStore (Facade k)) (n : Metadata) : List ObjectRef :=
  (store.objects.filter fun f =>
    match f.reference with
    | .inventory _ => f.metadata.ns = some n.anyName
    | .provider _ => false).map (·.metadata.ref)

end Facade

/-- The other policies of the namespace of a policy. -/
def Policy.siblings (store : ObjectStore Policy) (p : Metadata) : List ObjectRef :=
  (store.objects.filter fun q =>
    q.metadata.ns = p.ns && q.metadata.anyName ≠ p.anyName).map (·.metadata.ref)

/-- A namespace as the object whose grants are to be kept. -/
def namespaceRef (ns : String) : ObjectRef := ⟨none, ns⟩

/-- The namespace whose grants a namespaced object, such as an inventory or a role, concerns. -/
def Metadata.grantNamespace? (m : Metadata) : Option ObjectRef := m.ns.map namespaceRef

/-- The namespace whose grants a tenant concerns: the one it claims. -/
def Tenant.grantNamespace? (t : Tenant) : Option ObjectRef :=
  if t.spec.inventoryNamespace.isEmpty then none
  else some (namespaceRef t.spec.inventoryNamespace)

end ControlPlane
