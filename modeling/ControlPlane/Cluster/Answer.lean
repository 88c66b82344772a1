import ControlPlane.Cluster.Basic
import ControlPlane.Cluster.Call

/-!
# Answering calls

`Cluster.answer` gives the reply to a call and the cluster after it. Objects are kept as JSON and
read when they are asked for; one that cannot be read fails the call.
-/

namespace ControlPlane

/-- The facade kind that is served under a kind's name. -/
def FacadeKind.ofKind? (kind : String) : Option FacadeKind :=
  [FacadeKind.inventory, .connection, .dbInstance].find? fun k => k.kind = kind

namespace Cluster

variable {α : Type}

def readAs (c : Codec α) (j : Json) : Except Error α :=
  (c.read j).mapError fun message => .serialization message none

/-- The objects of a namespace in a collection. -/
def inNamespace (s : Cluster) (c : Collection) (ns : String) : List Json :=
  (s.objects c).filter fun j => j.place.ns = some ns

/-- Reads an object if it is there. -/
def get (s : Cluster) (t : Target) (c : Codec α) : Except Error (Option α) :=
  match s.find? t with
  | none => .ok none
  | some j => (readAs c j).map some

def backend (resource : ApiResource) (ns name : String) : Target where
  collection := .backends
  place := ⟨some ns, name⟩
  type := some ⟨resource.apiVersion, resource.kind⟩

def facade (k : FacadeKind) (ns name : String) : Target where
  collection := .facades k
  place := ⟨some ns, name⟩

def policy (ns name : String) : Target where
  collection := .policies
  place := ⟨some ns, name⟩

def role (scope : Scope) (name : String) : Target where
  collection :=
    match scope with
    | .namespaced _ => .roles
    | .cluster => .clusterRoles
  place := ⟨scope.ns?, name⟩

def binding (scope : Scope) (name : String) : Target where
  collection :=
    match scope with
    | .namespaced _ => .bindings
    | .cluster => .clusterBindings
  place := ⟨scope.ns?, name⟩

def labels (s : Cluster) (ns : String) : Dict String :=
  let j := s.find? { collection := .namespaces, place := ⟨none, ns⟩ }
  let members := (((j.bind (·.get? "metadata")).bind (·.get? "labels")).bind Json.asObject?).getD []
  members.filterMap fun e => e.2.asString?.map fun v => (e.1, v)

/-- The object with a patch merged into its status. -/
def mergeStatus (patch : Json) (j : Json) : Json :=
  j.withMember "status" (patch.applyPatch ((j.get? "status").getD .null))

/-- The reply to a write that answers nothing but its success. -/
def written (r : Except Error Json × Cluster) : Except Error Unit × Cluster :=
  (r.1.map fun _ => (), r.2)

/-- The reply to a write that answers the object as it is stored. -/
def stored (r : Except Error Json × Cluster) : Except Error Backend × Cluster :=
  (r.1.bind (readAs GenericObject.codec), r.2)

def answer : (c : Call) → Cluster → c.Reply × Cluster
  | .listProviders, s => ((s.objects .providers).mapM (readAs Provider.codec), s)
  | .getInventory ns name, s => (s.get (facade .inventory ns name) Inventory.codec, s)
  | .listPolicies ns, s => ((s.inNamespace .policies ns).mapM (readAs Policy.codec), s)
  | .namespaceLabels ns, s => (.ok (s.labels ns), s)
  | .discover apiVersion kind, s =>
    (.ok (s.served.find? fun r => r.apiVersion = apiVersion ∧ r.kind = kind), s)
  | .getBackend resource ns name, s => (s.get (backend resource ns name) GenericObject.codec, s)
  | .createBackend resource ns object, s =>
    let t := backend resource ns object.metadata.anyName
    stored (s.create t (GenericObject.codec.encode object))
  | .replaceBackend resource ns object, s =>
    let t := backend resource ns object.metadata.anyName
    stored (s.update t object.metadata.resourceVersion fun _ => GenericObject.codec.encode object)
  | .patchFacadeStatus resource ns name version patch, s =>
    match FacadeKind.ofKind? resource.kind with
    | some k => written (s.update (facade k ns name) version (mergeStatus patch))
    | none => (.error (refusal 404 "NotFound" s!"{resource.plural} {name} not found"), s)
  | .patchPolicyStatus ns name version status, s =>
    written (s.update (policy ns name) version
      (·.withMember "status" (PolicyStatus.codec.encode status)))
  | .listInventories ns, s =>
    ((s.inNamespace (.facades .inventory) ns).mapM (readAs Inventory.codec), s)
  | .listTenants ns, s =>
    (((s.objects .tenants).mapM (readAs Tenant.codec)).map fun ts => Tenant.claiming ts ns, s)
  | .getRole scope name, s => (s.get (role scope name) (Role.codec scope.breadth), s)
  | .createRole scope r, s =>
    written (s.create (role scope r.metadata.anyName) ((Role.codec scope.breadth).encode r))
  | .patchRules scope name version rules, s =>
    written (s.update (role scope name) version
      (·.withMember "rules" (AccessRule.codec.list.encode rules)))
  | .getBinding scope name, s => (s.get (binding scope name) (RoleBinding.codec scope.breadth), s)
  | .createBinding scope b, s =>
    written (s.create (binding scope b.metadata.anyName)
      ((RoleBinding.codec scope.breadth).encode b))
  | .patchSubjects scope name version subjects, s =>
    written (s.update (binding scope name) version
      (·.withMember "subjects" (BindingSubject.codec.list.encode subjects)))
  | .deleteBinding scope name, s => (.ok (), s.remove (binding scope name))
  | .review q, s => (.ok (ReviewAnswer.subjects s.reviews q), s)

end Cluster

end ControlPlane
