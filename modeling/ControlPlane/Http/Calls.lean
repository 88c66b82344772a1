import ControlPlane.Cluster.Call
import ControlPlane.Http.Discovery

/-!
# Calls by requests

How each call of the controllers is made by requests to the API server. Writes name the controllers
as the writer.
-/

namespace ControlPlane

/-- The resource of one of the control plane's own kinds. -/
def ApiResource.ofPlane (kind plural : String) : ApiResource where
  group := planeGroup
  version := planeVersion
  apiVersion := planeApiVersion
  kind := kind
  plural := plural

/-- The resource of a kind of roles or bindings. -/
def ApiResource.ofAccess (kind : String) : ApiResource := .ofKind accessApiVersion kind

namespace AccessQuestion

/-- Reviews exist for a namespace and for the whole cluster. -/
def reviewKind (q : AccessQuestion) : String :=
  if q.ns.isSome then "LocalResourceAccessReview" else "ResourceAccessReview"

def reviewApiVersion : String := "authorization.openshift.io/v1"

/-- Where the review is asked for. -/
def endpoint (q : AccessQuestion) : Http.Endpoint where
  resource :=
    { group := "authorization.openshift.io"
      version := "v1"
      apiVersion := reviewApiVersion
      kind := q.reviewKind
      plural := Text.lowercase q.reviewKind ++ "s" }
  ns := q.ns

/-- The review as it is sent. -/
def body (q : AccessQuestion) : Json :=
  let name := (q.name.map fun n => ("resourceName", Json.string n)).toList
  let ns := (q.ns.map fun n => ("namespace", Json.string n)).toList
  .ofMembers ([("apiVersion", .string reviewApiVersion), ("kind", .string q.reviewKind),
    ("metadata", .object []), ("verb", .string q.verb), ("resourceAPIGroup", .string q.group),
    ("resource", .string q.resource)] ++ name ++ ns)

/-- The names in the answer to a review; what is no list of names holds none. -/
def subjects (answer : GenericObject) : SubjectSet :=
  let names := fun k : String =>
    (((answer.data.get? k).bind Json.asArray?).getD []).filterMap Json.asString?
  .ofNames (names "users") (names "groups")

end AccessQuestion

namespace Http

variable {α : Type}

/-- Requests and the reply to a call that is found by them. -/
abbrev Conversation (α : Type) := Program Request (fun _ => Response) (Except Error α)

/-- The reply that an exchange finds. -/
def reply (x : Exchange α) : Conversation α :=
  x.run.bind fun r => .done (r.mapError .cluster)

/-- The reply to a call of which only the success counts. -/
def done (x : Exchange α) : Conversation Unit := reply ((fun _ => ()) <$> x)

def providers : Endpoint := ⟨.ofPlane Provider.kind Provider.plural, none⟩

def tenants : Endpoint := ⟨.ofPlane Tenant.kind Tenant.plural, none⟩

def policies (ns : String) : Endpoint := ⟨.ofPlane Policy.kind Policy.plural, some ns⟩

def inventories (ns : String) : Endpoint := ⟨.ofPlane Inventory.kind Inventory.plural, some ns⟩

def namespaces : Endpoint := ⟨.ofKind "v1" "Namespace", none⟩

def roles (scope : Scope) : Endpoint := ⟨.ofAccess scope.breadth.roleKind, scope.ns?⟩

def bindings (scope : Scope) : Endpoint := ⟨.ofAccess scope.breadth.bindingKind, scope.ns?⟩

/-- The selector for the tenants that claim a namespace. -/
def claimSelector (ns : String) : String := s!"spec.inventoryNamespace={ns}"

/-- The tenants, narrowed down by the server if it knows the selector. -/
def candidates (ns : String) : Exchange (List Tenant) :=
  tryCatch (tenants.list Tenant.codec (some (claimSelector ns))) fun
    | .api a => if a.code = 400 then tenants.list Tenant.codec none else throw (.api a)
    | other => throw other

/-- Makes a call; `manager` is the name of the controllers as a writer. -/
def converse (manager : String) : (c : Call) → Conversation c.Answer
  | .listProviders => reply (providers.list Provider.codec none)
  | .getInventory ns name => reply ((inventories ns).get? Inventory.codec name)
  | .listPolicies ns => reply ((policies ns).list Policy.codec none)
  | .namespaceLabels ns => reply do
    let found ← namespaces.get? Namespace.codec ns
    return (found.bind (·.metadata.labels)).getD []
  | .discover apiVersion kind =>
    (Discovery.find apiVersion kind).run.bind fun r => .done (r.mapError Discovery.failure)
  | .getBackend resource ns name =>
    reply (Endpoint.get? ⟨resource, some ns⟩ GenericObject.codec name)
  | .createBackend resource ns object =>
    reply (Endpoint.create ⟨resource, some ns⟩ GenericObject.codec (some manager)
      (GenericObject.codec.encode object))
  | .replaceBackend resource ns object =>
    match object.metadata.name with
    | none => .done (.error (.validation ns "backend object has no name"))
    | some name =>
      reply (Endpoint.replace ⟨resource, some ns⟩ GenericObject.codec manager name
        (GenericObject.codec.encode object))
  | .patchFacadeStatus resource ns name version patch =>
    done (Endpoint.patch ⟨resource, some ns⟩ GenericObject.codec manager name "/status"
      (.merge version "status" patch))
  | .patchPolicyStatus ns name version status =>
    done ((policies ns).patch Policy.codec manager name "/status"
      (.merge version "status" (PolicyStatus.codec.encode status)))
  | .listInventories ns => reply ((inventories ns).list Inventory.codec none)
  | .listTenants ns => reply ((fun ts => Tenant.claiming ts ns) <$> candidates ns)
  | .getRole scope name => reply ((roles scope).get? (Role.codec scope.breadth) name)
  | .createRole scope role =>
    let c := Role.codec scope.breadth
    done ((roles scope).create c (some manager) (c.encode role))
  | .patchRules scope name version rules =>
    done ((roles scope).patch (Role.codec scope.breadth) manager name ""
      (.merge version "rules" (AccessRule.codec.list.encode rules)))
  | .getBinding scope name => reply ((bindings scope).get? (RoleBinding.codec scope.breadth) name)
  | .createBinding scope binding =>
    let c := RoleBinding.codec scope.breadth
    done ((bindings scope).create c (some manager) (c.encode binding))
  | .patchSubjects scope name version subjects =>
    done ((bindings scope).patch (RoleBinding.codec scope.breadth) manager name ""
      (.merge version "subjects" (BindingSubject.codec.list.encode subjects)))
  | .deleteBinding scope name =>
    reply ((bindings scope).delete (RoleBinding.codec scope.breadth) name)
  | .review q =>
    reply (AccessQuestion.subjects <$> q.endpoint.create GenericObject.codec none q.body)

end Http

end ControlPlane
