import ControlPlane.Access.Review
import ControlPlane.Access.Viewer
import ControlPlane.Facade.Backend
import ControlPlane.Policy.Basic
import ControlPlane.Provider

/-!
# Calls to the API server

What the controllers ask of the API server, and what it answers. Calls that write carry the version
of the object that they were computed from, so that the server can refuse them when the object has
changed since.
-/

namespace ControlPlane

inductive Call where
  | listProviders
  | getInventory (ns name : String)
  | listPolicies (ns : String)
  /-- Asks for the labels of a namespace; one that does not exist has none. -/
  | namespaceLabels (ns : String)
  /-- Asks how a kind is served; nothing is known of kinds that are not. -/
  | discover (apiVersion kind : String)
  | getBackend (resource : ApiResource) (ns name : String)
  | createBackend (resource : ApiResource) (ns : String) (object : Backend)
  /-- Replaces a backend whole; the object carries the version that it replaces. -/
  | replaceBackend (resource : ApiResource) (ns : String) (object : Backend)
  /-- Merges a patch into the status of a facade. -/
  | patchFacadeStatus (resource : ApiResource) (ns name : String) (version : Option String)
      (patch : Json)
  | patchPolicyStatus (ns name : String) (version : Option String) (status : PolicyStatus)
  | listInventories (ns : String)
  /-- Asks for the tenants that claim a namespace, by age. -/
  | listTenants (ns : String)
  | getRole (scope : Scope) (name : String)
  | createRole (scope : Scope) (role : Role)
  | patchRules (scope : Scope) (name : String) (version : Option String) (rules : List AccessRule)
  | getBinding (scope : Scope) (name : String)
  | createBinding (scope : Scope) (binding : RoleBinding)
  | patchSubjects (scope : Scope) (name : String) (version : Option String)
      (subjects : List BindingSubject)
  /-- Deletes a binding; it is fine if there is none. -/
  | deleteBinding (scope : Scope) (name : String)
  | review (question : AccessQuestion)

namespace Call

/-- What a call that succeeds answers. -/
@[reducible] def Answer : Call → Type
  | listProviders => List Provider
  | getInventory _ _ => Option Inventory
  | listPolicies _ => List Policy
  | namespaceLabels _ => Dict String
  | discover _ _ => Option ApiResource
  | getBackend _ _ _ => Option Backend
  | createBackend _ _ _ => Backend
  | replaceBackend _ _ _ => Backend
  | listInventories _ => List Inventory
  | listTenants _ => List Tenant
  | getRole _ _ => Option Role
  | getBinding _ _ => Option RoleBinding
  | review _ => SubjectSet
  | _ => Unit

/-- What comes back of a call. -/
@[reducible] def Reply (c : Call) : Type := Except Error c.Answer

/-- The name of an operation that exists in a namespace and for the whole cluster. -/
def byScope (scope : Scope) (namespaced cluster : String) : String :=
  match scope with
  | .namespaced _ => namespaced
  | .cluster => cluster

/-- The name of the operation that is asked for. -/
def name : Call → String
  | listProviders => "list_providers"
  | getInventory _ _ => "get_inventory"
  | listPolicies _ => "list_policies"
  | namespaceLabels _ => "namespace_labels"
  | discover _ _ => "discover_resource"
  | getBackend _ _ _ => "get_backend"
  | createBackend _ _ _ => "create_backend"
  | replaceBackend _ _ _ => "replace_backend"
  | patchFacadeStatus _ _ _ _ _ => "patch_facade_status"
  | patchPolicyStatus _ _ _ _ => "patch_policy_status"
  | listInventories _ => "list_inventories"
  | listTenants _ => "list_tenants_for_namespace"
  | getRole s _ => byScope s "get_role" "get_cluster_role"
  | createRole s _ => byScope s "create_role" "create_cluster_role"
  | patchRules s _ _ _ => byScope s "patch_role_rules" "patch_cluster_role_rules"
  | getBinding s _ => byScope s "get_role_binding" "get_cluster_role_binding"
  | createBinding s _ => byScope s "create_role_binding" "create_cluster_role_binding"
  | patchSubjects s _ _ _ =>
    byScope s "patch_role_binding_subjects" "patch_cluster_role_binding_subjects"
  | deleteBinding s _ => byScope s "delete_role_binding" "delete_cluster_role_binding"
  | review _ => "review"

/-- The members that say in which namespace an operation takes place, if in one. -/
def scopeMembers : Scope → List (String × Json)
  | .namespaced ns => [("namespace", .string ns)]
  | .cluster => []

/-- The version that a write is computed from. -/
def versionMember (version : Option String) : String × Json :=
  ("resource_version", Json.ofOption .string version)

/-- The arguments of a call. -/
def arguments : Call → List (String × Json)
  | listProviders => []
  | getInventory ns name => [("namespace", .string ns), ("name", .string name)]
  | listPolicies ns => [("namespace", .string ns)]
  | namespaceLabels ns => [("namespace", .string ns)]
  | discover apiVersion kind => [("api_version", .string apiVersion), ("kind", .string kind)]
  | getBackend resource ns name =>
    [("resource", resource.toJson), ("namespace", .string ns), ("name", .string name)]
  | createBackend resource ns object =>
    [("plural", .string resource.plural), ("namespace", .string ns),
      ("object", GenericObject.codec.encode object)]
  | replaceBackend resource ns object =>
    [("plural", .string resource.plural), ("namespace", .string ns),
      ("object", GenericObject.codec.encode object)]
  | patchFacadeStatus resource ns name version patch =>
    [("resource", resource.toJson), ("namespace", .string ns), ("name", .string name),
      versionMember version, ("status", patch)]
  | patchPolicyStatus ns name version status =>
    [("namespace", .string ns), ("name", .string name), versionMember version,
      ("status", PolicyStatus.codec.encode status)]
  | listInventories ns => [("namespace", .string ns)]
  | listTenants ns => [("namespace", .string ns)]
  | getRole scope name => scopeMembers scope ++ [("name", .string name)]
  | createRole scope role =>
    scopeMembers scope ++ [("object", (Role.codec scope.breadth).encode role)]
  | patchRules scope name version rules =>
    scopeMembers scope ++ [("name", .string name), versionMember version,
      ("rules", AccessRule.codec.list.encode rules)]
  | getBinding scope name => scopeMembers scope ++ [("name", .string name)]
  | createBinding scope binding =>
    scopeMembers scope ++ [("object", (RoleBinding.codec scope.breadth).encode binding)]
  | patchSubjects scope name version subjects =>
    scopeMembers scope ++ [("name", .string name), versionMember version,
      ("subjects", BindingSubject.codec.list.encode subjects)]
  | deleteBinding scope name => scopeMembers scope ++ [("name", .string name)]
  | review q =>
    [("verb", .string q.verb), ("group", .string q.group), ("resource", .string q.resource),
      ("namespace", Json.ofOption .string q.ns), ("name", Json.ofOption .string q.name)]

/-- The call as a record of what happened. -/
def toJson (c : Call) : Json := .ofMembers (("call", .string c.name) :: c.arguments)

end Call

end ControlPlane
