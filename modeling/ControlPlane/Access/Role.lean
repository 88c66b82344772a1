import ControlPlane.Access.Subject
import ControlPlane.ApiResource

/-!
# Roles and bindings

A role lists rules, and a binding gives a role to subjects. Both exist in a namespace and for the
whole cluster.
-/

namespace ControlPlane

/-- The group that serves roles and bindings. -/
def accessGroup : String := "rbac.authorization.k8s.io"
def accessApiVersion : String := "rbac.authorization.k8s.io/v1"

structure AccessRule where
  apiGroups : Option (List String)
  nonResourceUrls : Option (List String)
  resourceNames : Option (List String)
  resources : Option (List String)
  verbs : List String
deriving DecidableEq, Inhabited

def AccessRule.codec : Codec AccessRule :=
  Record.objectCodec "PolicyRule" "" <|
    AccessRule.mk
      <$> .optional "apiGroups" (.list .string) (·.apiGroups) ""
      <*> .optional "nonResourceURLs" (.list .string) (·.nonResourceUrls) ""
      <*> .optional "resourceNames" (.list .string) (·.resourceNames) ""
      <*> .optional "resources" (.list .string) (·.resources) ""
      <*> .filled "verbs" (.list .string) (·.verbs)

/-- A subject as a binding names it. -/
structure BindingSubject where
  apiGroup : Option String
  kind : String
  name : String
  ns : Option String
deriving DecidableEq, Inhabited

def BindingSubject.codec : Codec BindingSubject :=
  Record.objectCodec "Subject" "" <|
    BindingSubject.mk
      <$> .optional "apiGroup" .string (·.apiGroup) ""
      <*> .filled "kind" .string (·.kind)
      <*> .filled "name" .string (·.name)
      <*> .optional "namespace" .string (·.ns) ""

/-- Users and groups are of the group that serves roles, service accounts are not. -/
def Subject.toBinding (s : Subject) : BindingSubject where
  apiGroup :=
    match s.type with
    | .serviceAccount => none
    | .user | .group => some accessGroup
  kind := s.kind
  name := s.name
  ns := s.ns?

def SubjectSet.toBindings (s : SubjectSet) : List BindingSubject := s.subjects.map (·.toBinding)

structure RoleRef where
  apiGroup : String
  kind : String
  name : String
deriving DecidableEq, Inhabited

def RoleRef.codec : Codec RoleRef :=
  Record.objectCodec "RoleRef" "" <|
    RoleRef.mk
      <$> .filled "apiGroup" .string (·.apiGroup)
      <*> .filled "kind" .string (·.kind)
      <*> .filled "name" .string (·.name)

/-- Where a role or a binding holds. -/
inductive Scope where
  | namespaced (ns : String)
  | cluster
deriving DecidableEq, Inhabited

/-- Whether a kind is of the whole cluster. -/
inductive Breadth where
  | namespaced
  | cluster
deriving DecidableEq, Inhabited

def Scope.breadth : Scope → Breadth
  | .namespaced _ => .namespaced
  | .cluster => .cluster

def Scope.ns? : Scope → Option String
  | .namespaced ns => some ns
  | .cluster => none

def Breadth.roleKind : Breadth → String
  | .namespaced => "Role"
  | .cluster => "ClusterRole"

def Breadth.bindingKind : Breadth → String
  | .namespaced => "RoleBinding"
  | .cluster => "ClusterRoleBinding"

structure Role where
  metadata : Metadata
  rules : Option (List AccessRule)
deriving DecidableEq, Inhabited

structure RoleBinding where
  metadata : Metadata
  roleRef : RoleRef
  subjects : Option (List BindingSubject)
deriving DecidableEq, Inhabited

/-- A member that has to hold this text if it is there. -/
def Record.fixed {R : Type} (key value : String) : Record R Unit :=
  .member key Codec.string.schema
    (fun o d =>
      match Codec.string.decode o d with
      | .ok s => if s = value then .ok () else d.invalidValue value
      | .error e => .error e)
    (some ()) (some ()) fun _ => some (.string value)

def Role.codec (b : Breadth) : Codec Role :=
  Record.objectCodec b.roleKind "" <|
    (fun _ _ m r => Role.mk m r)
      <$> .fixed "apiVersion" accessApiVersion
      <*> .fixed "kind" b.roleKind
      <*> .filled "metadata" Metadata.codec (·.metadata)
      <*> .optional "rules" (.list AccessRule.codec) (·.rules) ""

def RoleBinding.codec (b : Breadth) : Codec RoleBinding :=
  Record.objectCodec b.bindingKind "" <|
    (fun _ _ m r s => RoleBinding.mk m r s)
      <$> .fixed "apiVersion" accessApiVersion
      <*> .fixed "kind" b.bindingKind
      <*> .filled "metadata" Metadata.codec (·.metadata)
      <*> .filled "roleRef" RoleRef.codec (·.roleRef)
      <*> .optional "subjects" (.list BindingSubject.codec) (·.subjects) ""

/-- A namespace as an object. -/
structure Namespace where
  metadata : Metadata
deriving DecidableEq, Inhabited

def Namespace.codec : Codec Namespace :=
  Record.objectCodec "Namespace" "" <|
    (fun _ _ m => Namespace.mk m)
      <$> .fixed "apiVersion" "v1"
      <*> .fixed "kind" "Namespace"
      <*> .filled "metadata" Metadata.codec (·.metadata)

end ControlPlane
