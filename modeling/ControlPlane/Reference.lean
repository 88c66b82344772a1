import ControlPlane.Codec.Record

/-!
# References between objects

A provider is referred to by the name it registers, objects by name and, where they may live
elsewhere, by namespace.
-/

namespace ControlPlane

structure ProviderRef where
  name : String
deriving DecidableEq, Inhabited

def ProviderRef.codec : Codec ProviderRef :=
  Record.codec "ProviderRef" "Reference to a registered provider by its registration name" <|
    ProviderRef.mk
      <$> .required "name" .string (·.name) "Provider name (`DBaaSProvider.spec.provider.name`)"

/-- Refers to an object of the same namespace. -/
structure LocalRef where
  name : String
deriving DecidableEq, Inhabited

def LocalRef.codec : Codec LocalRef :=
  Record.codec "LocalObjectRef" "Reference to an object in the same namespace" <|
    LocalRef.mk <$> .required "name" .string (·.name) "Object name"

/-- Refers to an object that may live in another namespace. -/
structure NamespacedRef where
  name : String
  ns : Option String
deriving DecidableEq, Inhabited

namespace NamespacedRef

def codec : Codec NamespacedRef :=
  Record.codec "NamespacedRef" "Reference to an object that may live in another namespace" <|
    NamespacedRef.mk
      <$> .required "name" .string (·.name) "Object name"
      <*> .optional "namespace" .string (·.ns)
        "Object namespace; defaults to the referencing object's namespace"

/-- The namespace referred to; that of the referring object by default. -/
def namespaceOr (r : NamespacedRef) (own : String) : String := r.ns.getD own

end NamespacedRef

/-- Users and groups that are given access by name. -/
structure Authz where
  users : List String
  groups : List String
deriving DecidableEq, Inhabited

namespace Authz

def codec : Codec Authz :=
  Record.codec "Authz" "Users and groups declared for default access" <|
    Authz.mk
      <$> .list "users" .string (·.users) "User names"
      <*> .list "groups" .string (·.groups) "Group names"

def isEmpty (a : Authz) : Bool := a.users.isEmpty && a.groups.isEmpty

end Authz

end ControlPlane
