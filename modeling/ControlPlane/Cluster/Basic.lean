import ControlPlane.Access.Review
import ControlPlane.Error
import ControlPlane.Facade.Kind
import ControlPlane.GenericObject
import ControlPlane.Json.MergePatch

/-!
# Clusters

What an API server keeps: collections of objects in the order in which they were created. Each
write gives its object a new version, and a write that names another version than the stored one is
refused, as are a write to a missing object and the creation of an object that is there.
-/

namespace ControlPlane

namespace Json

/-- A member of the metadata, if it is a text. -/
def metadataText? (j : Json) (k : String) : Option String :=
  (j.get? "metadata").bind fun m => m.text? k

/-- The object with another value at `k`; what is no object becomes one. -/
def withMember (j : Json) (k : String) (v : Json) : Json :=
  .object (Dict.insert (j.asObject?.getD []) k v)

/-- Where an object is found. -/
def place (j : Json) : ObjectRef where
  ns := j.metadataText? "namespace"
  name := (j.metadataText? "name").getD ((j.metadataText? "generateName").getD "")

/-- The type of an object. -/
def type? (j : Json) : Option TypeName := GenericObject.typeOf? (j.asObject?.getD [])

def resourceVersion? (j : Json) : Option String := j.metadataText? "resourceVersion"

def withResourceVersion (j : Json) (version : String) : Json :=
  j.withMember "metadata"
    (((j.get? "metadata").getD .null).withMember "resourceVersion" (.string version))

end Json

/-- The collections of objects that the controllers deal with. All backends are in one, whatever
their kinds are. -/
inductive Collection where
  | providers
  | facades (k : FacadeKind)
  | policies
  | tenants
  | namespaces
  | backends
  | roles
  | bindings
  | clusterRoles
  | clusterBindings
deriving DecidableEq, Inhabited

namespace Collection

def all : List Collection :=
  [providers, facades .inventory, facades .connection, facades .dbInstance, policies, tenants,
    namespaces, backends, roles, bindings, clusterRoles, clusterBindings]

/-- What a collection is called. -/
def name : Collection → String
  | providers => "providers"
  | facades .inventory => "inventories"
  | facades .connection => "connections"
  | facades .dbInstance => "instances"
  | policies => "policies"
  | tenants => "tenants"
  | namespaces => "namespaces"
  | backends => "backends"
  | roles => "roles"
  | bindings => "role_bindings"
  | clusterRoles => "cluster_roles"
  | clusterBindings => "cluster_role_bindings"

def ofName? (name : String) : Option Collection := all.find? fun c => c.name = name

end Collection

/-- Says which object of a collection is meant: the first one at a place, and of a type if the
collection holds several. -/
structure Target where
  collection : Collection
  place : ObjectRef
  type : Option TypeName := none
deriving DecidableEq, Inhabited

def Target.fits (t : Target) (j : Json) : Bool :=
  j.place = t.place && (t.type.isNone || j.type? = t.type)

/-- Changes the first item that fits. -/
def updateFirst {α : Type} (fits : α → Bool) (f : α → α) : List α → List α
  | [] => []
  | a :: rest => if fits a then f a :: rest else a :: updateFirst fits f rest

structure Cluster where
  objects : Collection → List Json := fun _ => []
  /-- The version that was given out last. -/
  version : Nat := 0
  reviews : List ReviewAnswer := []
  /-- The kinds of backends that are known to be served. -/
  served : List ApiResource := []

namespace Cluster

def find? (s : Cluster) (t : Target) : Option Json := (s.objects t.collection).find? t.fits

/-- The cluster with other objects in one collection. -/
def withObjects (s : Cluster) (c : Collection) (objects : List Json) : Cluster :=
  { s with objects := fun d => if d = c then objects else s.objects d }

/-- The next version. -/
def nextVersion (s : Cluster) : String := toString (s.version + 1)

/-- Stores an object at the end of its collection, as it is. -/
def append (s : Cluster) (c : Collection) (j : Json) : Cluster :=
  s.withObjects c (s.objects c ++ [j])

/-- Changes an object and nothing else, not even its version. -/
def modify (s : Cluster) (t : Target) (f : Json → Json) : Cluster :=
  s.withObjects t.collection (updateFirst t.fits f (s.objects t.collection))

def remove (s : Cluster) (t : Target) : Cluster :=
  s.withObjects t.collection ((s.objects t.collection).eraseP t.fits)

/-- The reasons for which a write is refused. -/
def refusal (code : Nat) (reason message : String) : Error :=
  .cluster (.api ⟨"Failure", message, reason, code⟩)

def notFound (t : Target) : Error :=
  refusal 404 "NotFound" s!"{t.collection.name} {t.place.name} not found"

def alreadyExists (t : Target) : Error :=
  refusal 409 "AlreadyExists" s!"{t.collection.name} {t.place.name} already exists"

def modified (t : Target) : Error :=
  refusal 409 "Conflict" s!"{t.collection.name} {t.place.name} was modified"

/-- Creates an object with a new version. -/
def create (s : Cluster) (t : Target) (j : Json) : Except Error Json × Cluster :=
  match s.find? t with
  | some _ => (.error (alreadyExists t), s)
  | none =>
    let j := j.withResourceVersion s.nextVersion
    (.ok j, { s.append t.collection j with version := s.version + 1 })

/-- Changes an object under a new version, if `version` is that of the stored one or is not
given. -/
def update (s : Cluster) (t : Target) (version : Option String) (f : Json → Json) :
    Except Error Json × Cluster :=
  match s.find? t with
  | none => (.error (notFound t), s)
  | some j =>
    if version.isSome ∧ version ≠ j.resourceVersion? then (.error (modified t), s)
    else
      let j := (f j).withResourceVersion s.nextVersion
      (.ok j, { s.modify t fun _ => j with version := s.version + 1 })

end Cluster

end ControlPlane
