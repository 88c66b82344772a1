import ControlPlane.Codec.Record

/-!
# Metadata of objects

Every object has a name, most have a namespace, and the API server adds a uid and a resource
version. Owner references say which objects it belongs to. The rest is kept for the API server, which
gets back all that it has sent when an object is replaced.
-/

namespace ControlPlane

structure OwnerReference where
  apiVersion : String
  kind : String
  name : String
  uid : String
  controller : Option Bool
  blockOwnerDeletion : Option Bool
deriving DecidableEq, Inhabited

def OwnerReference.codec : Codec OwnerReference :=
  Record.objectCodec "OwnerReference" "" <|
    OwnerReference.mk
      <$> .filled "apiVersion" .string (·.apiVersion)
      <*> .filled "kind" .string (·.kind)
      <*> .filled "name" .string (·.name)
      <*> .filled "uid" .string (·.uid)
      <*> .optional "controller" .bool (·.controller) ""
      <*> .optional "blockOwnerDeletion" .bool (·.blockOwnerDeletion) ""

/-- What the API server keeps of who manages which members of an object. -/
structure ManagedFieldsEntry where
  apiVersion : Option String
  fieldsType : Option String
  fields : Option Json
  manager : Option String
  operation : Option String
  subresource : Option String
  time : Option Instant
deriving DecidableEq, Inhabited

def ManagedFieldsEntry.codec : Codec ManagedFieldsEntry :=
  Record.objectCodec "ManagedFieldsEntry" "" <|
    ManagedFieldsEntry.mk
      <$> .optional "apiVersion" .string (·.apiVersion) ""
      <*> .optional "fieldsType" .string (·.fieldsType) ""
      <*> .optional "fieldsV1" .raw (·.fields) ""
      <*> .optional "manager" .string (·.manager) ""
      <*> .optional "operation" .string (·.operation) ""
      <*> .optional "subresource" .string (·.subresource) ""
      <*> .optional "time" (.instant .seconds) (·.time) ""

structure Metadata where
  name : Option String := none
  generateName : Option String := none
  ns : Option String := none
  uid : Option String := none
  resourceVersion : Option String := none
  generation : Option Int := none
  creationTimestamp : Option Instant := none
  deletionTimestamp : Option Instant := none
  labels : Option (Dict String) := none
  annotations : Option (Dict String) := none
  finalizers : Option (List String) := none
  ownerReferences : Option (List OwnerReference) := none
  managedFields : Option (List ManagedFieldsEntry) := none
  deletionGracePeriodSeconds : Option Int := none
  selfLink : Option String := none
deriving DecidableEq, Inhabited

/-- Where an object is found; cluster-wide objects have no namespace. -/
structure ObjectRef where
  ns : Option String
  name : String
deriving DecidableEq, Inhabited

/-- `namespace/name`, or the name alone. -/
def objectKey (ns : Option String) (name : String) : String :=
  match ns with
  | some ns => s!"{ns}/{name}"
  | none => name

namespace Metadata

def codec : Codec Metadata :=
  Record.objectCodec "ObjectMeta" "" <|
    Metadata.mk
      <$> .optional "name" .string (·.name) ""
      <*> .optional "generateName" .string (·.generateName) ""
      <*> .optional "namespace" .string (·.ns) ""
      <*> .optional "uid" .string (·.uid) ""
      <*> .optional "resourceVersion" .string (·.resourceVersion) ""
      <*> .optional "generation" .int64 (·.generation) ""
      <*> .optional "creationTimestamp" (.instant .seconds) (·.creationTimestamp) ""
      <*> .optional "deletionTimestamp" (.instant .seconds) (·.deletionTimestamp) ""
      <*> .optional "labels" (.dict .string) (·.labels) ""
      <*> .optional "annotations" (.dict .string) (·.annotations) ""
      <*> .optional "finalizers" (.list .string) (·.finalizers) ""
      <*> .optional "ownerReferences" (.list OwnerReference.codec) (·.ownerReferences) ""
      <*> .optional "managedFields" (.list ManagedFieldsEntry.codec) (·.managedFields) ""
      <*> .optional "deletionGracePeriodSeconds" .int64 (·.deletionGracePeriodSeconds) ""
      <*> .optional "selfLink" .string (·.selfLink) ""

/-- The name, or the text that a name will be generated from. -/
def anyName (m : Metadata) : String := m.name.getD (m.generateName.getD "")

/-- The first owner that controls the object. -/
def controllerOwner? (m : Metadata) : Option OwnerReference :=
  (m.ownerReferences.getD []).find? fun r => r.controller = some true

/-- A reference that makes this object, of the given kind, the controller of another one. An object
that has not been stored has no uid and cannot own anything. -/
def ownerReference? (m : Metadata) (apiVersion kind : String) : Option OwnerReference :=
  match m.name, m.uid with
  | some name, some uid =>
    some
      { apiVersion := apiVersion, kind := kind, name := name, uid := uid, controller := some true
        blockOwnerDeletion := none }
  | _, _ => none

/-- The order of age: objects without a time of creation come first, and names decide between
objects of one time. -/
def noYoungerThan (a b : Metadata) : Bool :=
  match a.creationTimestamp, b.creationTimestamp with
  | none, some _ => true
  | some _, none => false
  | none, none => a.anyName ≤ b.anyName
  | some s, some t => if s = t then a.anyName ≤ b.anyName else s.le t

end Metadata

end ControlPlane
