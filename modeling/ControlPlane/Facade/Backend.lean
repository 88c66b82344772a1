import ControlPlane.Access.Viewer
import ControlPlane.Facade.Kind
import ControlPlane.GenericObject
import ControlPlane.Json.MergePatch

/-!
# Backends

For every facade there is one backend object, of a kind that the provider serves. Its spec is the
facade's spec, its controller is the facade, and its status is reported as the facade's status.

`Facade.deriveStatus` passes the backend's status through and keeps the times of transitions that
the backend does not give.
-/

namespace ControlPlane

abbrev Backend := GenericObject

def Backend.spec? (b : Backend) : Option Json := b.data.get? "spec"

/-- Whether the backend has this spec. -/
def Backend.hasSpec (b : Backend) (spec : Json) : Bool :=
  match b.spec? with
  | some s => s.same spec
  | none => false

/-- The backend with nothing but its spec changed. -/
def Backend.withSpec (b : Backend) (spec : Json) : Backend :=
  { b with data := b.data.insert "spec" spec }

/-- The status that the backend reports; null is none. -/
def Backend.status? (b : Backend) : Option Json :=
  (b.data.get? "status").filter fun s => !s.isNull

namespace Facade

variable {k : FacadeKind}

/-- A new backend for the facade. -/
def newBackend (f : Facade k) (resource : ApiResource) (spec : Json) : Except Error Backend := do
  let owner ← f.metadata.ownerReference planeApiVersion k.kind
  let metadata : Metadata :=
    { name := some f.metadata.anyName, ns := f.metadata.ns, labels := some managedLabels
      ownerReferences := some [owner] }
  return { type := some ⟨resource.apiVersion, resource.kind⟩, metadata, data := [("spec", spec)] }

/-- Refuses a backend that this facade does not control. -/
def checkOwner (f : Facade k) (b : Backend) : Except Error Unit :=
  let resource := objectKey b.metadata.ns b.metadata.anyName
  match b.metadata.controllerOwner? with
  | some owner =>
    if some owner.uid = f.metadata.uid then .ok ()
    else .error (.validation resource s!"backend is controlled by {owner.kind} {owner.name}")
  | none => .error (.validation resource "backend exists without a controller owner")

/-- The condition of a facade whose backend has not reported yet. -/
def pendingCondition (now : Instant) : Condition :=
  .ready now .unknown Reason.backendPending "waiting for the provider to report status"

/-- The time of a transition that the backend does not give: that of the first condition before
with the same type and status, if it has one, else the present. -/
def transitionTime (now : Instant) (prior : List Condition) (c : Condition) : Instant :=
  match prior.find? fun p => p.type = c.type ∧ p.status = c.status with
  | some p => p.lastTransitionTime.getD now
  | none => now

/-- The condition with a time. -/
def stamp (now : Instant) (prior : List Condition) (c : Condition) : Condition :=
  match c.lastTransitionTime with
  | some _ => c
  | none => { c with lastTransitionTime := some (transitionTime now prior c) }

/-- The status of the facade that follows from that of its backend. -/
def deriveStatus (now : Instant) (f : Facade k) (b : Backend) :
    Except Error (Status k.Details) :=
  match b.status? with
  | none => .ok (f.currentStatus.setCondition (pendingCondition now)).2
  | some raw =>
    match k.statusCodec.read raw with
    | .error message => .error (.serialization message (some k.kind))
    | .ok s => .ok { s with conditions := s.conditions.map (stamp now f.currentStatus.conditions) }

/-- The merge patch that turns the facade's status into `s`. -/
def statusPatch (f : Facade k) (s : Status k.Details) : Json :=
  ((f.status.map k.statusCodec.encode).getD .null).mergePatch (k.statusCodec.encode s)

/-- The facade that controls an object, when it is one of this kind in the object's namespace. -/
def owning? (k : FacadeKind) (b : Backend) : Option ObjectRef :=
  match b.metadata.controllerOwner?, b.metadata.ns with
  | some owner, some ns =>
    if owner.isOfKind planeApiVersion k.kind then some ⟨some ns, owner.name⟩ else none
  | _, _ => none

end Facade

end ControlPlane
