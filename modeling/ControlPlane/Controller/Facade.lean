import ControlPlane.Controller.Gate
import ControlPlane.Controller.ProviderLookup

/-!
# Reconciling facades

A facade that its inventory admits gets a backend of the kind that the provider serves, with the
facade's spec and under the facade's control; a backend that is there and has another spec is
replaced. Then the status that follows from the backend is written, if it is not the one that the
facade has. All writes carry the version that they were computed from, and one that meets a conflict
ends the run, to be repeated soon.
-/

namespace ControlPlane.Facade

open Controller

variable {k : FacadeKind}

/-- Writes the status. -/
def writeStatus (f : Facade k) (s : Status k.Details) : Controller Unit :=
  api (.patchFacadeStatus k.resource (f.metadata.ns.getD "") f.metadata.anyName
    f.metadata.resourceVersion (f.statusPatch s))

/-- Records a condition, if that changes the status. A conflict is left to the next run. -/
def recordCondition (f : Facade k) (c : Condition) : Controller Unit := do
  let (changed, s) := f.currentStatus.setCondition c
  if changed then
    let _ ← unlessConflict (f.writeStatus s)

/-- The provider that the facade names. If it is not registered, the facade says so. -/
def provider (now : Instant) (f : Facade k) (name : String) : Controller Provider :=
  tryCatch (Controller.provider name f.key) fun e => do
    match e with
    | .providerNotFound _ _ =>
      f.recordCondition (.ready now .fails Reason.providerNotFound e.message)
    | _ => pure ()
    throw e

/-- The backend with the facade's spec, created or replaced as needed; none when the write met a
conflict. -/
def syncBackend (f : Facade k) (resource : ApiResource) (ns : String) :
    Controller (Option Backend) := do
  match ← api (.getBackend resource ns f.metadata.anyName) with
  | none =>
    let b ← f.newBackend resource f.specJson
    unlessConflict (api (.createBackend resource ns b))
  | some current =>
    f.checkOwner current
    if current.hasSpec f.specJson then return some current
    unlessConflict (api (.replaceBackend resource ns (current.withSpec f.specJson)))

/-- Brings the backend of an admitted facade and its status up to date. -/
def proceed (interval : Duration) (now : Instant) (f : Facade k) (ns providerName : String) :
    Controller Action := do
  let p ← f.provider now providerName
  let resource ← backendResource p k
  memory (.ensureWatch k p.registeredName resource)
  match ← f.syncBackend resource ns with
  | none => return .requeue conflictPause
  | some b =>
    let s ← f.deriveStatus now b
    if f.status ≠ some s then
      if (← unlessConflict (f.writeStatus s)).isNone then return .requeue conflictPause
    memory (.forgetFailures (.facade k) f.key)
    return .requeue interval

/-- Reconciles a facade. -/
def reconcile (interval : Duration) (now : Instant) (f : Facade k) : Controller Action := do
  match f.metadata.ns with
  | none => throw (.validation f.metadata.anyName "facade must be namespaced")
  | some ns =>
    match f.reference with
    | .provider r => f.proceed interval now ns r.name
    | .inventory r =>
      let a : Admission := ⟨k, ns, r.namespaceOr ns, r.name⟩
      match ← gate a with
      | .ok providerName => f.proceed interval now ns providerName
      | .error o =>
        f.recordCondition (o.condition now a)
        o.outcome interval a

end ControlPlane.Facade
