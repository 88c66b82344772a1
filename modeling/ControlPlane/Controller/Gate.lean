import ControlPlane.Controller.Basic
import ControlPlane.Policy.Governing

/-!
# The inventory gate

Connections and instances depend on an inventory. Before anything is done for them, the inventory
has to exist and be ready, the policy in force for it has to admit their namespace, and for an
instance it must not forbid provisioning. The first of these that fails is the obstacle.
-/

namespace ControlPlane

/-- What keeps a facade from using its inventory, in the order in which it is looked for. -/
inductive Obstacle where
  | missing
  | notReady
  | namespaceNotAllowed
  | provisioningDisabled
deriving DecidableEq, Inhabited

/-- A facade's question for an inventory. -/
structure Admission where
  kind : FacadeKind
  /-- The namespace of the facade. -/
  ns : String
  inventoryNs : String
  inventoryName : String
deriving DecidableEq, Inhabited

namespace Obstacle

def reason : Obstacle → String
  | missing => Reason.inventoryNotFound
  | notReady => Reason.inventoryNotReady
  | namespaceNotAllowed => Reason.invalidConnectionNamespace
  | provisioningDisabled => Reason.inventoryNotProvisionable

def message (a : Admission) : Obstacle → String
  | missing => (Error.inventoryNotFound a.inventoryName a.inventoryNs).message
  | notReady => s!"inventory {a.inventoryNs}/{a.inventoryName} is not ready"
  | namespaceNotAllowed =>
    s!"namespace {a.ns} is not allowed to use inventory {a.inventoryNs}/{a.inventoryName}"
  | provisioningDisabled =>
    s!"provisioning is disabled for inventory {a.inventoryNs}/{a.inventoryName}"

/-- The condition that tells of the obstacle. -/
def condition (now : Instant) (a : Admission) (o : Obstacle) : Condition :=
  .ready now .fails o.reason (o.message a)

/-- The time after which an inventory that was not ready is looked at again. -/
def notReadyPause : Duration := .ofSeconds 30

/-- How reconciling ends at the obstacle. -/
def outcome (interval : Duration) (a : Admission) : Obstacle → Except Error Action
  | missing => .error (.inventoryNotFound a.inventoryName a.inventoryNs)
  | notReady => .ok (.requeue notReadyPause)
  | namespaceNotAllowed => .ok (.requeue interval)
  | provisioningDisabled => .ok (.requeue interval)

end Obstacle

/-- The obstacle in a policy, given the labels of the facade's namespace. -/
def EffectivePolicy.obstacle? (p : EffectivePolicy) (a : Admission) (labels : Dict String) :
    Option Obstacle :=
  if !p.allows a.inventoryNs a.ns labels then some .namespaceNotAllowed
  else if a.kind = .dbInstance && p.disableProvisions then some .provisioningDisabled
  else none

/-- The provider of the inventory, or the first obstacle. Labels are asked for only where they can
make a difference. -/
def Controller.gate (a : Admission) : Controller (Except Obstacle String) := do
  match ← api (.getInventory a.inventoryNs a.inventoryName) with
  | none => return .error .missing
  | some i =>
    if !i.isReady then return .error .notReady
    let policies ← api (.listPolicies a.inventoryNs)
    let p := EffectivePolicy.resolve i (Policy.governing? policies)
    let labels ← if p.needsLabels a.inventoryNs a.ns then api (.namespaceLabels a.ns) else pure []
    match p.obstacle? a labels with
    | some o => return .error o
    | none => return .ok i.spec.providerRef.name

end ControlPlane
