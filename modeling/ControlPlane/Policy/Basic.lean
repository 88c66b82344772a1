import ControlPlane.Object
import ControlPlane.Selector

/-!
# Policies

A policy sets defaults for the inventories of its namespace, and an inventory may set the same
fields for itself.
-/

namespace ControlPlane

/-- The fields that a policy and an inventory both have. A field that is not set says nothing. -/
structure PolicyFields where
  disableProvisions : Option Bool
  connectionNamespaces : Option (List String)
  connectionNsSelector : Option NamespaceSelector
deriving DecidableEq, Inhabited

namespace PolicyFields

def record : Record PolicyFields PolicyFields :=
  PolicyFields.mk
    <$> .optional "disableProvisions" .bool (·.disableProvisions)
      "Forbid DBaaSInstance provisioning against the inventory"
    <*> .optional "connectionNamespaces" (.list .string) (·.connectionNamespaces)
      "Namespaces allowed to create connections; `*` allows all"
    <*> .optional "connectionNsSelector" NamespaceSelector.codec (·.connectionNsSelector)
      "Label selector for namespaces allowed to create connections"

def codec : Codec PolicyFields :=
  Record.codec "InventoryPolicy"
    ("Policy fields shared by DBaaSPolicy and the per-inventory overrides.\n\n" ++
      "Every field is optional: `None` on an inventory means \"inherit from the active policy\".")
    record

def isEmpty (p : PolicyFields) : Bool :=
  p.disableProvisions.isNone && p.connectionNamespaces.isNone && p.connectionNsSelector.isNone

end PolicyFields

structure PolicySpec where
  fields : PolicyFields
deriving DecidableEq, Inhabited

def PolicySpec.codec : Codec PolicySpec :=
  Record.gatheringCodec "struct DBaaSPolicySpec"
    ("Namespace-wide defaults for inventories.\n\n" ++
      "Example: ```yaml apiVersion: dbaas.dev/v1beta1 kind: DBaaSPolicy metadata: name: default " ++
      "namespace: dbaas-inventories spec: disableProvisions: false connectionNamespaces: " ++
      "[\"team-a\", \"team-b\"] ```")
    (PolicySpec.mk <$> .flatten PolicyFields.record (·.fields))

abbrev PolicyStatus := Status Unit

def PolicyStatus.codec : Codec PolicyStatus :=
  Record.codec "DBaaSPolicyStatus" "Observed state of a DBaaSPolicy" (Status.record .unit)

abbrev Policy := Observed PolicySpec PolicyStatus

namespace Policy

def kind : String := "DBaaSPolicy"

def plural : String := "dbaaspolicies"

def codec : Codec Policy := Observed.codec kind PolicySpec.codec PolicyStatus.codec

/-- Of the policies of a namespace the one that is reported as ready governs it. -/
def isActive (p : Policy) : Bool := p.isReady

end Policy

end ControlPlane
