import ControlPlane.Facade.Inventory
import ControlPlane.Policy.Basic

/-!
# The policy in force

Of the policies of a namespace the oldest active one governs, and the oldest of all while none is
active. What is in force for an inventory takes each field from the inventory if it is set there,
else from the governing policy, else from the default.
-/

namespace ControlPlane

namespace Policy

/-- Policies by age. -/
def sort (policies : List Policy) : List Policy :=
  policies.mergeSort fun a b => a.metadata.noYoungerThan b.metadata

/-- The policy that governs a namespace with these policies. -/
def governing? (policies : List Policy) : Option Policy :=
  let ordered := sort policies
  (ordered.find? (·.isActive)).or ordered.head?

end Policy

/-- The policy in force for one inventory. -/
structure EffectivePolicy where
  connectionNamespaces : Option (List String)
  connectionNsSelector : Option NamespaceSelector
  disableProvisions : Bool
deriving DecidableEq, Inhabited

namespace EffectivePolicy

/-- Each field of the inventory, then of the governing policy. -/
def resolve (i : Inventory) (governing : Option Policy) : EffectivePolicy :=
  let own := i.spec.policy
  let common := governing.map (·.spec.fields)
  { connectionNamespaces := own.connectionNamespaces.or (common.bind (·.connectionNamespaces))
    connectionNsSelector := own.connectionNsSelector.or (common.bind (·.connectionNsSelector))
    disableProvisions :=
      (own.disableProvisions.or (common.bind (·.disableProvisions))).getD false }

/-- The entry of a list of namespaces that stands for all of them. -/
def allNamespaces : String := "*"

/-- Whether a namespace is admitted whatever its labels are. -/
def allowsByName (p : EffectivePolicy) (inventoryNs connectionNs : String) : Bool :=
  inventoryNs = connectionNs ||
    ((p.connectionNamespaces.getD []).any fun n => n = allNamespaces || n = connectionNs) ||
    match p.connectionNsSelector with
    | some s => s.isEmpty
    | none => false

/-- Whether the labels of the namespace can make a difference. -/
def needsLabels (p : EffectivePolicy) (inventoryNs connectionNs : String) : Bool :=
  !p.allowsByName inventoryNs connectionNs && p.connectionNsSelector.isSome

/-- Whether connections from a namespace with these labels are admitted. -/
def allows (p : EffectivePolicy) (inventoryNs connectionNs : String) (labels : Dict String) :
    Bool :=
  p.allowsByName inventoryNs connectionNs ||
    match p.connectionNsSelector with
    | some s => s.accepts labels
    | none => false

end EffectivePolicy

end ControlPlane
