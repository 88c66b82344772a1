import ControlPlane.Codec.Record

/-!
# Status conditions

An object reports what holds of it as a list of conditions, of which the first of each type counts.
`Condition.set` records one and says whether the list changed: the time of a transition is kept
while the status stays the same, so that recording the same thing again changes nothing.
-/

namespace ControlPlane

inductive ConditionStatus where
  | holds
  | fails
  | unknown
deriving DecidableEq, Inhabited

def ConditionStatus.name : ConditionStatus → String
  | .holds => "True"
  | .fails => "False"
  | .unknown => "Unknown"

def ConditionStatus.codec : Codec ConditionStatus :=
  .enumeration [("True", .holds), ("False", .fails), ("Unknown", .unknown)] ConditionStatus.name

structure Condition where
  type : String
  status : ConditionStatus
  reason : String
  message : String
  lastTransitionTime : Option Instant
deriving DecidableEq, Inhabited

namespace Condition

def codec : Codec Condition :=
  Record.codec "Condition"
    ("Standard Kubernetes-style status condition\n\n" ++
      "Backend controllers write conditions in the same shape, so facade status decoding passes " ++
      "them through verbatim. `lastTransitionTime` is optional because not every backend sets it.")
    (Condition.mk
      <$> .required "type" .string (·.type) "Type of condition (e.g., Ready)"
      <*> .required "status" ConditionStatus.codec (·.status)
        "Status of the condition (True, False, Unknown)"
      <*> .defaulted "reason" .string "" (·.reason) "Machine-readable reason for the condition"
      <*> .defaulted "message" .string "" (·.message) "Human-readable message"
      <*> .optional "lastTransitionTime" (.instant .exact) (·.lastTransitionTime)
        "Last time the condition transitioned")

/-- The type that says whether an object can be used. -/
def readyType : String := "Ready"

/-- A `Ready` condition that arises at `now`. -/
def ready (now : Instant) (status : ConditionStatus) (reason message : String) : Condition :=
  ⟨readyType, status, reason, message, some now⟩

/-- The first condition of a type. -/
def find? (conditions : List Condition) (type : String) : Option Condition :=
  conditions.find? fun c => c.type = type

def isTrue (conditions : List Condition) (type : String) : Bool :=
  match find? conditions type with
  | some c => c.status = .holds
  | none => false

/-- `c` with the time of `previous` if the status is the same. -/
def settle (previous c : Condition) : Condition :=
  if previous.status = c.status then { c with lastTransitionTime := previous.lastTransitionTime }
  else c

/-- Records `c` in place of the first condition of its type, or at the end. -/
def put (c : Condition) : List Condition → List Condition
  | [] => [c]
  | d :: rest => if d.type = c.type then settle d c :: rest else d :: put c rest

/-- Records `c`; the flag says whether the list changed. -/
def set (conditions : List Condition) (c : Condition) : Bool × List Condition :=
  match find? conditions c.type with
  | some previous => (decide (settle previous c ≠ previous), put c conditions)
  | none => (true, put c conditions)

end Condition

/-! The reasons that the control plane gives. -/

namespace Reason

def ready : String := "Ready"
def providerNotFound : String := "ProviderNotFound"
def inventoryNotFound : String := "InventoryNotFound"
def inventoryNotReady : String := "InventoryNotReady"
def inventoryNotProvisionable : String := "InventoryNotProvisionable"
def invalidConnectionNamespace : String := "InvalidConnectionNamespace"
def backendPending : String := "BackendPending"
def activePolicyExists : String := "ActivePolicyExists"

end Reason

end ControlPlane
