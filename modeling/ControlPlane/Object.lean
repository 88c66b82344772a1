import ControlPlane.ApiResource
import ControlPlane.Condition

/-!
# Objects of the control plane's kinds

An object has metadata and a spec, which its author writes; most kinds also have a status, in which
the control plane reports what it observed.
-/

namespace ControlPlane

/-- An object that is only declared. -/
structure Declared (Spec : Type) where
  metadata : Metadata
  spec : Spec
deriving DecidableEq

/-- An object with a status. -/
structure Observed (Spec Status : Type) extends Declared Spec where
  status : Option Status

/-- What every status holds, and what is particular to the kind. -/
structure Status (Details : Type) where
  conditions : List Condition
  details : Details
deriving DecidableEq, Inhabited

namespace Status

variable {Details : Type}

def record (details : Record Details Details) : Record (Status Details) (Status Details) :=
  Status.mk
    <$> .list "conditions" Condition.codec (·.conditions) "Current conditions"
    <*> .within details (·.details)

/-- Whether the object is reported as ready. -/
def isReady (s : Status Details) : Bool := Condition.isTrue s.conditions Condition.readyType

/-- Records a condition; the flag says whether the status changed. -/
def setCondition (s : Status Details) (c : Condition) : Bool × Status Details :=
  let (changed, conditions) := Condition.set s.conditions c
  (changed, { s with conditions := conditions })

end Status

variable {Spec Details : Type}

def Observed.isReady (o : Observed Spec (Status Details)) : Bool :=
  match o.status with
  | some s => s.isReady
  | none => false

/-- The members that say what kind an object of the control plane is. -/
def kindMembers (kind : String) : List (String × Json) :=
  [("apiVersion", .string planeApiVersion), ("kind", .string kind)]

variable {S T : Type}

/-- Objects of a kind without a status. -/
def Declared.codec (kind : String) (spec : Codec S) : Codec (Declared S) :=
  let c := Record.codec kind "" <|
    Declared.mk
      <$> .required "metadata" Metadata.codec (·.metadata) ""
      <*> .required "spec" spec (·.spec) ""
  { c with encode := fun o => .ofMembers (kindMembers kind ++
      [("metadata", Metadata.codec.encode o.metadata), ("spec", spec.encode o.spec)]) }

/-- The status of an object. An array of its members has to have one, even if it is null. -/
def statusMember (status : Codec T) : Record (Observed S T) (Option T) :=
  .member "status" status.option.schema status.option.decode (some none) none
    fun o => o.status.map status.encode

def Observed.codec (kind : String) (spec : Codec S) (status : Codec T) : Codec (Observed S T) :=
  let r : Record (Observed S T) (Observed S T) :=
    (fun m s t => Observed.mk (Declared.mk m s) t)
      <$> .required "metadata" Metadata.codec (·.metadata) ""
      <*> .required "spec" spec (·.spec) ""
      <*> statusMember status
  { Record.codec kind "" r with encode := fun o => .ofMembers (kindMembers kind ++ r.write o) }

end ControlPlane
