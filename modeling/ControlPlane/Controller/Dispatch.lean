import ControlPlane.Cluster.Basic
import ControlPlane.Controller.Arbitration
import ControlPlane.Controller.Facade
import ControlPlane.Controller.Grants

/-!
# Controllers and their objects

Every controller has a collection of objects that it reconciles. Here each is given one of them as
JSON and reads it first.
-/

namespace ControlPlane.ControllerId

def all : List ControllerId :=
  [facade .inventory, facade .connection, facade .dbInstance, policy, grants]

/-- What a controller is called. -/
def name : ControllerId → String
  | facade k => k.role
  | policy => "policy"
  | grants => "authz"

def ofName? (name : String) : Option ControllerId := all.find? fun id => id.name = name

/-- The objects that the controller reconciles. -/
def collection : ControllerId → Collection
  | facade k => .facades k
  | policy => .policies
  | grants => .namespaces

/-- Reconciles an object. -/
def reconcile (interval : Duration) (now : Instant) (j : Json) :
    ControllerId → Except String (Controller Action)
  | facade k => return (← (Facade.codec k).read j).reconcile interval now
  | policy => return (← Policy.codec.read j).reconcile interval now
  | grants => return (← Namespace.codec.read j).reconcile interval

/-- The key by which failures to reconcile an object are counted. -/
def key (j : Json) : ControllerId → Except String String
  | facade k => return (← (Facade.codec k).read j).key
  | policy => return (← Policy.codec.read j).key
  | grants => return (← Namespace.codec.read j).metadata.anyName

end ControlPlane.ControllerId
