import ControlPlane.Facade.Connection
import ControlPlane.Facade.DbInstance
import ControlPlane.Facade.Inventory

/-!
# Facades

A facade is a request that does not depend on a provider, and for which the control plane keeps a
backend object of the provider's own kind. Inventories name their provider; connections and
instances name an inventory.
-/

namespace ControlPlane

inductive FacadeKind where
  | inventory
  | connection
  | dbInstance
deriving DecidableEq, Inhabited

namespace FacadeKind

@[reducible] def Spec : FacadeKind → Type
  | .inventory => InventorySpec
  | .connection => ConnectionSpec
  | .dbInstance => InstanceSpec

@[reducible] def Details : FacadeKind → Type
  | .inventory => InventoryDetails
  | .connection => ConnectionDetails
  | .dbInstance => InstanceDetails

/-- What the kind is called in messages. -/
def role : FacadeKind → String
  | .inventory => "inventory"
  | .connection => "connection"
  | .dbInstance => "instance"

/-- The kind by which it is served. -/
def kind : FacadeKind → String
  | .inventory => Inventory.kind
  | .connection => Connection.kind
  | .dbInstance => DbInstance.kind

def plural : FacadeKind → String
  | .inventory => Inventory.plural
  | .connection => Connection.plural
  | .dbInstance => DbInstance.plural

def resource (k : FacadeKind) : ApiResource :=
  { group := planeGroup, version := planeVersion, apiVersion := planeApiVersion, kind := k.kind
    plural := k.plural }

def specCodec : (k : FacadeKind) → Codec k.Spec
  | .inventory => InventorySpec.codec
  | .connection => ConnectionSpec.codec
  | .dbInstance => InstanceSpec.codec

def statusCodec : (k : FacadeKind) → Codec (Status k.Details)
  | .inventory => Inventory.statusCodec
  | .connection => Connection.statusCodec
  | .dbInstance => DbInstance.statusCodec

instance (k : FacadeKind) : DecidableEq k.Details :=
  match k with
  | .inventory => inferInstanceAs (DecidableEq InventoryDetails)
  | .connection => inferInstanceAs (DecidableEq ConnectionDetails)
  | .dbInstance => inferInstanceAs (DecidableEq InstanceDetails)

instance (k : FacadeKind) : Inhabited k.Details :=
  match k with
  | .inventory => ⟨⟨[]⟩⟩
  | .connection => ⟨⟨none, none⟩⟩
  | .dbInstance => ⟨⟨none, [], none⟩⟩

end FacadeKind

abbrev Facade (k : FacadeKind) := Observed k.Spec (Status k.Details)

/-- What a facade names: its provider, or the inventory through which it is provided. -/
inductive Reference where
  | provider (ref : ProviderRef)
  | inventory (ref : NamespacedRef)

namespace Facade

variable {k : FacadeKind}

def codec (k : FacadeKind) : Codec (Facade k) := Observed.codec k.kind k.specCodec k.statusCodec

def reference : {k : FacadeKind} → Facade k → Reference
  | .inventory, f => .provider f.spec.providerRef
  | .connection, f => .inventory f.spec.inventoryRef
  | .dbInstance, f => .inventory f.spec.inventoryRef

/-- The spec as it is handed on to the backend. -/
def specJson (f : Facade k) : Json := k.specCodec.encode f.spec

/-- The status reported so far; an empty one if there is none. -/
def currentStatus (f : Facade k) : Status k.Details := f.status.getD default

/-- The key by which failures of the facade are counted and its errors name it. -/
def key (f : Facade k) : String := objectKey f.metadata.ns f.metadata.anyName

end Facade

end ControlPlane
