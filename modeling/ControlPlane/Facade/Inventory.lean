import ControlPlane.Policy.Basic
import ControlPlane.Reference

/-!
# Inventories

An inventory is an account at a provider together with the database services that the provider
found in it.
-/

namespace ControlPlane

structure InventorySpec where
  providerRef : ProviderRef
  credentialsRef : LocalRef
  authz : Option Authz
  policy : PolicyFields
deriving DecidableEq, Inhabited

def InventorySpec.codec : Codec InventorySpec :=
  Record.gatheringCodec "struct DBaaSInventorySpec"
    ("A provider account imported into a namespace.\n\n" ++
      "Example: ```yaml apiVersion: dbaas.dev/v1beta1 kind: DBaaSInventory metadata: name: " ++
      "crunchy-prod namespace: dbaas-inventories spec: providerRef: name: crunchy-bridge " ++
      "credentialsRef: name: crunchy-prod-credentials connectionNamespaces: [\"*\"] ```")
    (InventorySpec.mk
      <$> .required "providerRef" ProviderRef.codec (·.providerRef)
        "Provider backing this inventory"
      <*> .required "credentialsRef" LocalRef.codec (·.credentialsRef)
        "Secret holding the provider account credentials"
      <*> .optional "authz" Authz.codec (·.authz)
        "Users and groups granted read access to this inventory"
      <*> .flatten PolicyFields.record (·.policy))

structure DatabaseService where
  serviceId : String
  serviceName : Option String
  serviceType : Option String
  serviceInfo : Dict String
deriving DecidableEq, Inhabited

def DatabaseService.codec : Codec DatabaseService :=
  Record.codec "DatabaseService" "A database service offered by an inventory" <|
    DatabaseService.mk
      <$> .required "serviceID" .string (·.serviceId) "Provider-assigned identifier"
      <*> .optional "serviceName" .string (·.serviceName) "Display name"
      <*> .optional "serviceType" .string (·.serviceType) "Service type (e.g. `instance`)"
      <*> .dict "serviceInfo" (·.serviceInfo) "Provider-specific details"

structure InventoryDetails where
  databaseServices : List DatabaseService
deriving DecidableEq, Inhabited

def InventoryDetails.record : Record InventoryDetails InventoryDetails :=
  InventoryDetails.mk
    <$> .list "databaseServices" DatabaseService.codec (·.databaseServices)
      "Database services discovered in the provider account"

abbrev Inventory := Observed InventorySpec (Status InventoryDetails)

namespace Inventory

def kind : String := "DBaaSInventory"

def plural : String := "dbaasinventories"

def statusCodec : Codec (Status InventoryDetails) :=
  Record.codec "DBaaSInventoryStatus" "Observed state of an inventory, copied from the backend"
    (Status.record InventoryDetails.record)

def codec : Codec Inventory := Observed.codec kind InventorySpec.codec statusCodec

/-- The users and groups that the inventory names itself; naming none is not naming any. -/
def declaredAuthz? (i : Inventory) : Option Authz := i.spec.authz.filter fun a => !a.isEmpty

end Inventory

end ControlPlane
