import ControlPlane.Object
import ControlPlane.Reference

/-!
# Database instances

An instance asks the provider of an inventory for a new database.
-/

namespace ControlPlane

structure InstanceSpec where
  inventoryRef : NamespacedRef
  name : String
  cloudProvider : Option String
  cloudRegion : Option String
  otherInstanceParams : Dict String
deriving DecidableEq, Inhabited

def InstanceSpec.codec : Codec InstanceSpec :=
  Record.codec "DBaaSInstanceSpec" "A new database instance requested from a provider." <|
    InstanceSpec.mk
      <$> .required "inventoryRef" NamespacedRef.codec (·.inventoryRef)
        "Inventory to provision through"
      <*> .required "name" .string (·.name) "Name of the instance at the provider"
      <*> .optional "cloudProvider" .string (·.cloudProvider)
        "Cloud the provider should place the instance in"
      <*> .optional "cloudRegion" .string (·.cloudRegion) "Region within the cloud"
      <*> .dict "otherInstanceParams" (·.otherInstanceParams)
        "Provider-specific provisioning parameters"

structure InstanceDetails where
  instanceId : Option String
  instanceInfo : Dict String
  phase : Option String
deriving DecidableEq, Inhabited

def InstanceDetails.record : Record InstanceDetails InstanceDetails :=
  InstanceDetails.mk
    <$> .optional "instanceID" .string (·.instanceId) "Provider-assigned instance identifier"
    <*> .dict "instanceInfo" (·.instanceInfo) "Provider-specific details"
    <*> .optional "phase" .string (·.phase) "Provisioning phase reported by the provider"

abbrev DbInstance := Observed InstanceSpec (Status InstanceDetails)

namespace DbInstance

def kind : String := "DBaaSInstance"

def plural : String := "dbaasinstances"

def statusCodec : Codec (Status InstanceDetails) :=
  Record.codec "DBaaSInstanceStatus" "Observed state of an instance, copied from the backend"
    (Status.record InstanceDetails.record)

def codec : Codec DbInstance := Observed.codec kind InstanceSpec.codec statusCodec

end DbInstance

end ControlPlane
