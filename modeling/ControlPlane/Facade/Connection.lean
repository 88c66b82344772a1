import ControlPlane.Object
import ControlPlane.Reference

/-!
# Connections

A connection binds to a database service that an inventory offers.
-/

namespace ControlPlane

structure ConnectionSpec where
  inventoryRef : NamespacedRef
  databaseServiceId : String
  databaseServiceName : Option String
  databaseServiceType : Option String
deriving DecidableEq, Inhabited

def ConnectionSpec.codec : Codec ConnectionSpec :=
  Record.codec "DBaaSConnectionSpec"
    ("A connection to a database service exposed by an inventory.\n\n" ++
      "The inventory may live in another namespace when its effective policy allows connections " ++
      "from this one.")
    (ConnectionSpec.mk
      <$> .required "inventoryRef" NamespacedRef.codec (·.inventoryRef)
        "Inventory exposing the database service"
      <*> .required "databaseServiceID" .string (·.databaseServiceId)
        "Provider-assigned identifier of the database service"
      <*> .optional "databaseServiceName" .string (·.databaseServiceName)
        "Display name of the database service"
      <*> .optional "databaseServiceType" .string (·.databaseServiceType)
        "Type of the database service")

structure ConnectionDetails where
  credentialsRef : Option LocalRef
  connectionInfoRef : Option LocalRef
deriving DecidableEq, Inhabited

def ConnectionDetails.record : Record ConnectionDetails ConnectionDetails :=
  ConnectionDetails.mk
    <$> .optional "credentialsRef" LocalRef.codec (·.credentialsRef)
      "Secret holding the connection credentials"
    <*> .optional "connectionInfoRef" LocalRef.codec (·.connectionInfoRef)
      "ConfigMap holding host/port/database details"

abbrev Connection := Observed ConnectionSpec (Status ConnectionDetails)

namespace Connection

def kind : String := "DBaaSConnection"

def plural : String := "dbaasconnections"

def statusCodec : Codec (Status ConnectionDetails) :=
  Record.codec "DBaaSConnectionStatus" "Observed state of a connection, copied from the backend"
    (Status.record ConnectionDetails.record)

def codec : Codec Connection := Observed.codec kind ConnectionSpec.codec statusCodec

end Connection

end ControlPlane
