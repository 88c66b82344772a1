import ControlPlane.Facade.Kind

/-!
# Providers

A provider registers the kinds of its backend objects, one for each kind of facade, under a name
by which inventories refer to it.
-/

namespace ControlPlane

structure ProviderInfo where
  name : String
  displayName : Option String
  displayDescription : Option String
deriving DecidableEq, Inhabited

def ProviderInfo.codec : Codec ProviderInfo :=
  Record.codec "ProviderInfo" "Provider identity and display metadata" <|
    ProviderInfo.mk
      <$> .required "name" .string (·.name) "Name facades use in `providerRef`"
      <*> .optional "displayName" .string (·.displayName) "Human-readable name"
      <*> .optional "displayDescription" .string (·.displayDescription) "Short description"

structure CredentialField where
  key : String
  displayName : Option String
  type : Option String
  required : Bool
deriving DecidableEq, Inhabited

def CredentialField.codec : Codec CredentialField :=
  Record.codec "CredentialField" "A credential key expected by the provider" <|
    CredentialField.mk
      <$> .required "key" .string (·.key) "Key inside the credentials secret"
      <*> .optional "displayName" .string (·.displayName) "Human-readable label"
      <*> .optional "type" .string (·.type) "Field type hint (e.g. `string`, `maskedstring`)"
      <*> .defaulted "required" .bool false (·.required) "Whether the key must be present"

structure InstanceParameterSpec where
  name : String
  displayName : Option String
  type : Option String
  required : Bool
  defaultValue : Option String
deriving DecidableEq, Inhabited

def InstanceParameterSpec.codec : Codec InstanceParameterSpec :=
  Record.codec "InstanceParameterSpec" "A provisioning parameter accepted by the provider" <|
    InstanceParameterSpec.mk
      <$> .required "name" .string (·.name) "Parameter name"
      <*> .optional "displayName" .string (·.displayName) "Human-readable label"
      <*> .optional "type" .string (·.type) "Parameter type hint"
      <*> .defaulted "required" .bool false (·.required) "Whether the parameter must be set"
      <*> .optional "defaultValue" .string (·.defaultValue)
        "Value used when the parameter is omitted"

structure ProviderSpec where
  provider : ProviderInfo
  groupVersion : Option String
  inventoryKind : String
  connectionKind : String
  instanceKind : String
  credentialFields : List CredentialField
  instanceParameterSpecs : List InstanceParameterSpec
deriving DecidableEq, Inhabited

def ProviderSpec.codec : Codec ProviderSpec :=
  Record.codec "DBaaSProviderSpec"
    ("Registration of a provider backend and the kinds it serves.\n\n" ++
      "Example: ```yaml apiVersion: dbaas.dev/v1beta1 kind: DBaaSProvider metadata: name: " ++
      "crunchy-bridge-registration spec: provider: name: crunchy-bridge displayName: Crunchy " ++
      "Bridge groupVersion: crunchybridge.example.com/v1alpha1 inventoryKind: " ++
      "CrunchyBridgeInventory connectionKind: CrunchyBridgeConnection instanceKind: " ++
      "CrunchyBridgeInstance ```")
    (ProviderSpec.mk
      <$> .required "provider" ProviderInfo.codec (·.provider) "Identity of the provider"
      <*> .optional "groupVersion" .string (·.groupVersion)
        "apiVersion of the backend kinds; defaults to `dbaas.dev/v1beta1`"
      <*> .required "inventoryKind" .string (·.inventoryKind)
        "Backend kind proxied by DBaaSInventory"
      <*> .required "connectionKind" .string (·.connectionKind)
        "Backend kind proxied by DBaaSConnection"
      <*> .required "instanceKind" .string (·.instanceKind)
        "Backend kind proxied by DBaaSInstance"
      <*> .list "credentialFields" CredentialField.codec (·.credentialFields)
        "Credential fields the provider expects in an inventory's secret"
      <*> .list "instanceParameterSpecs" InstanceParameterSpec.codec (·.instanceParameterSpecs)
        "Parameters accepted by DBaaSInstance.spec.otherInstanceParams")

abbrev Provider := Declared ProviderSpec

namespace Provider

def kind : String := "DBaaSProvider"

def plural : String := "dbaasproviders"

def codec : Codec Provider := Declared.codec kind ProviderSpec.codec

/-- The name by which the provider is referred to; that of the object if it registers none. -/
def registeredName (p : Provider) : String :=
  if p.spec.provider.name.isEmpty then p.metadata.anyName else p.spec.provider.name

/-- The apiVersion of the provider's kinds; the control plane's own if it gives none. -/
def backendApiVersion (p : Provider) : String :=
  match p.spec.groupVersion with
  | some v => if v.isEmpty then planeApiVersion else v
  | none => planeApiVersion

/-- The kind of the backend objects of a kind of facade. -/
def kindFor (p : Provider) : FacadeKind → String
  | .inventory => p.spec.inventoryKind
  | .connection => p.spec.connectionKind
  | .dbInstance => p.spec.instanceKind

end Provider

end ControlPlane
