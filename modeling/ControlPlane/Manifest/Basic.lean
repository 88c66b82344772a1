import ControlPlane.Facade.Kind
import ControlPlane.Manifest.Yaml
import ControlPlane.Provider
import ControlPlane.Tenant

/-!
# Manifests of the control plane's kinds

A manifest tells the API server about a kind: its names, its scope, the columns of its listing and
the structural schema of its objects, which is that of the codecs of its spec and status.
-/

namespace ControlPlane

/-- A column of the listing of a kind. -/
structure Column where
  name : String
  type : String
  jsonPath : String

/-- What a manifest says about a kind. -/
structure KindManifest where
  kind : String
  plural : String
  namespaced : Bool
  columns : List Column
  spec : Dict Json
  /-- The schema of the status, for kinds that have one. -/
  status : Option (Dict Json)

namespace KindManifest

def columnJson (c : Column) : Json :=
  .ofMembers [("jsonPath", .string c.jsonPath), ("name", .string c.name), ("type", .string c.type)]

def name (m : KindManifest) : String := s!"{m.plural}.{planeGroup}"

/-- The schema of whole objects. -/
def schema (m : KindManifest) : Json :=
  let status :=
    match m.status with
    | some s => [("status", Json.object (s.insert "nullable" (.bool true)))]
    | none => []
  let description :=
    s!"Auto-generated derived type for {m.kind}Spec via `CustomResource`"
  .ofMembers
    [("description", .string description),
      ("properties", .ofMembers (("spec", .object m.spec) :: status)),
      ("required", .ofStrings ["spec"]), ("title", .string m.kind), ("type", .string "object")]

def version (m : KindManifest) : Json :=
  let subresources := if m.status.isSome then [("status", Json.object [])] else []
  .ofMembers
    [("additionalPrinterColumns", .array (m.columns.map columnJson)),
      ("name", .string planeVersion),
      ("schema", .ofMembers [("openAPIV3Schema", m.schema)]), ("served", .bool true),
      ("storage", .bool true), ("subresources", .ofMembers subresources)]

def names (m : KindManifest) : Json :=
  .ofMembers
    [("categories", .array []), ("kind", .string m.kind), ("plural", .string m.plural),
      ("shortNames", .array []), ("singular", .string (Text.lowercase m.kind))]

def members (m : KindManifest) : Dict Json :=
  Dict.ofList
    [("apiVersion", .string "apiextensions.k8s.io/v1"),
      ("kind", .string "CustomResourceDefinition"),
      ("metadata", .ofMembers [("name", .string m.name)]),
      ("spec", .ofMembers
        [("group", .string planeGroup), ("names", m.names),
          ("scope", .string (if m.namespaced then "Namespaced" else "Cluster")),
          ("versions", .array [m.version])])]

def toJson (m : KindManifest) : Json := .object m.members

def ageColumn : Column := ⟨"Age", "date", ".metadata.creationTimestamp"⟩

def readyColumn : Column := ⟨"Ready", "string", ".status.conditions[?(@.type==\"Ready\")].status"⟩

def textColumn (name jsonPath : String) : Column := ⟨name, "string", jsonPath⟩

def provider : KindManifest where
  kind := Provider.kind
  plural := Provider.plural
  namespaced := false
  columns :=
    [textColumn "Provider" ".spec.provider.name", textColumn "Inventory" ".spec.inventoryKind",
      ageColumn]
  spec := ProviderSpec.codec.schema
  status := none

def tenant : KindManifest where
  kind := Tenant.kind
  plural := Tenant.plural
  namespaced := false
  columns := [textColumn "Namespace" ".spec.inventoryNamespace", ageColumn]
  spec := TenantSpec.codec.schema
  status := none

def policy : KindManifest where
  kind := Policy.kind
  plural := Policy.plural
  namespaced := true
  columns := [readyColumn, ageColumn]
  spec := PolicySpec.codec.schema
  status := some PolicyStatus.codec.schema

/-- The manifest of a kind of facade. -/
def facade (k : FacadeKind) : KindManifest where
  kind := k.kind
  plural := k.plural
  namespaced := true
  columns :=
    match k with
    | .inventory => [textColumn "Provider" ".spec.providerRef.name", readyColumn, ageColumn]
    | .connection => [textColumn "Inventory" ".spec.inventoryRef.name", readyColumn, ageColumn]
    | .dbInstance =>
      [textColumn "Inventory" ".spec.inventoryRef.name", textColumn "Phase" ".status.phase",
        ageColumn]
  spec := k.specCodec.schema
  status := some k.statusCodec.schema

/-- All kinds, in the order in which they are installed. -/
def all : List KindManifest :=
  [provider, tenant, policy, facade .inventory, facade .connection, facade .dbInstance]

/-- The documents of all manifests. -/
def documents : List String := all.map fun m => Yaml.document m.members

/-- All manifests as one stream of documents. -/
def stream : String := "---\n".intercalate documents

end KindManifest

end ControlPlane
