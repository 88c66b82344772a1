import ControlPlane.Text.Lowercase
import ControlPlane.Metadata

/-!
# Kinds of the API

A kind is served under a group and a version, and by its plural name. The plural of a kind that
nothing is known about is formed from its name by the rules of `pluralOf`.
-/

namespace ControlPlane

structure ApiResource where
  group : String
  version : String
  apiVersion : String
  kind : String
  plural : String
deriving DecidableEq, Inhabited

/-- The group and the version in `group/version`; without a slash the group is the core group. -/
def splitApiVersion (apiVersion : String) : String × String :=
  let cs := apiVersion.toList
  match cs.dropWhile (· ≠ '/') with
  | [] => ("", apiVersion)
  | _ :: rest => (String.ofList (cs.takeWhile (· ≠ '/')), String.ofList rest)

def groupOf (apiVersion : String) : String := (splitApiVersion apiVersion).1

/-- Plurals that the rules do not give. -/
def irregularPlurals : List (String × String) :=
  [("dbaaspolicy", "dbaaspolicies"), ("dbaasinventory", "dbaasinventories"),
    ("endpoints", "endpoints")]

def endsWith (cs ending : List Char) : Bool := ending.reverse.isPrefixOf cs.reverse

/-- The plural by which a kind is served: in lower case and with the usual English ending. -/
def pluralOf (kind : String) : String :=
  let lower := Text.lowercase kind
  match irregularPlurals.find? fun e => e.1 = lower with
  | some e => e.2
  | none =>
    let cs := lower.toList
    let ends := fun ending : String => endsWith cs ending.toList
    if ends "s" || ends "x" || ends "ch" || ends "sh" then lower ++ "es"
    else if ends "y" && !(ends "ay" || ends "ey") then String.ofList cs.dropLast ++ "ies"
    else lower ++ "s"

namespace ApiResource

/-- The resource of a kind, with the plural that follows from its name. -/
def ofKind (apiVersion kind : String) : ApiResource :=
  let (group, version) := splitApiVersion apiVersion
  { group := group, version := version, apiVersion := apiVersion, kind := kind
    plural := pluralOf kind }

/-- Identifies a kind at one version. -/
def typeKey (apiVersion kind : String) : String := s!"{apiVersion}/{kind}"

def key (r : ApiResource) : String := typeKey r.apiVersion r.kind

def toJson (r : ApiResource) : Json :=
  .ofMembers [("group", .string r.group), ("version", .string r.version),
    ("api_version", .string r.apiVersion), ("kind", .string r.kind), ("plural", .string r.plural)]

end ApiResource

/-- Whether the owner is of this kind. Versions are not compared, so that a new version of the
owner's kind leaves its objects with it. -/
def OwnerReference.isOfKind (owner : OwnerReference) (apiVersion kind : String) : Bool :=
  owner.kind = kind && groupOf owner.apiVersion = groupOf apiVersion

/-- The group and version of the control plane's own kinds. -/
def planeGroup : String := "dbaas.dev"
def planeVersion : String := "v1beta1"
def planeApiVersion : String := "dbaas.dev/v1beta1"

/-- The label that names the tool which manages an object, and its value here. -/
def managedByLabel : String := "app.kubernetes.io/managed-by"
def managerName : String := "dbaas-operator"

end ControlPlane
