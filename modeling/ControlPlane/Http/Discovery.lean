import ControlPlane.Access.Role
import ControlPlane.Http.Client

/-!
# Discovery

The server tells which groups it serves, in which versions, and which kinds there are in a version.
To find out how a kind is served, the versions of its group are asked for one after the other.
-/

namespace ControlPlane.Http

structure GroupVersion where
  groupVersion : String
  version : String
deriving Inhabited

def GroupVersion.codec : Codec GroupVersion :=
  Record.objectCodec "GroupVersionForDiscovery" "" <|
    GroupVersion.mk
      <$> .filled "groupVersion" .string (·.groupVersion)
      <*> .filled "version" .string (·.version)

/-- An address of the server, for clients from some network. -/
structure ServerAddress where
  clientCidr : String
  serverAddress : String
deriving Inhabited

def ServerAddress.codec : Codec ServerAddress :=
  Record.objectCodec "ServerAddressByClientCIDR" "" <|
    ServerAddress.mk
      <$> .filled "clientCIDR" .string (·.clientCidr)
      <*> .filled "serverAddress" .string (·.serverAddress)

structure ApiGroup where
  name : String
  preferredVersion : Option GroupVersion
  addresses : Option (List ServerAddress)
  versions : List GroupVersion
deriving Inhabited

def ApiGroup.codec : Codec ApiGroup :=
  Record.objectCodec "APIGroup" "" <|
    (fun _ _ n p a v => ApiGroup.mk n p a v)
      <$> .fixed "apiVersion" "v1"
      <*> .fixed "kind" "APIGroup"
      <*> .filled "name" .string (·.name)
      <*> .optional "preferredVersion" GroupVersion.codec (·.preferredVersion) ""
      <*> .optional "serverAddressByClientCIDRs" (.list ServerAddress.codec) (·.addresses) ""
      <*> .filled "versions" (.list GroupVersion.codec) (·.versions)

/-- The groups that are served, but for the core group. -/
structure ApiGroups where
  groups : List ApiGroup

def ApiGroups.codec : Codec ApiGroups :=
  Record.objectCodec "APIGroupList" "" <|
    (fun _ _ g => ApiGroups.mk g)
      <$> .fixed "apiVersion" "v1"
      <*> .fixed "kind" "APIGroupList"
      <*> .filled "groups" (.list ApiGroup.codec) (·.groups)

/-- The versions of the core group. -/
structure CoreVersions where
  addresses : List ServerAddress
  versions : List String

def CoreVersions.codec : Codec CoreVersions :=
  Record.objectCodec "APIVersions" "" <|
    (fun _ _ a v => CoreVersions.mk a v)
      <$> .fixed "apiVersion" "v1"
      <*> .fixed "kind" "APIVersions"
      <*> .filled "serverAddressByClientCIDRs" (.list ServerAddress.codec) (·.addresses)
      <*> .filled "versions" (.list .string) (·.versions)

/-- A kind that is served, or a part of its objects that has a path of its own. -/
structure ServedKind where
  name : String
  kind : String
  group : Option String
  version : Option String
  namespaced : Bool
  singularName : String
  verbs : List String
  shortNames : Option (List String)
  categories : Option (List String)
  storageVersionHash : Option String
deriving Inhabited

def ServedKind.codec : Codec ServedKind :=
  Record.objectCodec "APIResource" "" <|
    ServedKind.mk
      <$> .filled "name" .string (·.name)
      <*> .filled "kind" .string (·.kind)
      <*> .optional "group" .string (·.group) ""
      <*> .optional "version" .string (·.version) ""
      <*> .filled "namespaced" .bool (·.namespaced)
      <*> .filled "singularName" .string (·.singularName)
      <*> .filled "verbs" (.list .string) (·.verbs)
      <*> .optional "shortNames" (.list .string) (·.shortNames) ""
      <*> .optional "categories" (.list .string) (·.categories) ""
      <*> .optional "storageVersionHash" .string (·.storageVersionHash) ""

/-- The kinds of one version. -/
structure ServedKinds where
  groupVersion : String
  kinds : List ServedKind

def ServedKinds.codec : Codec ServedKinds :=
  Record.objectCodec "APIResourceList" "" <|
    (fun _ _ g r => ServedKinds.mk g r)
      <$> .fixed "apiVersion" "v1"
      <*> .fixed "kind" "APIResourceList"
      <*> .filled "groupVersion" .string (·.groupVersion)
      <*> .filled "resources" (.list ServedKind.codec) (·.kinds)

namespace ServedKinds

/-- How a kind is served; what it says of its group and version counts more than what the list
says. -/
def resource (l : ServedKinds) (k : ServedKind) : ApiResource :=
  let (group, version) := splitApiVersion l.groupVersion
  { group := k.group.getD group
    version := k.version.getD version
    apiVersion := if group.isEmpty then version else s!"{group}/{version}"
    kind := k.kind
    plural := k.name }

/-- The first of the kinds of this name, parts of objects aside. -/
def find? (l : ServedKinds) (kind : String) : Option ApiResource :=
  (l.kinds.find? fun k => !k.name.toList.contains '/' && k.kind = kind).map l.resource

end ServedKinds

namespace Discovery

/-- Asks at a path that is not that of an object. -/
def ask {α : Type} (c : Codec α) (path : String) : Exchange α :=
  match usableUri? path with
  | none => Exchange.fail (.unusablePath "invalid uri character")
  | some _ => Exchange.fetch c { method := .get, uri := path, contentType := none, body := none }

def emptyGroup (group : String) : ClusterError := .discovery s!"Empty Api Group: {group}"

/-- The kinds of all versions of a group, in the order of the versions. -/
def versions (root : String) : List GroupVersion → Exchange (List (String × ServedKinds))
  | [] => return []
  | v :: rest => do
    let kinds ← ask ServedKinds.codec s!"{root}/{v.groupVersion}"
    return (v.version, kinds) :: (← versions root rest)

/-- The kinds of a group that is listed, of the last one if it is listed several times. -/
def listed : List ApiGroup → Exchange (Option (List (String × ServedKinds)))
  | [] => return none
  | g :: rest => do
    if g.versions.isEmpty then throw (emptyGroup g.name)
    let kinds ← versions "/apis" g.versions
    return (← listed rest).or (some kinds)

/-- The kinds of the core group. -/
def core : Exchange (List (String × ServedKinds)) := do
  let c ← ask CoreVersions.codec "/api"
  if c.versions.isEmpty then throw (emptyGroup "")
  versions "/api" (c.versions.map fun v => ⟨v, v⟩)

/-- How a kind is served, if it is. -/
def find (apiVersion kind : String) : Exchange (Option ApiResource) := do
  let (group, version) := splitApiVersion apiVersion
  let groups ← ask ApiGroups.codec "/apis"
  let named ← listed (groups.groups.filter fun g => g.name = group)
  let kinds ← if group.isEmpty then some <$> core else pure named
  return ((kinds.getD []).find? fun v => v.1 = version).bind fun v => v.2.find? kind

/-- The context of errors of discovery. -/
def context : String := "discovery"

/-- What is said of discovery that failed. -/
def failure (e : ClusterError) : Error := .internal s!"API discovery failed: {e.text}" context

end Discovery

end ControlPlane.Http
