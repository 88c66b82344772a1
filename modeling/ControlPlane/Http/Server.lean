import ControlPlane.Cluster.Basic
import ControlPlane.Http.Calls

/-!
# An API server in memory

The server keeps objects by collection, namespace and name, in order. A write gives its object a new
version and is refused when it names another version than the stored one. It answers reviews and
tells which kinds are served, and it knows no field selectors.
-/

namespace ControlPlane.Http

/-- Where an object is stored. A collection is called after the version and plural of its kind. -/
structure StoreKey where
  collection : String
  ns : Option String
  name : String
deriving DecidableEq, Inhabited

namespace StoreKey

/-- Keys are in the order of collections, then of namespaces, none first, then of names. -/
def precedes (a b : StoreKey) : Bool :=
  if a.collection ≠ b.collection then a.collection < b.collection
  else if a.ns = b.ns then a.name < b.name
  else
    match a.ns, b.ns with
    | none, _ => true
    | some _, none => false
    | some m, some n => m < n

/-- The identity that the object at a key is given. -/
def uid (k : StoreKey) : String :=
  let ns := k.ns.getD ""
  s!"{k.collection}/{ns}/{k.name}"

end StoreKey

/-- What a path stands for. -/
inductive Route where
  | groups
  | coreVersions
  | kinds (groupVersion : String)
  | collection (name : String) (ns : Option String)
  /-- An object, or a part of it that has a path of its own. -/
  | object (key : StoreKey) (part : Option String)

namespace Route

/-- What follows the version in a path. -/
def ofParts (version : String) : List String → Option Route
  | ["namespaces", name] => some (.object ⟨s!"{version}/namespaces", none, name⟩ none)
  | ["namespaces", ns, plural] => some (.collection s!"{version}/{plural}" (some ns))
  | ["namespaces", ns, plural, name] => some (.object ⟨s!"{version}/{plural}", some ns, name⟩ none)
  | ["namespaces", ns, plural, name, part] =>
    some (.object ⟨s!"{version}/{plural}", some ns, name⟩ (some part))
  | [plural] => some (.collection s!"{version}/{plural}" none)
  | [plural, name] => some (.object ⟨s!"{version}/{plural}", none, name⟩ none)
  | [plural, name, part] => some (.object ⟨s!"{version}/{plural}", none, name⟩ (some part))
  | _ => none

def ofPath? (path : String) : Option Route :=
  match path.splitOn "/" with
  | ["", "apis"] => some .groups
  | ["", "api"] => some .coreVersions
  | ["", "api", v] => some (.kinds v)
  | ["", "apis", g, v] => some (.kinds s!"{g}/{v}")
  | "" :: "api" :: v :: rest => ofParts v rest
  | "" :: "apis" :: g :: v :: rest => ofParts s!"{g}/{v}" rest
  | _ => none

end Route

structure Server where
  /-- The objects, in the order of their keys. -/
  objects : List (StoreKey × Json) := []
  /-- The version that was given out last. -/
  version : Nat := 0
  reviews : List ReviewAnswer := []
  served : List ApiResource := []

namespace Server

def find? (s : Server) (k : StoreKey) : Option Json :=
  (s.objects.find? fun e => e.1 = k).map (·.2)

/-- Puts an entry into its place among those that are in order. -/
def insertEntry (k : StoreKey) (j : Json) : List (StoreKey × Json) → List (StoreKey × Json)
  | [] => [(k, j)]
  | e :: rest =>
    if e.1 = k then (k, j) :: rest
    else if k.precedes e.1 then (k, j) :: e :: rest
    else e :: insertEntry k j rest

/-- An object with a uid; the one that it has stays. -/
def identified (k : StoreKey) (j : Json) : Json :=
  if (j.metadataText? "uid").isSome then j
  else j.withMember "metadata" (((j.get? "metadata").getD .null).withMember "uid" (.string k.uid))

/-- Stores an object under a new version. -/
def put (s : Server) (k : StoreKey) (j : Json) : Json × Server :=
  let version := s.version + 1
  let j := (identified k j).withResourceVersion (toString version)
  (j, { s with objects := insertEntry k j s.objects, version })

def remove (s : Server) (k : StoreKey) : Server :=
  { s with objects := s.objects.filter fun e => e.1 ≠ k }

/-! ## Responses -/

def found (j : Json) : Response := ⟨200, j.text⟩

def refused (code : Nat) (reason message : String) : Response where
  status := code
  body := (Json.ofMembers [("kind", .string "Status"), ("status", .string "Failure"),
    ("message", .string message), ("reason", .string reason), ("code", .ofNat code)]).text

def missing (k : StoreKey) : Response :=
  refused 404 "NotFound" s!"{k.collection} {k.name} not found"

def changed (k : StoreKey) : Response :=
  refused 409 "Conflict" s!"{k.collection} {k.name} was modified"

/-! ## Discovery -/

def groupVersionJson (groupVersion : String) : Json :=
  .ofMembers [("groupVersion", .string groupVersion),
    ("version", .string (splitApiVersion groupVersion).2)]

/-- The groups of the kinds that are served, each with its versions. -/
def groupsJson (s : Server) : Json :=
  let groups := ((s.served.map (·.group)).filter fun g => !g.isEmpty).eraseDups
  let versions := fun g => ((s.served.filter fun r => r.group = g).map (·.apiVersion)).eraseDups
  .ofMembers [("groups", .array (groups.map fun g =>
    .ofMembers [("name", .string g), ("versions", .array ((versions g).map groupVersionJson))]))]

/-- The core group is always served. -/
def coreVersionsJson (s : Server) : Json :=
  let versions := ("v1" :: (s.served.filter fun r => r.group.isEmpty).map (·.version)).eraseDups
  .ofMembers [("versions", .ofStrings versions)]

def kindsJson (s : Server) (groupVersion : String) : Json :=
  let kind := fun (r : ApiResource) =>
    Json.ofMembers [("name", .string r.plural), ("kind", .string r.kind),
      ("namespaced", .bool true)]
  .ofMembers [("groupVersion", .string groupVersion),
    ("resources", .array ((s.served.filter fun r => r.apiVersion = groupVersion).map kind))]

/-! ## Requests -/

/-- The answer to a review. -/
def review (s : Server) (body : Json) : Json :=
  let text := fun k => (body.text? k).getD ""
  let q : AccessQuestion :=
    ⟨text "verb", text "resourceAPIGroup", text "resource", body.text? "namespace",
      body.text? "resourceName"⟩
  let names := ((s.reviews.find? fun a => a.question = q).map fun a => (a.users, a.groups)).getD
    ([], [])
  .ofMembers [("users", .ofStrings names.1), ("groups", .ofStrings names.2)]

def list (s : Server) (collection : String) (ns : Option String) : Json :=
  let entries := s.objects.filter fun e =>
    e.1.collection = collection && (ns.isNone || e.1.ns = ns)
  .ofMembers [("metadata", .ofMembers [("resourceVersion", .string (toString s.version))]),
    ("items", .array (entries.map (·.2)))]

def create (s : Server) (collection : String) (ns : Option String) (body : Json) :
    Response × Server :=
  let k : StoreKey := ⟨collection, ns, body.place.name⟩
  match s.find? k with
  | some _ => (refused 409 "AlreadyExists" s!"{k.collection} {k.name} already exists", s)
  | none =>
    let (j, s) := s.put k body
    (found j, s)

/-- Changes an object, if `version` is that of the stored one or is not given. -/
def update (s : Server) (k : StoreKey) (version : Option String) (f : Json → Json) :
    Response × Server :=
  match s.find? k with
  | none => (missing k, s)
  | some j =>
    if version.isSome ∧ version ≠ j.resourceVersion? then (changed k, s)
    else
      let (j, s) := s.put k (f j)
      (found j, s)

/-- A patch to the status changes nothing else, and no patch changes the metadata. -/
def patched (part : Option String) (patch stored : Json) : Json :=
  let members := (patch.asObject?.getD []).filter fun e =>
    if part = some "status" then e.1 = "status" else e.1 ≠ "metadata"
  (Json.object members).applyPatch stored

def answer (r : Request) (s : Server) : Response × Server :=
  let body := r.content
  let version := body.resourceVersion?
  match r.uri.splitOn "?" with
  | [] => (refused 404 "NotFound" "no path", s)
  | path :: parameters =>
    match Route.ofPath? path, r.method with
    | some .groups, _ => (found s.groupsJson, s)
    | some .coreVersions, _ => (found s.coreVersionsJson, s)
    | some (.kinds groupVersion), _ => (found (s.kindsJson groupVersion), s)
    | some (.collection c ns), .post =>
      if c.startsWith AccessQuestion.reviewApiVersion then (found (s.review body), s)
      else s.create c ns body
    | some (.collection c ns), .get =>
      if parameters.any fun p => p.startsWith "&fieldSelector" then
        (refused 400 "BadRequest" "field label not supported", s)
      else (found (s.list c ns), s)
    | some (.object k _), .get =>
      match s.find? k with
      | some j => (found j, s)
      | none => (missing k, s)
    | some (.object k _), .put => s.update k version fun _ => body
    | some (.object k part), .patch => s.update k version (patched part body)
    | some (.object k _), .delete =>
      match s.find? k with
      | some j => (found j, s.remove k)
      | none => (missing k, s)
    | _, _ => (refused 405 "MethodNotAllowed" "not allowed", s)

end Server

end ControlPlane.Http
