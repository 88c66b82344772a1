import ControlPlane.Controller.Dispatch
import ControlPlane.Controller.Memory
import ControlPlane.Http.Server

/-!
# The operator

All controllers together, with an API server of their own that they reach by requests. Every object
is reconciled again until nothing is written any more. Between, users change objects in phases.

A controller starts once all objects of its collection can be read, and passes over those that
cannot be read later. In the same way providers are remembered as they were read last.
-/

namespace ControlPlane

open Http

structure Operator where
  server : Server := {}
  memory : Memory := {}
  /-- The collections that could be read as a whole at some time. -/
  listed : List String := []
  /-- The name of the controllers as a writer. -/
  manager : String := managerName

/-- What is to be merged into an object. -/
structure ObjectPatch where
  key : StoreKey
  patch : Json

/-- What users do at one time. -/
structure UserPhase where
  reviews : Option (List ReviewAnswer)
  served : Option (List ApiResource)
  put : List (StoreKey × Json)
  merged : List ObjectPatch
  removed : List StoreKey

/-- The collection of the objects of a kind. -/
def ApiResource.collection (r : ApiResource) : String := s!"{r.apiVersion}/{r.plural}"

/-- Where providers are kept. -/
def Provider.collection : String := (ApiResource.ofPlane Provider.kind Provider.plural).collection

/-- Where the objects are kept that a controller reconciles. -/
def ControllerId.keptIn (id : ControllerId) : String :=
  match id with
  | facade k => (ApiResource.ofPlane k.kind k.plural).collection
  | policy => (ApiResource.ofPlane Policy.kind Policy.plural).collection
  | grants => (ApiResource.ofKind "v1" "Namespace").collection

/-- The objects of a collection. -/
def Http.Server.inCollection (s : Server) (collection : String) : List (StoreKey × Json) :=
  s.objects.filter fun e => e.1.collection = collection

namespace Operator

def answer : (s : Step) → Operator → s.Reply × Operator
  | .api c, o =>
    let (r, server) := (converse o.manager c).run Server.answer o.server
    (r, { o with server })
  | .memory c, o =>
    let (r, memory) := o.memory.answer c
    (r, { o with memory })

/-- The collections that are watched, and what it takes to read an object of them. -/
def watched : List (String × (Json → Bool)) :=
  (Provider.collection, fun j => (Provider.codec.read j).isOk) ::
    ControllerId.all.map fun id => (id.keptIn, fun j => (id.key j).isOk)

/-- Takes in the collections that can be read as a whole. -/
def list (o : Operator) : Operator :=
  let readable := watched.filter fun w => (o.server.inCollection w.1).all fun e => w.2 e.2
  { o with listed := (readable.map (·.1)).filter (· ∉ o.listed) ++ o.listed }

/-- The providers as they were read last. -/
def readProviders (o : Operator) : ObjectStore Provider where
  entries := (o.server.inCollection Provider.collection).filterMap fun e =>
    let ref : ObjectRef := ⟨e.1.ns, e.1.name⟩
    let before := o.memory.providers.bind fun s => s.find? ref
    ((Provider.codec.read e.2).toOption.or before).map fun p => (ref, p)

/-- Sees what there is after a change by users. -/
def look (o : Operator) : Operator :=
  let o := o.list
  if Provider.collection ∈ o.listed then
    { o with memory := { o.memory with providers := some o.readProviders } }
  else o

/-- Lets a controller reconcile an object. One that cannot be read is passed over, and a failure is
dealt with as the controller does. -/
def reconcile (interval : Duration) (now : Instant) (o : Operator) (id : ControllerId) (j : Json) :
    Operator :=
  match id.reconcile interval now j, id.key j with
  | .ok c, .ok key =>
    match c.run.run answer o with
    | (.ok _, o) => o
    | (.error e, o) => ((Controller.afterError id interval key e).run answer o).2
  | _, _ => o

/-- Reconciles every object once, as it is when its turn comes. -/
def round (interval : Duration) (now : Instant) (o : Operator) : Operator :=
  (ControllerId.all.filter fun id => id.keptIn ∈ o.listed).foldl (fun o id =>
    ((o.server.inCollection id.keptIn).map (·.1)).foldl (fun o k =>
      match o.server.find? k with
      | some j => o.reconcile interval now id j
      | none => o) o) o

/-- Reconciles all objects until a round writes nothing, for at most `fuel` rounds. -/
def settle (interval : Duration) (now : Instant) : (fuel : Nat) → Operator → Operator
  | 0, o => o
  | fuel + 1, o =>
    let after := o.round interval now
    if after.server.version = o.server.version then after else settle interval now fuel after

/-- The rounds after which the operator should have settled. -/
def maxRounds : Nat := 100

/-- Does what the users do. -/
def apply (o : Operator) (p : UserPhase) : Operator :=
  let s := { o.server with
    reviews := p.reviews.getD o.server.reviews
    served := p.served.getD o.server.served }
  let s := p.put.foldl (fun s e => (s.put e.1 e.2).2) s
  let s := p.merged.foldl (fun s e => (s.update e.key none e.patch.applyPatch).2) s
  { o with server := p.removed.foldl Server.remove s }

/-- What users do, and what the controllers make of it. -/
def phase (interval : Duration) (now : Instant) (o : Operator) (p : UserPhase) : Operator :=
  (o.apply p).look.settle interval now maxRounds

/-! ## What the controllers maintain -/

/-- The collections that only users write to. -/
def userCollections : List String :=
  [ControllerId.grants.keptIn, Provider.collection,
    (ApiResource.ofPlane Tenant.kind Tenant.plural).collection]

/-- The collections of whose objects the controllers write the status. -/
def statusCollections : List String :=
  (ControllerId.all.map (·.keptIn)).filter (· ∉ userCollections)

/-- The part of an object that the controllers maintain: its status, or everything but what the
server adds to the metadata. -/
def maintained (k : StoreKey) (j : Json) : Json :=
  if k.collection ∈ statusCollections then
    .ofMembers [("status", (j.get? "status").getD .null)]
  else
    match j.get? "metadata" with
    | some (.object m) =>
      j.withMember "metadata" (.object ((Dict.erase m "resourceVersion").erase "uid"))
    | _ => j

/-- What the controllers maintain, in order. -/
def results (o : Operator) : List (StoreKey × Json) :=
  (o.server.objects.filter fun e => e.1.collection ∉ userCollections).map fun e =>
    (e.1, maintained e.1 e.2)

end Operator

end ControlPlane
