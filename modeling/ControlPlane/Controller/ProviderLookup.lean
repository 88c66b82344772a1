import ControlPlane.Controller.Basic

/-!
# Finding providers and their kinds

Providers come and go while the controllers run. They are read from what a watch has seen, or asked
for when it has seen nothing. How a kind is served does not change while it is, so that once known
it is remembered; of a kind that is not served yet the name of the kind tells what to expect.
-/

namespace ControlPlane.Controller

/-- Whether a provider comes before another one under the same registered name. Providers without a
name come first. -/
def precedes (p q : Provider) : Bool :=
  match p.metadata.name, q.metadata.name with
  | none, _ => true
  | some _, none => false
  | some a, some b => a ≤ b

/-- Of the providers registered under a name the first by the name of the object. -/
def registered? (providers : List Provider) (name : String) : Option Provider :=
  ((providers.filter fun p => p.registeredName = name).mergeSort precedes).head?

def registrations : Controller (List Provider) := do
  let seen ← memory .seenProviders
  if seen.isEmpty then api .listProviders else return seen

/-- The provider of this name, which the object `resource` refers to. -/
def provider (name resource : String) : Controller Provider := do
  match registered? (← registrations) name with
  | some p => return p
  | none => throw (.providerNotFound name resource)

/-- How the backends of a kind of facade are served by a provider. -/
def backendResource (p : Provider) (k : FacadeKind) : Controller ApiResource := do
  let kind := p.kindFor k
  if kind.isEmpty then
    throw (.validation p.registeredName s!"provider registers no {k.role} kind")
  let key := ApiResource.typeKey p.backendApiVersion kind
  match ← memory (.knownKind key) with
  | some r => return r
  | none =>
    match ← api (.discover p.backendApiVersion kind) with
    | some r =>
      memory (.learnKind key r)
      return r
    | none => return .ofKind p.backendApiVersion kind

end ControlPlane.Controller
