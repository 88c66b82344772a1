import ControlPlane.Cluster.Call
import ControlPlane.Duration
import ControlPlane.Program
import ControlPlane.Watch.Registry

/-!
# Controllers

A controller reconciles one object at a time: it compares what there is with what there should be,
writes what differs and says when it wants to look again. What it does is a program that calls the
API server and uses the memory of the controllers, so that each call and each use of the memory is
one step, and between two steps others may take theirs.
-/

namespace ControlPlane

/-- The controllers: one for each kind of facade, one for policies and one for grants. -/
inductive ControllerId where
  | facade (k : FacadeKind)
  | policy
  | grants
deriving DecidableEq, Inhabited

/-- When to look at an object again. -/
inductive Action where
  | requeue (after : Duration)
  /-- Not before it changes. -/
  | awaitChange
deriving DecidableEq, Inhabited

/-- What the controllers ask of their own memory. -/
inductive MemoryCall where
  /-- Asks for the providers that a watch has seen. -/
  | seenProviders
  | knownKind (key : String)
  | learnKind (key : String) (resource : ApiResource)
  /-- Makes sure that a kind is watched on behalf of a provider. -/
  | ensureWatch (k : FacadeKind) (provider : String) (resource : ApiResource)
  /-- Counts a failure of an object and asks how long to wait. -/
  | countFailure (controller : ControllerId) (key : String)
  /-- Forgets the failures of an object. -/
  | forgetFailures (controller : ControllerId) (key : String)

@[reducible] def MemoryCall.Reply : MemoryCall → Type
  | seenProviders => List Provider
  | knownKind _ => Option ApiResource
  | countFailure _ _ => Duration
  | _ => Unit

/-- One step of a controller. -/
inductive Step where
  | api (call : Call)
  | memory (call : MemoryCall)

@[reducible] def Step.Reply : Step → Type
  | api c => c.Reply
  | memory c => c.Reply

/-- What a controller does to find an `α`; an error ends it. -/
abbrev Controller (α : Type) := ExceptT Error (Program Step Step.Reply) α

namespace Controller

variable {α : Type}

/-- Calls the API server. -/
def api (c : Call) : Controller c.Answer := ExceptT.mk (Program.ask (Step.api c))

def memory (c : MemoryCall) : Controller c.Reply := ExceptT.lift (Program.ask (Step.memory c))

/-- The result, and none when a write met a conflict. -/
def unlessConflict (x : Controller α) : Controller (Option α) :=
  tryCatch (some <$> x) fun e => if e.isConflict then pure none else throw e

/-- The time after which an object is looked at again when a write met a conflict. -/
def conflictPause : Duration := .ofSeconds 1

/-- What follows when reconciling an object has failed. Errors that trying again can mend wait ever
longer; the others wait for the time after which every object is looked at again. -/
def afterError (id : ControllerId) (interval : Duration) (key : String) (e : Error) :
    Program Step Step.Reply Action :=
  if e.isRetryable then do
    let d ← Program.ask (Step.memory (.countFailure id key))
    return .requeue d
  else return .requeue interval

end Controller

end ControlPlane
