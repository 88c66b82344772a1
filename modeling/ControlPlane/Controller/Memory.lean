import ControlPlane.Controller.Basic
import ControlPlane.ObjectStore
import ControlPlane.Retry

/-!
# The memory of the controllers

What the controllers keep between their runs. The three facade controllers share what they know
about providers and kinds; watches and failures are kept by each controller for itself.
-/

namespace ControlPlane

structure Memory where
  /-- The providers that a watch has seen, when there is such a watch. -/
  providers : Option (ObjectStore Provider) := none
  kinds : Dict ApiResource := []
  watches : FacadeKind → WatchRegistry := fun _ => {}
  failures : ControllerId → Backoff := fun _ => {}

namespace Memory

def withWatches (m : Memory) (k : FacadeKind) (w : WatchRegistry) : Memory :=
  { m with watches := fun l => if l = k then w else m.watches l }

def withFailures (m : Memory) (id : ControllerId) (b : Backoff) : Memory :=
  { m with failures := fun i => if i = id then b else m.failures i }

def answer : (c : MemoryCall) → Memory → c.Reply × Memory
  | .seenProviders, m => ((m.providers.map (·.objects)).getD [], m)
  | .knownKind key, m => (m.kinds.get? key, m)
  | .learnKind key r, m => ((), { m with kinds := m.kinds.insert key r })
  | .ensureWatch k provider r, m => ((), m.withWatches k ((m.watches k).ensure provider r).2)
  | .countFailure id key, m =>
    let (d, b) := Backoff.next Backoff.standard (m.failures id) key
    (d.getD Backoff.standard.maxDelay, m.withFailures id b)
  | .forgetFailures id key, m => ((), m.withFailures id ((m.failures id).reset key))

end Memory

end ControlPlane
