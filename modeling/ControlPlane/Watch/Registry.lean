import ControlPlane.ApiResource

/-!
# The registry of backend watches

Each controller watches the backend kinds of the providers in use, each kind once. A provider whose
kind changes releases its previous kind, and the watch of a kind that no provider uses is stopped.

`WatchRegistry.tasks` is the history of all watches that were ever started; a watch that ended by
itself is started anew when its kind is asked for again.
-/

namespace ControlPlane

inductive TaskState where
  | running
  /-- The task came to its end by itself. -/
  | ended
  /-- The task was stopped by the registry. -/
  | aborted
deriving DecidableEq, Inhabited

structure WatchTask where
  resource : ApiResource
  state : TaskState
deriving DecidableEq, Inhabited

/-- A kind that is watched, by which task and for which providers. -/
structure Registration where
  task : Nat
  providers : List String
deriving DecidableEq, Inhabited

structure WatchRegistry where
  /-- The tasks in the order in which they were started. -/
  tasks : List WatchTask := []
  byType : Dict Registration := []
  /-- The kind that each provider asked for last. -/
  byProvider : Dict String := []

namespace WatchRegistry

/-- The tasks with the one at position `i` in another state, if it is running. -/
def stop (tasks : List WatchTask) (i : Nat) (s : TaskState) : List WatchTask :=
  tasks.modify i fun t => if t.state = .running then { t with state := s } else t

def isRunning (tasks : List WatchTask) (i : Nat) : Bool :=
  match tasks[i]? with
  | some t => t.state = .running
  | none => false

/-- Starts a task; its position is the number of tasks before it. -/
def start (tasks : List WatchTask) (resource : ApiResource) : List WatchTask :=
  tasks ++ [⟨resource, .running⟩]

/-- The provider no longer uses the kind `key`. -/
def release (r : WatchRegistry) (provider key : String) : WatchRegistry :=
  match r.byType.get? key with
  | none => r
  | some reg =>
    let providers := reg.providers.filter (· ≠ provider)
    if providers.isEmpty then
      { r with byType := r.byType.erase key, tasks := stop r.tasks reg.task .aborted }
    else { r with byType := r.byType.insert key { reg with providers } }

/-- Records the kind of a provider and releases the one before. -/
def assign (r : WatchRegistry) (provider key : String) : WatchRegistry :=
  let r :=
    match r.byProvider.get? provider with
    | some previous => if previous ≠ key then r.release provider previous else r
    | none => r
  { r with byProvider := r.byProvider.insert provider key }

/-- Makes sure that a kind is watched for a provider; the flag says whether a task was started. -/
def ensure (r : WatchRegistry) (provider : String) (resource : ApiResource) :
    Bool × WatchRegistry :=
  let key := resource.key
  let r := r.assign provider key
  match r.byType.get? key with
  | some reg =>
    let providers := if provider ∈ reg.providers then reg.providers else reg.providers ++ [provider]
    if isRunning r.tasks reg.task then
      (false, { r with byType := r.byType.insert key { reg with providers } })
    else
      (true, { r with byType := r.byType.insert key ⟨r.tasks.length, providers⟩
                      tasks := start r.tasks resource })
  | none =>
    (true, { r with byType := r.byType.insert key ⟨r.tasks.length, [provider]⟩
                    tasks := start r.tasks resource })

/-- The keys of the kinds that are watched, in order. -/
def watched (r : WatchRegistry) : List String := r.byType.keys

/-- The task at position `i` comes to its end by itself. -/
def finish (r : WatchRegistry) (i : Nat) : WatchRegistry :=
  { r with tasks := stop r.tasks i .ended }

/-- The position of the task that was started last for a kind. -/
def latest? (r : WatchRegistry) (key : String) : Option Nat :=
  (List.range r.tasks.length).reverse.find? fun i =>
    match r.tasks[i]? with
    | some t => t.resource.key = key
    | none => false

/-- The controller is gone: every watch is stopped. -/
def close (r : WatchRegistry) : WatchRegistry :=
  { r with tasks := r.byType.values.foldl (fun ts reg => stop ts reg.task .aborted) r.tasks }

/-- The tasks of `after` that were not there before. -/
def started (before after : WatchRegistry) : List WatchTask := after.tasks.drop before.tasks.length

/-- The keys of the tasks that ran before and do not run any more, in order. -/
def stopped (before after : WatchRegistry) : List String :=
  (((before.tasks.zip after.tasks).filter fun p =>
    p.1.state = .running && p.2.state ≠ .running).map (·.1.resource.key)).mergeSort
      (fun a b => a ≤ b)

end WatchRegistry

end ControlPlane
