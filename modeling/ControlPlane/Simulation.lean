import ControlPlane.Cluster.Answer
import ControlPlane.Controller.Dispatch
import ControlPlane.Controller.Memory

/-!
# Simulations

The controllers with a cluster of their own. Every call is recorded, and calls can be made to fail:
an outage is for one operation and fails it a number of times, after the outages that were there
before.
-/

namespace ControlPlane

structure Outage where
  /-- The name of the operation. -/
  call : String
  error : Error
  times : Nat

/-- The error of the first outage of an operation, and the outages after it was met once. -/
def Outage.meet (name : String) : List Outage → Option Error × List Outage
  | [] => (none, [])
  | f :: rest =>
    if f.call = name ∧ 0 < f.times then (some f.error, { f with times := f.times - 1 } :: rest)
    else
      let (e, rest) := meet name rest
      (e, f :: rest)

structure Simulation where
  cluster : Cluster := {}
  memory : Memory := {}
  outages : List Outage := []
  /-- Records of the calls and of the watches started, the last first. -/
  log : List Json := []

namespace Simulation

/-- The record of a watch that was started. -/
def watchRecord (t : WatchTask) : Json :=
  .ofMembers [("call", .string "spawn_watch"), ("resource", t.resource.toJson)]

/-- The watches that one memory has and the one before had not. -/
def startedWatches (before after : Memory) : List WatchTask :=
  [FacadeKind.inventory, .connection, .dbInstance].flatMap fun k =>
    (before.watches k).started (after.watches k)

def answer : (c : Step) → Simulation → c.Reply × Simulation
  | .api c, s =>
    let s := { s with log := c.toJson :: s.log }
    match Outage.meet c.name s.outages with
    | (some e, outages) => (.error e, { s with outages })
    | (none, _) =>
      let (r, cluster) := s.cluster.answer c
      (r, { s with cluster })
  | .memory c, s =>
    let (r, memory) := s.memory.answer c
    (r, { s with
      memory
      log := (startedWatches s.memory memory).reverse.map watchRecord ++ s.log })

/-- The result of a program in the simulation, and the simulation afterwards. -/
def run {α : Type} (p : Program Step Step.Reply α) (s : Simulation) : α × Simulation :=
  p.run answer s

end Simulation

end ControlPlane
