import ControlPlane.Manifest.Basic
import ControlPlane.Settings.Basic

/-!
# The command line

`crd` prints the manifests. Otherwise the controllers are to be run, which takes valid settings and
a connection to an API server.
-/

namespace ControlPlane.CommandLine

inductive Command where
  | runControllers
  | printManifests

/-- The command named by a word. -/
def Command.ofName? : String → Option Command
  | "controller" => some .runControllers
  | "crd" => some .printManifests
  | _ => none

/-- Whether the next argument is the value of this one. -/
def expectsValue (arg : String) : Bool :=
  match arg.toList with
  | '-' :: '-' :: name => (Settings.Flag.ofLong? (String.ofList name)).any (·.takesValue)
  | _ => false

/-- The command and the flags before it. Without a command the controllers are run. -/
def split : List String → Command × List String
  | [] => (.runControllers, [])
  | [arg] =>
    match Command.ofName? arg with
    | some c => (c, [])
    | none => (.runControllers, [arg])
  | arg :: value :: rest =>
    if expectsValue arg then
      let (c, flags) := split rest
      (c, arg :: value :: flags)
    else
      let (c, flags) := split (value :: rest)
      (c, arg :: flags)

def usage : String := "Usage: dbaas-operator [OPTIONS] [COMMAND]"

/-- The variables that stand in for flags, as far as they are set. -/
def environment : IO (List (String × String)) :=
  (Settings.Flag.all.filterMap (·.envName?)).filterMapM fun k => do
    return (← IO.getEnv k).map fun v => (k, v)

/-- Why the controllers do not run. -/
def obstacle (s : Settings) : String :=
  s.problem?.getD "failed to create kubernetes client: no cluster is configured"

def run (args : List String) : IO UInt32 := do
  let env ← environment
  let (command, flags) := split args
  match Settings.parse flags fun k => (env.find? fun v => v.1 = k).map (·.2) with
  | .error .displayHelp =>
    IO.println usage
    return 0
  | .error e =>
    IO.eprintln s!"error: {e.name}"
    return 2
  | .ok s =>
    match command with
    | .printManifests =>
      IO.print KindManifest.stream
      return 0
    | .runControllers =>
      let problem := obstacle s
      IO.eprintln s!"Error: {problem}"
      return 1

end ControlPlane.CommandLine

def main (args : List String) : IO UInt32 := ControlPlane.CommandLine.run args
