/-!
# The form of log lines
-/

namespace ControlPlane

inductive LogFormat where
  | json
  | text
deriving DecidableEq, Inhabited

namespace LogFormat

def name : LogFormat → String
  | .json => "Json"
  | .text => "Text"

/-- The letters of ASCII in lower case. -/
def lowerAscii (s : String) : String := String.ofList (s.toList.map Char.toLower)

/-- Reads the name of a format, whatever the case of its letters. -/
def parse (s : String) : Except String LogFormat :=
  let lower := lowerAscii s
  if lower = "json" then .ok .json
  else if lower = "text" ∨ lower = "pretty" then .ok .text
  else .error s!"unknown log format '{lower}', expected 'json' or 'text'"

end LogFormat

/-- What is logged unless the environment says otherwise. -/
def defaultLogFilter : String := "info,dbaas=debug,kube=info,tower=warn,hyper=warn"

/-- The process has one place to log to; taking it a second time fails. -/
def loggingTakenMessage : String :=
  "failed to initialize tracing subscriber: a global default trace dispatcher has already been set"

end ControlPlane
