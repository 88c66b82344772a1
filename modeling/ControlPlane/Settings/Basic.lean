import ControlPlane.ApiResource
import ControlPlane.Duration
import ControlPlane.Settings.LogFormat
import ControlPlane.Text.Blank

/-!
# Settings

The control plane is set up by flags, by variables of the environment and by defaults, in this
order. `Settings.parse` reads the flags from left to right: a flag with a value takes it from behind
an equals sign or from the next argument, and the value is looked at once the next flag, or the end,
is reached.
-/

namespace ControlPlane

structure Settings where
  logFormat : LogFormat := .json
  concurrency : Nat := 4
  requeueSecs : Nat := 300
  watchTimeoutSecs : Nat := 25
  fieldManager : String := managerName
  installCrds : Bool := false

namespace Settings

def requeueInterval (s : Settings) : Duration := .ofSeconds s.requeueSecs

/-- What keeps the controllers from running with these settings. -/
def problem? (s : Settings) : Option String :=
  if s.requeueSecs = 0 then some "--requeue-secs must be greater than zero"
  else if s.watchTimeoutSecs = 0 ∨ 30 ≤ s.watchTimeoutSecs then
    some "--watch-timeout-secs must be between 1 and 29"
  else if Text.allBlank s.fieldManager then some "--field-manager must not be empty"
  else none

/-- Why settings cannot be read. -/
inductive Fault where
  /-- A value is not of the form that its flag needs. -/
  | valueValidation
  /-- A value is missing, or is none of the possible ones. -/
  | invalidValue
  | unknownArgument
  /-- A flag is given twice. -/
  | argumentConflict
  /-- A flag that takes no value has one. -/
  | tooManyValues
  | displayHelp
deriving DecidableEq

def Fault.name : Fault → String
  | .valueValidation => "ValueValidation"
  | .invalidValue => "InvalidValue"
  | .unknownArgument => "UnknownArgument"
  | .argumentConflict => "ArgumentConflict"
  | .tooManyValues => "TooManyValues"
  | .displayHelp => "DisplayHelp"

inductive Flag where
  | logFormat
  | concurrency
  | requeueSecs
  | watchTimeoutSecs
  | fieldManager
  | installCrds
  | help
deriving DecidableEq

namespace Flag

def all : List Flag :=
  [.logFormat, .concurrency, .requeueSecs, .watchTimeoutSecs, .fieldManager, .installCrds, .help]

/-- How the flag is written behind two dashes. -/
def long : Flag → String
  | .logFormat => "log-format"
  | .concurrency => "concurrency"
  | .requeueSecs => "requeue-secs"
  | .watchTimeoutSecs => "watch-timeout-secs"
  | .fieldManager => "field-manager"
  | .installCrds => "install-crds"
  | .help => "help"

/-- The variable of the environment that stands in for the flag. -/
def envName? : Flag → Option String
  | .logFormat => some "DBAAS_LOG_FORMAT"
  | .concurrency => some "DBAAS_CONCURRENCY"
  | .requeueSecs => some "DBAAS_REQUEUE_SECS"
  | .watchTimeoutSecs => some "DBAAS_WATCH_TIMEOUT_SECS"
  | .fieldManager => some "DBAAS_FIELD_MANAGER"
  | .installCrds => some "DBAAS_INSTALL_CRDS"
  | .help => none

def takesValue : Flag → Bool
  | .installCrds => false
  | .help => false
  | _ => true

def ofLong? (name : String) : Option Flag := all.find? fun f => f.long = name

end Flag

/-- The digits of a number; at least one. -/
def digits? (cs : List Char) : Option Nat :=
  if cs.isEmpty ∨ ¬ cs.all Char.isDigit then none
  else some (cs.foldl (fun n c => n * 10 + (c.toNat - '0'.toNat)) 0)

/-- A number of at most `max`. Where the number is read with a sign, zero may have a minus. -/
def number (signed : Bool) (max : Nat) (text : String) : Except Fault Nat :=
  let n? :=
    match text.toList with
    | '+' :: rest => digits? rest
    | '-' :: rest => if signed then (digits? rest).filter (· = 0) else none
    | cs => digits? cs
  match n? with
  | some n => if n ≤ max then .ok n else .error .valueValidation
  | none => .error .valueValidation

/-- Settings that have been given, by flag. -/
structure Given where
  settings : Settings := {}
  flags : List Flag := []

/-- The settings with the value of a flag. -/
def set (s : Settings) (f : Flag) (value : String) : Except Fault Settings :=
  match f with
  | .logFormat =>
    match LogFormat.parse value with
    | .ok format => .ok { s with logFormat := format }
    | .error _ => .error .valueValidation
  | .concurrency => (number true 0xFFFF value).map fun n => { s with concurrency := n }
  | .requeueSecs => (number false 0xFFFFFFFFFFFFFFFF value).map fun n => { s with requeueSecs := n }
  | .watchTimeoutSecs =>
    (number true 0xFFFFFFFF value).map fun n => { s with watchTimeoutSecs := n }
  | .fieldManager => .ok { s with fieldManager := value }
  | .installCrds =>
    if value = "true" then .ok { s with installCrds := true }
    else if value = "false" then .ok { s with installCrds := false }
    else .error .invalidValue
  | .help => .error .displayHelp

/-- Takes in the value of a flag. -/
def Given.put (g : Given) (f : Flag) (value : String) : Except Fault Given :=
  (g.settings.set f value).map fun s => { settings := s, flags := f :: g.flags }

/-- Takes in a flag of the command line, which may be given once. -/
def Given.putOnce (g : Given) (f : Flag) (value : String) : Except Fault Given :=
  if f ∈ g.flags then .error .argumentConflict else g.put f value

/-- A flag that was read, and its value as soon as that is. -/
abbrev Pending := Option (Flag × Option String)

/-- Takes in the flag that was read last. -/
def Given.settle (g : Given) : Pending → Except Fault Given
  | none => .ok g
  | some (_, none) => .error .invalidValue
  | some (f, some value) => g.putOnce f value

/-- The part of an argument before its first equals sign, and the part behind it. -/
def splitValue (cs : List Char) : String × Option String :=
  match cs.dropWhile (· ≠ '=') with
  | [] => (String.ofList cs, none)
  | _ :: value => (String.ofList (cs.takeWhile (· ≠ '=')), some (String.ofList value))

/-- Reads a flag behind two dashes. -/
def Given.long (g : Given) (pending : Pending) (cs : List Char) : Except Fault (Given × Pending) :=
  let (name, value) := splitValue cs
  match Flag.ofLong? name with
  | none => .error .unknownArgument
  | some f =>
    if f.takesValue then do
      let g ← g.settle pending
      match value with
      | some v => return (← g.putOnce f v, none)
      | none => return (g, some (f, none))
    else
      match value with
      | some _ => .error .tooManyValues
      | none => do
        let g ← g.settle pending
        return (← g.putOnce f "true", none)

/-- Reads the arguments from left to right. -/
def Given.arguments (g : Given) (pending : Pending) : List String → Except Fault Given
  | [] => g.settle pending
  | arg :: rest =>
    match arg.toList with
    | ['-', '-'] => if rest.isEmpty then g.settle pending else .error .unknownArgument
    | '-' :: '-' :: cs => do
      let (g, pending) ← g.long pending cs
      arguments g pending rest
    | '-' :: c :: _ =>
      if c = 'h' then do
        let _ ← g.settle pending
        throw .displayHelp
      else .error .unknownArgument
    | _ =>
      match pending with
      | some (f, none) => arguments g (some (f, some arg)) rest
      | _ => .error .unknownArgument

/-- Takes the flags that were not given from the environment. -/
def Given.environment (env : String → Option String) (g : Given) : List Flag → Except Fault Given
  | [] => .ok g
  | f :: rest =>
    if f ∈ g.flags then environment env g rest
    else
      match f.envName?.bind env with
      | some value => do environment env (← g.put f value) rest
      | none => environment env g rest

/-- The settings given by these arguments and this environment. -/
def parse (arguments : List String) (env : String → Option String) : Except Fault Settings := do
  let g ← ({} : Given).arguments none arguments
  let g ← g.environment env Flag.all
  return g.settings

end Settings

end ControlPlane
