import MountOwnership.CommandLine
import MountOwnership.Error
import MountOwnership.Text.Blank

/-!
# Settings

The settings of the controller: what the command line gives, overlaid with the
environment. A variable that is set and not empty wins over the command line; a
flag can be turned on by its variable and not off.
-/

namespace MountOwnership

/-- A variable of the environment. -/
inductive Variable where
  /-- The namespace patterns. -/
  | namespaceRegex
  /-- Whether to write nothing. -/
  | dryRun
  /-- Whether to log details. -/
  | debug
  /-- Whether to log everything. -/
  | trace
  /-- The namespace to watch. -/
  | watchNamespace
  /-- The number of ReplicaSets worked on at a time. -/
  | concurrency
deriving DecidableEq, Repr

/-- The name of a variable. -/
def Variable.name : Variable → String
  | .namespaceRegex => "NAMESPACE_REGEX"
  | .dryRun => "DRY_RUN"
  | .debug => "DEBUG"
  | .trace => "TRACE"
  | .watchNamespace => "WATCH_NAMESPACE"
  | .concurrency => "MAX_CONCURRENT_RECONCILES"

/-- The values of the variables that are set. -/
abbrev Environment := Variable → Option String

namespace Environment

/-- No variable is set. -/
def empty : Environment := fun _ => none

/-- The value of a variable that is set and not empty. -/
def nonEmpty (env : Environment) (v : Variable) : Option String :=
  (env v).filter fun value => !value.isEmpty

/-- Whether a variable turns a flag on. -/
def turnsOn (env : Environment) (v : Variable) : Bool := env v == some "true"

end Environment

/-- The settings of the controller. -/
structure Settings where
  /-- The patterns of the namespaces to work in; none stands for every namespace. -/
  patterns : List String := []
  /-- Whether to log changes instead of writing them. -/
  dryRun : Bool := false
  /-- Whether to log details. -/
  debug : Bool := false
  /-- Whether to log everything. -/
  trace : Bool := false
  /-- The only namespace to watch. -/
  watchNamespace : Option String := none
  /-- The number of ReplicaSets worked on at a time. -/
  concurrency : Nat := 3
deriving DecidableEq, Repr

namespace Settings

/-- The pattern list that applies: the variable where it is not empty, else the option. -/
def patternSource (args : CommandLine.Arguments) (env : Environment) : String :=
  (env.nonEmpty .namespaceRegex).getD (args.namespaceRegex.getD "")

/-- The concurrency that applies. -/
def resolveConcurrency (args : CommandLine.Arguments) (env : Environment) :
    Except SettingsFault Nat :=
  match env.nonEmpty .concurrency with
  | some raw =>
    match Text.readWord (Text.trim raw) with
    | .ok 0 => .error .concurrencyZero
    | .ok n => .ok n
    | .error _ => .error (.concurrencyNoCount raw)
  | none =>
    match args.concurrency.getD 3 with
    | 0 => .error .concurrencyZero
    | n => .ok n

/-- The settings from the command line and the environment. -/
def resolve (args : CommandLine.Arguments) (env : Environment) :
    Except SettingsFault Settings :=
  (resolveConcurrency args env).map fun concurrency =>
    let trace := args.trace.getD false || env.turnsOn .trace
    { patterns := Text.entries (patternSource args env)
      dryRun := args.dryRun.getD false || env.turnsOn .dryRun
      debug := args.debug.getD false || env.turnsOn .debug || trace
      trace := trace
      watchNamespace :=
        (env.nonEmpty .watchNamespace).or (args.watchNamespace.filter fun ns => !ns.isEmpty)
      concurrency := concurrency }

/-- The log filter that follows the flags. -/
def logFilter (s : Settings) : String :=
  if s.trace then "trace"
  else if s.debug then "debug,kube=info,hyper=info,tower=info"
  else "info"

end Settings

end MountOwnership
