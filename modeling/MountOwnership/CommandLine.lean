import MountOwnership.Text.Decimal
import MountOwnership.Text.Similarity

/-!
# The command line

The options of the controller, how arguments are read, and the wording of usage
errors and of the help text.

A value attached with `=` is taken at once. An option without one waits for the
next argument, which is its value unless it starts with a hyphen; what the
option gets is settled when the next option comes or the arguments end. The
first argument at fault decides the error.
-/

namespace MountOwnership.CommandLine

/-- An option that sets something. -/
inductive Setting where
  /-- The namespace patterns. -/
  | namespaceRegex
  /-- Whether to write nothing. -/
  | dryRun
  /-- Whether to log details. -/
  | debug
  /-- Whether to log everything. -/
  | trace
  /-- The namespace to watch. -/
  | watchNamespace
  /-- The number of ReplicaSets worked on at a time. -/
  | concurrency
deriving DecidableEq, Repr

namespace Setting

/-- Every option, in the order of the help text. -/
def all : List Setting :=
  [.namespaceRegex, .dryRun, .debug, .trace, .watchNamespace, .concurrency]

/-- The name of an option. -/
def name : Setting → String
  | .namespaceRegex => "namespace-regex"
  | .dryRun => "dry-run"
  | .debug => "debug"
  | .trace => "trace"
  | .watchNamespace => "watch-namespace"
  | .concurrency => "max-concurrent-reconciles"

/-- An option with the placeholder of its value. -/
def usage : Setting → String
  | .namespaceRegex => "--namespace-regex <NAMESPACE_REGEX>"
  | .dryRun => "--dry-run [<DRY_RUN>]"
  | .debug => "--debug [<DEBUG>]"
  | .trace => "--trace [<TRACE>]"
  | .watchNamespace => "--watch-namespace <WATCH_NAMESPACE>"
  | .concurrency => "--max-concurrent-reconciles <MAX_CONCURRENT_RECONCILES>"

/-- What an option without a value stands for, if it may stand alone. -/
def alone? : Setting → Option String
  | .dryRun | .debug | .trace => some "true"
  | .namespaceRegex | .watchNamespace | .concurrency => none

/-- The option of a name. -/
def ofName? (name : String) : Option Setting := all.find? fun s => s.name == name

end Setting

/-- What the arguments set. -/
structure Arguments where
  /-- The namespace patterns, divided by commas. -/
  namespaceRegex : Option String := none
  /-- Whether to write nothing. -/
  dryRun : Option Bool := none
  /-- Whether to log details. -/
  debug : Option Bool := none
  /-- Whether to log everything. -/
  trace : Option Bool := none
  /-- The namespace to watch. -/
  watchNamespace : Option String := none
  /-- The number of ReplicaSets worked on at a time. -/
  concurrency : Option Nat := none
deriving DecidableEq, Repr

/-- Whether an option is set. -/
def Arguments.isSet (a : Arguments) : Setting → Bool
  | .namespaceRegex => a.namespaceRegex.isSome
  | .dryRun => a.dryRun.isSome
  | .debug => a.debug.isSome
  | .trace => a.trace.isSome
  | .watchNamespace => a.watchNamespace.isSome
  | .concurrency => a.concurrency.isSome

/-- Why the arguments cannot be used, or that help is asked for. -/
inductive UsageError where
  /-- Help is asked for. -/
  | help
  /-- An argument that is no option; `shown` are the options that the usage line lists. -/
  | unknownArgument (argument : String) (similar : Option String) (shown : List Setting)
  /-- An option lacks its value. -/
  | missingValue (setting : Setting)
  /-- A value that is neither `true` nor `false`. -/
  | badFlag (setting : Setting) (value : String)
  /-- A value that is no count. -/
  | badCount (setting : Setting) (value : String) (reason : Text.CountError)
  /-- An option is given twice. -/
  | repeated (setting : Setting)
  /-- A value for the option that asks for help. -/
  | helpWithValue (value : String) (shown : List Setting)
deriving DecidableEq, Repr

/-- The truth value that a text stands for. -/
def readFlag? (value : String) : Option Bool :=
  if value = "true" then some true else if value = "false" then some false else none

/-- Take the value of an option that is not set yet. -/
def Arguments.put (a : Arguments) (setting : Setting) (value : String) :
    Except UsageError Arguments :=
  match setting with
  | .namespaceRegex => .ok { a with namespaceRegex := some value }
  | .watchNamespace => .ok { a with watchNamespace := some value }
  | .dryRun =>
    match readFlag? value with
    | some b => .ok { a with dryRun := some b }
    | none => .error (.badFlag setting value)
  | .debug =>
    match readFlag? value with
    | some b => .ok { a with debug := some b }
    | none => .error (.badFlag setting value)
  | .trace =>
    match readFlag? value with
    | some b => .ok { a with trace := some b }
    | none => .error (.badFlag setting value)
  | .concurrency =>
    match Text.readWord value with
    | .ok n => .ok { a with concurrency := some n }
    | .error reason => .error (.badCount setting value reason)

/-- Arguments being read. -/
structure Reading where
  /-- What is set so far. -/
  arguments : Arguments := {}
  /-- The options met so far, in order. -/
  met : List Setting := []
  /-- An option whose value is not settled yet, with the value that followed it. -/
  open? : Option (Setting × Option String) := none
  /-- Whether every further argument stands for itself. -/
  trailing : Bool := false
deriving DecidableEq, Repr

namespace Reading

/-- Set an option, once. -/
def assign (r : Reading) (setting : Setting) (value : String) : Except UsageError Reading :=
  if r.arguments.isSet setting then .error (.repeated setting)
  else (r.arguments.put setting value).map fun arguments =>
    { r with arguments := arguments, met := r.met ++ [setting] }

/-- Settle the value of the option that waits for one. -/
def settle (r : Reading) : Except UsageError Reading :=
  match r.open? with
  | none => .ok r
  | some (setting, value) =>
    match value.or setting.alone? with
    | some value => assign { r with open? := none } setting value
    | none => .error (.missingValue setting)

/-- The options met, the waiting one included where it would be counted as met. -/
def metWithOpen (r : Reading) : List Setting :=
  match r.open? with
  | none => r.met
  | some (setting, value) =>
    if r.arguments.isSet setting then r.met.filter (· ≠ setting)
    else if (value.or setting.alone?).isSome then r.met ++ [setting]
    else r.met

/-- Refuse a long option that is not known. -/
def unknownLong (r : Reading) (name : String) : UsageError :=
  let similar := Text.similarWord? name (Setting.all.map Setting.name ++ ["help"])
  let met := r.metWithOpen
  let shown := match similar.bind Setting.ofName? with
    | some setting => if met.contains setting then met else met ++ [setting]
    | none => met
  .unknownArgument ("--" ++ name) similar shown

/-- Read a long option with the value attached to it. -/
def long (r : Reading) (name : String) (value : Option String) : Except UsageError Reading :=
  if name = "help" then
    match value with
    | some value => .error (.helpWithValue value r.met)
    | none => do
      let _ ← r.settle
      .error .help
  else
    match Setting.ofName? name with
    | none => .error (r.unknownLong name)
    | some setting => do
      let r ← r.settle
      match value with
      | some value => r.assign setting value
      | none => .ok { r with open? := some (setting, none) }

/-- Read one argument. -/
def step (r : Reading) (argument : String) : Except UsageError Reading :=
  if r.trailing then .error (.unknownArgument argument none [])
  else
    match argument.toList with
    | ['-', '-'] => .ok { r with trailing := true }
    | '-' :: '-' :: rest =>
      let name := String.ofList (rest.takeWhile (· ≠ '='))
      let value := match rest.dropWhile (· ≠ '=') with
        | [] => none
        | _ :: value => some (String.ofList value)
      r.long name value
    | '-' :: 'h' :: _ => do
      let _ ← r.settle
      .error .help
    | '-' :: c :: _ => .error (.unknownArgument (String.ofList ['-', c]) none [])
    | _ =>
      match r.open? with
      | some (setting, none) => .ok { r with open? := some (setting, some argument) }
      | _ => .error (.unknownArgument argument none [])

end Reading

/-- Read the arguments of the program. -/
def parse (arguments : List String) : Except UsageError Arguments := do
  let r ← arguments.foldlM Reading.step {}
  let r ← r.settle
  return r.arguments

/-! ### Wording -/

/-- The name of the program. -/
def programName : String := "configmap-owner-controller"

/-- The usage line, which lists options or stands for all of them. -/
def usageLine (shown : List String) : String :=
  "Usage: " ++ programName ++ " " ++
    (if shown.isEmpty then "[OPTIONS]" else " ".intercalate shown)

/-- The values that a flag takes. -/
def flagValues : List String := ["true", "false"]

/-- What is wrong with the arguments, without the hint at the end. -/
def UsageError.detail : UsageError → String
  | .help => ""
  | .unknownArgument argument similar shown =>
    "unexpected argument '" ++ argument ++ "' found" ++
      (match similar with
        | some name => "\n\n  tip: a similar argument exists: '--" ++ name ++ "'"
        | none => "") ++
      "\n\n" ++ usageLine (shown.map Setting.usage ++
        (if similar = some "help" then ["--help"] else []))
  | .missingValue setting =>
    "a value is required for '" ++ setting.usage ++ "' but none was supplied"
  | .badFlag setting value =>
    (if value.isEmpty then
      "a value is required for '" ++ setting.usage ++ "' but none was supplied"
    else "invalid value '" ++ value ++ "' for '" ++ setting.usage ++ "'") ++
      "\n  [possible values: " ++ ", ".intercalate flagValues ++ "]" ++
      (match Text.similarWord? value flagValues with
        | some word => "\n\n  tip: a similar value exists: '" ++ word ++ "'"
        | none => "")
  | .badCount setting value reason =>
    "invalid value '" ++ value ++ "' for '" ++ setting.usage ++ "': " ++ reason.message
  | .repeated setting =>
    "the argument '" ++ setting.usage ++ "' cannot be used multiple times\n\n" ++ usageLine []
  | .helpWithValue value shown =>
    "unexpected value '" ++ value ++ "' for '--help' found; no more were expected\n\n" ++
      usageLine (shown.map Setting.usage ++ ["--help"])

/-- The text that tells a user what is wrong with the arguments. -/
def UsageError.message (e : UsageError) : String :=
  "error: " ++ e.detail ++ "\n\nFor more information, try '--help'.\n"

/-- What an option is for. -/
def Setting.help : Setting → String
  | .namespaceRegex =>
    "Comma-separated list of regex patterns to match namespaces (default: all namespaces). " ++
      "Blank entries such as the trailing one in \"^kube-,\" are ignored; they do not act as " ++
      "an empty pattern matching every namespace [default: \"\"]"
  | .dryRun =>
    "If true, only log what changes would be made without actually making them " ++
      "[default: false] [possible values: true, false]"
  | .debug => "Enable debug logging [default: false] [possible values: true, false]"
  | .trace =>
    "Enable trace logging (implies debug) [default: false] [possible values: true, false]"
  | .watchNamespace => "Only watch ReplicaSets in this namespace (default: all namespaces)"
  | .concurrency => "Maximum number of ReplicaSets reconciled in parallel [default: 3]"

/-- The lines of the help text. -/
def helpLines : List String :=
  ["Adds ReplicaSet owner references to the ConfigMaps they mount", "", usageLine [], "",
    "Options:"] ++
  (Setting.all.flatMap fun s => ["      " ++ s.usage, "          " ++ s.help]) ++
  ["  -h, --help", "          Print help"]

end MountOwnership.CommandLine
