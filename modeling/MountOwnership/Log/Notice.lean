import MountOwnership.Log.Level
import MountOwnership.NamespaceFilter
import MountOwnership.Settings

/-!
# Notices

What the program tells in its log on the way from its start to its end, with the
level and the part of the program that it comes from.
-/

namespace MountOwnership

/-- A part of the program that writes to the log. -/
inductive Component where
  /-- The start of the program. -/
  | program
  /-- The controller. -/
  | controller
  /-- The watch. -/
  | watch
  /-- The namespace filter. -/
  | namespaceFilter
deriving DecidableEq, Repr

/-- The target of the log lines of a part. -/
def Component.target : Component → String
  | .program => "configmap_owner_controller"
  | .controller => "configmap_owner_controller::controller"
  | .watch => "configmap_owner_controller::watcher"
  | .namespaceFilter => "configmap_owner_controller::reconciler::namespace_filter"

/-- Something that the program tells in its log. -/
inductive Notice where
  /-- The program starts. -/
  | starting
  /-- The settings follow. -/
  | settingsFollow
  /-- The namespace patterns. -/
  | patterns (patterns : List String)
  /-- The namespace that is watched. -/
  | scope (ns : Option String)
  /-- Whether changes are only logged. -/
  | dryRun (b : Bool)
  /-- How much is logged. -/
  | verbosity (debug trace : Bool)
  /-- The number of ReplicaSets worked on at a time. -/
  | concurrency (n : Nat)
  /-- The controller is set up. -/
  | initializing
  /-- The number of ReplicaSets worked on at a time is lowered to the bound. -/
  | concurrencyLowered (n bound : Nat)
  /-- A namespace pattern matches nothing, since it is malformed. -/
  | patternIgnored (source : String) (fault : Pattern.Fault)
  /-- The time of the start, as text. -/
  | ignoringUntil (start : String)
  /-- The controller runs. -/
  | running
  /-- The watch starts. -/
  | watching
  /-- A signal to stop came. -/
  | stopping
deriving DecidableEq, Repr

namespace Notice

/-- The level of a notice. -/
def level : Notice → Log.Level
  | .concurrencyLowered .. | .patternIgnored .. => .warn
  | _ => .info

/-- The part of the program that a notice comes from. -/
def component : Notice → Component
  | .starting | .settingsFollow | .patterns _ | .scope _ | .dryRun _ | .verbosity .. |
    .concurrency _ => .program
  | .initializing | .concurrencyLowered .. | .ignoringUntil _ | .running | .stopping =>
    .controller
  | .patternIgnored .. => .namespaceFilter
  | .watching => .watch

/-- The wording of a notice. -/
def message : Notice → String
  | .starting => "Starting ConfigMap Owner Controller"
  | .settingsFollow => "Configuration:"
  | .patterns [] => "  Namespace patterns: <all namespaces>"
  | .patterns ps => "  Namespace patterns: " ++ Text.quotedList ps
  | .scope ns => "  Watch scope: " ++ ns.getD "all namespaces"
  | .dryRun b => "  Dry run: " ++ toString b
  | .verbosity debug trace => "  Debug: " ++ toString debug ++ ", Trace: " ++ toString trace
  | .concurrency n => "  Max concurrent reconciles: " ++ toString n
  | .initializing => "Initializing ConfigMap Owner Controller"
  | .concurrencyLowered n bound =>
    "Max concurrent reconciles " ++ toString n ++ " too large, using " ++ toString bound
  | .patternIgnored source fault =>
    "Ignoring invalid namespace pattern " ++ Text.quoted source ++ ": " ++ fault.message
  | .ignoringUntil start => "Ignoring ReplicaSets created at or before " ++ start
  | .running => "ConfigMap Owner Controller running"
  | .watching => "Starting ReplicaSet watcher"
  | .stopping => "Shutdown signal received, stopping"

end Notice

end MountOwnership
