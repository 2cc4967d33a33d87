import MountOwnership.Cluster.Kubeconfig
import MountOwnership.Log.Filter
import MountOwnership.Log.Notice

/-!
# The program

The way from the command line to the running controller: the arguments are read,
the settings resolved, the log opened and the configuration of the cluster found.
Each of these steps can end the program, with an exit code and a text of its own.
-/

namespace MountOwnership.Program

/-- The greatest number of ReplicaSets that can be worked on at a time. -/
def maxConcurrency : Nat := 65535

/-- The name of the variable that may hold a log filter. -/
def logVariable : String := "RUST_LOG"

/-- What the log says about the settings. -/
def settingsNotices (s : Settings) : List Notice :=
  [.starting, .settingsFollow, .patterns s.patterns, .scope s.watchNamespace, .dryRun s.dryRun,
    .verbosity s.debug s.trace, .concurrency s.concurrency]

/-- What the log says once the cluster's configuration is found; `start` is the time of the
start, as text. -/
def setupNotices (s : Settings) (start : String) : List Notice :=
  (if maxConcurrency < s.concurrency then [.concurrencyLowered s.concurrency maxConcurrency]
    else []) ++
  (NamespaceFilter.faults s.patterns).map (fun f => .patternIgnored f.1 f.2) ++
  [.ignoringUntil start]

/-- What the log says when the controller begins to watch. -/
def watchNotices : List Notice := [.running, .watching]

/-- Set the controller up: what the log says, and whether the cluster's configuration was found. -/
def setUp (s : Settings) (access : Option Access) (start : String) :
    List Notice × Except ControllerError Access :=
  match access with
  | none => ([.initializing], .error (.cluster (.transport .noConfiguration)))
  | some a => (.initializing :: setupNotices s start, .ok a)

/-- How far the program comes. -/
inductive Launch where
  /-- Help was asked for. -/
  | help
  /-- The arguments cannot be used. -/
  | misuse (error : CommandLine.UsageError)
  /-- The settings cannot be used. -/
  | misconfigured (fault : SettingsFault)
  /-- The controller cannot be set up. -/
  | failed (settings : Settings) (error : ControllerError)
  /-- The controller watches the cluster. -/
  | started (settings : Settings) (access : Access)

/-- Start the program. -/
def launch (arguments : List String) (env : Environment) (access : Option Access) : Launch :=
  match CommandLine.parse arguments with
  | .error .help => .help
  | .error e => .misuse e
  | .ok args =>
    match Settings.resolve args env with
    | .error fault => .misconfigured fault
    | .ok s =>
      match (setUp s access "").2 with
      | .error e => .failed s e
      | .ok a => .started s a

namespace Launch

/-- The code with which the program ends, unless it goes on. -/
def exitCode? : Launch → Option Nat
  | .help => some 0
  | .misuse _ => some 2
  | .misconfigured _ | .failed .. => some 1
  | .started .. => none

/-- The plain lines that are printed. -/
def plainLines : Launch → List String
  | .help => CommandLine.helpLines
  | _ => []

/-- What is told in the log; `start` is the time of the start, as text. -/
def notices (start : String) : Launch → List Notice
  | .help | .misuse _ | .misconfigured _ => []
  | .failed s _ => settingsNotices s ++ (setUp s none start).1
  | .started s a => settingsNotices s ++ (setUp s (some a) start).1 ++ watchNotices

/-- Whether log lines show where in the program they come from. -/
def showsLines : Launch → Bool
  | .failed s _ | .started s _ => s.trace
  | .help | .misuse _ | .misconfigured _ => false

/-- The notices that are shown, given the variable that holds a log filter. -/
def shownNotices (launch : Launch) (logFilter : Option String) (start : String) : List Notice :=
  match launch with
  | .help | .misuse _ | .misconfigured _ => []
  | .failed s _ | .started s _ =>
    let filter := Log.Filter.ofTexts logFilter s.logFilter
    (launch.notices start).filter fun n => filter.shows n.component.target n.level

end Launch

/-- A cluster error in diagnostics. -/
def clusterDiagnostic : ClusterError → String
  | .transport fault => "Kube(" ++ Text.quoted fault.message ++ ")"
  | .conflict message => "Conflict(" ++ Text.quoted message ++ ")"
  | .api message => "Api(" ++ Text.quoted message ++ ")"
  | .invalidRequest fault => "InvalidRequest(" ++ Text.quoted fault.message ++ ")"

/-- A controller error in diagnostics. -/
def diagnostic : ControllerError → String
  | .cluster e => "Cluster(" ++ clusterDiagnostic e ++ ")"
  | .invalidConfig fault => "InvalidConfig(" ++ Text.quoted fault.message ++ ")"
  | .ownerReference fault => "OwnerReference(" ++ Text.quoted fault.message ++ ")"
  | .cancelled => "Cancelled"

/-- The error with which the program ends, if there is one. -/
def Launch.error? : Launch → Option ControllerError
  | .misconfigured fault => some (.invalidConfig fault)
  | .failed _ e => some e
  | .help | .misuse _ | .started .. => none

/-- What is printed as an error. -/
def Launch.errorText (launch : Launch) : String :=
  match launch with
  | .misuse e => e.message
  | launch =>
    match launch.error? with
    | some e => "Error: " ++ diagnostic e ++ "\n"
    | none => ""

end MountOwnership.Program
