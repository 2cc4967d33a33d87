import MountOwnership.Program

/-!
# The command line

Reads the environment and the configuration of the cluster, starts the program,
and prints what it tells. The connection to an API server is not part of this
library, so the program ends where the first request would be sent.
-/

namespace MountOwnership

/-- The variables of the environment that are settings. -/
def readEnvironment : IO Environment := do
  let namespaceRegex ← IO.getEnv Variable.namespaceRegex.name
  let dryRun ← IO.getEnv Variable.dryRun.name
  let debug ← IO.getEnv Variable.debug.name
  let trace ← IO.getEnv Variable.trace.name
  let watchNamespace ← IO.getEnv Variable.watchNamespace.name
  let concurrency ← IO.getEnv Variable.concurrency.name
  return fun
    | .namespaceRegex => namespaceRegex
    | .dryRun => dryRun
    | .debug => debug
    | .trace => trace
    | .watchNamespace => watchNamespace
    | .concurrency => concurrency

/-- The configuration of the cluster. -/
def readAccess : IO (Option Access) := do
  let named ← IO.getEnv "KUBECONFIG"
  let home ← IO.getEnv "HOME"
  let path := named.getD (home.getD "" ++ "/.kube/config")
  try
    return Kubeconfig.access? (← IO.FS.readFile path)
  catch _ =>
    return none

end MountOwnership

open MountOwnership in
/-- Run the program. -/
def main (arguments : List String) : IO UInt32 := do
  let launch := Program.launch arguments (← readEnvironment) (← readAccess)
  for line in launch.plainLines do
    IO.println line
  for notice in launch.shownNotices (← IO.getEnv Program.logVariable) "now" do
    IO.println (notice.level.name ++ " " ++ notice.component.target ++ ": " ++ notice.message)
  IO.eprint launch.errorText
  return ((launch.exitCode?).getD 1).toUInt32
