import BatchOperator.CommandLine

/-!
# The program

The command line of the operator: it prints what was asked for, or reads the configuration from the
environment and reports why it cannot go on. There is no way to reach a cluster from here.
-/

set_option autoImplicit false

namespace BatchOperator.Program

/-- Where the system keeps the name of the host. -/
def hostNameFile : String := "/etc/hostname"

/-- The name that the system gives to this host, if it gives one. -/
def systemHost : IO (Option String) := do
  try return Config.hostName? (← IO.FS.readFile hostNameFile)
  catch _ => return none

/-- The variables that settings are read from. -/
def variableNames : List String := [
  "WATCH_NAMESPACE", "WORKERS", "RESYNC_PERIOD_SECS", "CHILD_SYNC_TIMEOUT_SECS",
  "QUEUE_BACKOFF_MIN_SECS", "QUEUE_BACKOFF_MAX_SECS", "INSTALL_CRDS",
  "CRD_ESTABLISH_TIMEOUT_SECS", "EVENT_SINK", "CONTROLLER_NAME", "HOSTNAME", "EVENT_SINK_PRETTY"]

/-- The values of the variables that are set. -/
def environment : IO (List (String × String)) :=
  variableNames.filterMapM fun name => do
    return (← IO.getEnv name).map fun value => (name, value)

/-- Starts with the settings that were given, and returns the code to exit with. -/
def run (overrides : Overrides) : IO UInt32 := do
  let values ← environment
  match CommandLine.settings overrides (fun name => values.lookup name) (← systemHost) with
  | .error fault =>
    IO.eprintln ("Error: " ++ fault.error.message)
    return 1
  | .ok config =>
    IO.eprintln ("Loaded configuration: " ++ config.describe)
    IO.eprintln "Error: no cluster to connect to"
    return 1

/-- Does what the command line asks for, and returns the code to exit with. -/
def invoke (arguments : List String) : IO UInt32 := do
  match CommandLine.parse arguments with
  | .help =>
    IO.print CommandLine.helpText
    return 0
  | .version =>
    IO.print CommandLine.versionText
    return 0
  | .rejected =>
    IO.eprintln "error: the command line cannot be accepted; try '--help'"
    return 2
  | .run overrides => run overrides

end BatchOperator.Program

/-- The operator from the command line. -/
def main (arguments : List String) : IO UInt32 := BatchOperator.Program.invoke arguments
