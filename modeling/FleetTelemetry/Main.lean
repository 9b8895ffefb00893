import FleetTelemetry.Cli.Run
import Std.Time

/-!
# The `fleetsync` command

Runs a command line on this machine: the `FLEETSYNC_*` variables come from the environment,
the configuration file and the snapshot from the disk below the current directory, and the
time from the system clock. What the run prints goes to standard output (JSON lines and the
result) and standard error (`error: …`), the snapshot is written back when the run changed it,
and the exit code is the run's.

The vendor and the sink are reached through the network the run is given; this entry point
gives it no servers, so their requests fail to connect.
-/

namespace FleetTelemetry.Cli

def configVariables : List String :=
  ["LOG_LEVEL", "LOG_JSON", "INTEGRATION_ID", "BASE_URL", "USERNAME", "PASSWORD",
   "LOOK_BACK_WINDOW_HOURS", "GMT_OFFSET", "SCHEMA", "QUIET_STATUSES", "MOVING_ONLY",
   "BATCH_SIZE", "MAX_ATTEMPTS", "STATE_FILE", "SINK_URL", "SINK_TOKEN"].map
    (Config.envPrefix ++ "_" ++ ·)

def readText? (path : String) : IO (Option String) :=
  try some <$> IO.FS.readFile path catch _ => pure none

def isDirectory (path : String) : IO Bool := do
  let here ← IO.currentDir
  { here with toString := path }.isDir

def observe (t : Files.Tree) (path : String) : IO Files.Tree := do
  let full := Files.join t.workDir path
  let parts := (Files.components full).drop 1
  match ← readText? full with
  | some text => pure { t with files := t.files ++ [(parts, text)] }
  | none =>
    if ← isDirectory full then pure { t with madeDirs := t.madeDirs ++ [parts] }
    else pure t

def writeBack (before after : Files.Tree) (path : String) : IO Unit := do
  match after.read? path with
  | some text =>
    if before.read? path != some text then
      let full := Files.join after.workDir path
      let parent := "/".intercalate ((Files.components full).drop 1).dropLast
      IO.FS.createDirAll ("/" ++ parent)
      IO.FS.writeFile full text
  | none => pure ()

end FleetTelemetry.Cli

open FleetTelemetry FleetTelemetry.Cli in
def main (args : List String) : IO UInt32 := do
  let env ← configVariables.filterMapM fun name => do
    pure ((← IO.getEnv name).map (name, ·))
  let workDir := (← IO.currentDir).toString
  let now : Time.Stamp := ⟨(← Std.Time.Timestamp.now).toNanosecondsSinceUnixEpoch.val, 0⟩
  let configName := match readInvocation args with
    | .ok inv => inv.config
    | .error _ => none
  let mut tree : Files.Tree := { workDir }
  for path in (configName.map (Config.candidatePaths workDir ·)).getD [] do
    tree ← observe tree path
  let snapshot := snapshotPath? args env tree
  if let some path := snapshot then
    tree ← observe tree path
  let (outcome, w) := (run args env now).run { network := ⟨[]⟩, tree }
  match outcome with
  | .args e => if e.toStdout then IO.print e.message else IO.eprint e.message
  | .done _ _ => IO.print (w.stdout ++ outcome.printed?.getD "" ++ "\n")
  | .halt h => IO.eprint ("thread 'main' panicked:\n" ++ h.message ++ "\n")
  | _ =>
    IO.print w.stdout
    IO.eprint ("error: " ++ outcome.errorText?.getD "" ++ "\n")
  if let some path := snapshot then
    writeBack tree w.tree path
  pure outcome.exitCode.toUInt32
