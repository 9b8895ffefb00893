import FleetTelemetry.Request.FileStore
import FleetTelemetry.Request.Loopback
import FleetTelemetry.Cli.Run

/-!
# Requests on the command line

A `cli` request runs the program on a command line, in a private working directory that may
hold a configuration file (`fleetsync.<ext>`) and a snapshot (`state.json`), with a scripted
vendor and sink on the loopback network and the given `FLEETSYNC_*` variables.

In the arguments, the configuration text, the variables and the scripts, `{config}` and
`{state}` stand for the two files, `{tmp}` for the directory, and `{vendor}`, `{sink}` and
`{closed}` for the URLs of the vendor, the sink and a port where nothing listens.

The answer shows how the run ended (the result and its printed text, or the failure with its
kind and text, or the command-line message), or, for a run as a process (`exec`), the exit code
with standard output and error. Either way it shows what the vendor and the sink received and
what the snapshot holds afterwards, masked like every loopback answer.
-/

namespace FleetTelemetry.Request

open Cli

def runDir : String := "/tmp/fleetsync-run"

def runSnapshot : String := runDir ++ "/" ++ snapshotFileName

def runPlaceholders (ext : String) : List (String × String) :=
  [("\x7bconfig\x7d", runDir ++ "/fleetsync." ++ ext), ("\x7bstate\x7d", runSnapshot),
   ("\x7btmp\x7d", runDir),
   ("\x7bvendor\x7d", loopbackUrl vendorPort ++ "/Assets_Report"),
   ("\x7bsink\x7d", loopbackUrl sinkPort ++ "/sink"),
   ("\x7bclosed\x7d", loopbackUrl closedPort ++ "/closed")]

/-- The variables of a run: names and texts, placeholders filled in. -/
def envOf (placeholders : List (String × String)) (input : Json) : Reply (List (String × String)) :=
  match field? input "env" with
  | none => pure []
  | some (.obj ms) =>
    eachOf (fun m => match m with
      | .arr [.str k, .str v] => pure (k, fillIn placeholders v)
      | _ => reject "env values must be strings") (ms.map fun (k, v) => .arr [.str k, v])
  | some _ => reject "env must be an object"

def outcomeMembers (o : Outcome) (stdout : String) : List (String × Json) :=
  match o with
  | .args e => [("error", .str ("Clap." ++ e.kind)), ("message", .str e.message),
      ("exit_code", .ofNat e.exitCode)]
  | .config f => [("error", .str "CliError.Config"),
      ("message", .str ("configuration error: " ++ f.text)), ("exit_code", .ofNat 2)]
  | .failed f => [("error", .str ("CliError." ++ f.variant)), ("message", .str f.message),
      ("exit_code", .ofNat f.exitCode), ("sink_stdout", .str stdout)]
  | .done r _ => [("data", r.data), ("exit_code", .ofNat r.exitCode),
      ("printed", .str (o.printed?.getD "")), ("sink_stdout", .str stdout)]
  | .halt h => [("error", .str "Panic"), ("message", .str h.message)]

/-- What a run as a process shows: exit code, standard output and standard error. -/
def processMembers (o : Outcome) (stdout : String) : List (String × Json) :=
  let (out, err) := match o with
    | .args e => if e.toStdout then (e.message, "") else ("", e.message)
    | .done _ _ => (stdout ++ o.printed?.getD "" ++ "\n", "")
    | _ => (stdout, "error: " ++ (o.errorText?.getD "") ++ "\n")
  [("exit_code", .ofNat o.exitCode), ("stdout", .str out), ("stderr", .str err)]

def commandLine (clock : Clock) (input : Json) : Reply Json := do
  let ext ← strOr input "config_ext" "toml"
  let placeholders := runPlaceholders ext
  let args ← eachOf (fun a => match a with
    | .str s => pure (fillIn placeholders s)
    | _ => reject "args must be strings") (← arr input "args")
  let config ← str? input "config"
  let snapshot ← str? input "state"
  let env ← envOf placeholders input
  let asProcess ← boolOr input "exec" false
  let vendorReplies ← eachOf (replyOf placeholders) (← arrOrEmpty input "vendor")
  let sinkReplies ← eachOf (replyOf placeholders) (← arrOrEmpty input "sink")
  let files := (config.map fun c => ((Files.components (runDir ++ "/fleetsync." ++ ext)).drop 1,
      fillIn placeholders c)).toList ++
    (snapshot.map fun s => ((Files.components runSnapshot).drop 1, s)).toList
  let world : World :=
    { network := ⟨[{ port := vendorPort, pending := vendorReplies },
                   { port := sinkPort, pending := sinkReplies }]⟩,
      tree := { workDir := runDir, files } }
  let env := if asProcess then ("FLEETSYNC_LOG_LEVEL", "off") :: env else env
  let (outcome, w) := (Cli.run args env clock.now).run world
  if let .halt h := outcome then throw (panicAnswer h)
  let shown := if asProcess then processMembers outcome w.stdout else outcomeMembers outcome w.stdout
  let masking : Masking := { ports := portNames, workDir := some runDir, now := clock.now }
  pure (masking.answer (answer (shown ++
    [("state_file", dumpJson (w.tree.disk runSnapshot)),
     ("vendor_requests", .arr ((w.network.receivedAt vendorPort).map receivedJson)),
     ("sink_requests", .arr ((w.network.receivedAt sinkPort).map receivedJson))])))

end FleetTelemetry.Request
