import FleetTelemetry.Cli.Args
import FleetTelemetry.Config.Service
import FleetTelemetry.Poll.Cycle
import FleetTelemetry.Http.Client
import FleetTelemetry.Files.Tree
import FleetTelemetry.Json.Print

/-!
# Running the command line

A run reads the command line, loads the configuration (the `--config` file and the
`FLEETSYNC_*` environment), and runs the command against a `World`: the network the vendor and
the sink are on, the file tree, and standard output.

* `auth` asks the vendor for one first-poll window and reports whether the credentials are
  accepted (exit 0), refused (exit 3) or could not be checked (exit 4).
* `pull` runs one poll cycle. Device states and checkpoints live in the snapshot file named by
  `--state-file` or the configuration, else in memory for the run. Observations go to the sink
  URL (with the sink token as bearer), or as JSON lines to standard output for `--dry-run` or
  when no sink URL is set.

Both commands first check, in order, the integration id, the credentials and the pull window
(`--look-back-hours` overriding the configured one); `pull` then opens the snapshot and checks
the batch size. The result is the command's JSON and exit code, or the failure with its exit
code: 2 for configuration and validation, 3 for refused credentials, 4 for other vendor and
decoding failures, 5 for the sink and 6 for the store.
-/

namespace FleetTelemetry.Cli

open Config

structure World where
  network : Http.Network
  tree : Files.Tree
  stdout : String := ""
  /-- The open snapshot store: its path and what it holds. -/
  snapshot : Option (String × FileState) := none
  memoryStates : StateTable := {}
  memoryCheckpoints : List ((String × String) × Checkpoint) := []

abbrev RunM := StateM World

inductive CommandFault where
  | invalid (e : Invalid)
  | poll (e : PollFault)
  | store (e : StoreFault)
  | halt (h : Halt)

namespace CommandFault

def message : CommandFault → String
  | .invalid e => e.message
  | .poll e => e.message
  | .store e => e.message
  | .halt h => h.message

def variant : CommandFault → String
  | .invalid _ => "Validation"
  | .poll _ => "Poll"
  | .store _ => "Store"
  | .halt _ => "Halt"

def exitCode : CommandFault → Nat
  | .invalid _ => 2
  | .poll (.invalid _) => 2
  | .poll (.vendor (.authInvalid _ _)) => 3
  | .poll (.vendor _) | .poll (.decode _) => 4
  | .poll (.sink _) => 5
  | .poll (.store _) => 6
  | .store _ => 6
  | .halt _ => 101

end CommandFault

structure CommandResult where
  data : Json
  exitCode : Nat := 0

inductive Outcome where
  /-- The command line was not a command: help, the version, or a usage error. -/
  | args (e : ArgError)
  | config (f : ConfigFault)
  | failed (f : CommandFault)
  /-- The command finished; `pretty` asks for indented output. -/
  | done (r : CommandResult) (pretty : Bool)
  | halt (h : Halt)

namespace Outcome

def exitCode : Outcome → Nat
  | .args e => e.exitCode
  | .config _ => 2
  | .failed f => f.exitCode
  | .done r _ => r.exitCode
  | .halt _ => 101

/-- The result as printed: compact JSON, or indented with `--pretty`. -/
def printed? : Outcome → Option String
  | .done r pretty => some (if pretty then Json.pretty r.data else Json.compact r.data)
  | _ => none

/-- The text of a failure, as the program reports it after `error: `. -/
def errorText? : Outcome → Option String
  | .config f => some ("configuration error: " ++ f.text)
  | .failed f => some f.message
  | _ => none

end Outcome

def send (r : Http.Request) : RunM Http.Outcome :=
  modifyGet fun w => let (o, n) := (Http.execute r).run w.network; (o, { w with network := n })

/-- The JSON-lines sink: each observation as one line on standard output. -/
def stdoutSink : Sink RunM :=
  ⟨fun os => modifyGet fun w =>
    (.ok (os.map Observation.toValue), { w with stdout := w.stdout ++ jsonLines os })⟩

/-- The device states of the snapshot store, or of memory when there is none. -/
def states (now : Time.Stamp) : StateStore RunM :=
  ⟨fun k => modifyGet fun w => match w.snapshot with
      | some (_, s) => (.ok (s.getState k now), w)
      | none => (.ok (w.memoryStates.get k now), w),
   fun k st ttl => modifyGet fun w => match w.snapshot with
      | some (path, s) =>
        let (s, d, r) := s.setState (w.tree.disk path) k st ttl now
        (r, { w with snapshot := some (path, s), tree := w.tree.store path d })
      | none => (.ok (), { w with memoryStates := w.memoryStates.put k st ttl now })⟩

/-- The checkpoints of the snapshot store, or of memory when there is none. -/
def checkpoints : CheckpointStore RunM :=
  ⟨fun i a => modifyGet fun w => match w.snapshot with
      | some (_, s) => (.ok (s.getCheckpoint i a), w)
      | none => (.ok (w.memoryCheckpoints.lookup (i, a)), w),
   fun i a c => modifyGet fun w => match w.snapshot with
      | some (path, s) =>
        let (s, d, r) := s.setCheckpoint (w.tree.disk path) i a c
        (r, { w with snapshot := some (path, s), tree := w.tree.store path d })
      | none => (.ok (), { w with memoryCheckpoints := putCheckpoint (i, a) c w.memoryCheckpoints })⟩

abbrev CommandM := ExceptT CommandFault RunM

/-- A check that fails the command with a validation failure. -/
def checked (x : Except Invalid α) : CommandM α := ExceptT.mk (pure (x.mapError .invalid))

/-- The pull window: the look-back given on the command line, else the configured one. -/
def pullConfigFor (c : ServiceConfig) (lookBackHours : Option Int) : Except Invalid PullConfig :=
  match lookBackHours with
  | some h => (·.withSchema c.schema) <$> PullConfig.new h c.gmtOffset
  | none => c.pullConfig

/-- The vendor client of a run: the integration's endpoint, at least one attempt. -/
def vendorFor (c : ServiceConfig) (i : Integration) : VendorClient :=
  { baseUrl := i.endpoint, retry := { RetryConfig.default with maxAttempts := max c.maxAttempts 1 } }

def auth (args : AuthArgs) (c : ServiceConfig) (now : Time.Stamp) : CommandM CommandResult := do
  let integration ← checked c.integration
  let credentials ← checked c.credentials
  let pullConfig ← checked (pullConfigFor c args.lookBackHours)
  let vendor := { vendorFor c integration with schema := pullConfig.schema }
  let verdict ← (ExceptT.lift (verifyCredentials vendor send (fun _ => 0.0) credentials pullConfig now).run :
    CommandM (Except Halt CredentialStatus))
  match verdict with
  | .error h => throw (.halt h)
  | .ok status =>
    let code := match status with
      | .valid => 0
      | .invalid _ _ => 3
      | .transportFailure _ => 4
    pure { data := status.toJson, exitCode := code }

/-- Opens the snapshot store at a path, when one is given. -/
def openSnapshot (path : Option String) (now : Time.Stamp) : CommandM Unit :=
  match path with
  | none => pure ()
  | some p => do
    let w ← get
    match FileState.openAt (w.tree.disk p) now with
    | .error e => throw (.store e)
    | .ok s => set { w with snapshot := some (p, s) }

/-- The sink of a run: the sink URL unless it is a dry run, else standard output. -/
def sinkFor (args : PullArgs) (c : ServiceConfig) : Sink RunM :=
  match args.sinkUrl <|> c.sinkUrl with
  | some url =>
    if args.dryRun then stdoutSink
    else
      let auth := match c.sinkToken with
        | some t => Http.Auth.bearer t
        | none => .none
      HttpSink.sink { url, auth } send
  | none => stdoutSink

def pull (args : PullArgs) (c : ServiceConfig) (now : Time.Stamp) : CommandM CommandResult := do
  let integration ← checked c.integration
  let credentials ← checked c.credentials
  let pullConfig ← checked (pullConfigFor c args.lookBackHours)
  openSnapshot (args.stateFile <|> c.stateFile) now
  let cycle := PollCycle.new integration credentials pullConfig (vendorFor c integration) send
    (states now) checkpoints (sinkFor args c)
  let cycle ← checked (cycle.withBatchSize (args.batchSize.getD c.batchSize))
  let cycle := { cycle with dedupConfig := c.dedupConfig, convertOptions := ⟨c.movingOnly⟩ }
  let outcome ← (ExceptT.lift (cycle.run now).run.run : CommandM (Except Halt (Except PollFault CycleReport)))
  match outcome with
  | .error h => throw (.halt h)
  | .ok (.error e) => throw (.poll e)
  | .ok (.ok report) =>
    match report.toJson with
    | .ok data => pure { data }
    | .error h => throw (.halt h)

/-- The snapshot a command line would use: `--state-file`, else the configured one. -/
def snapshotPath? (tokens : List String) (env : List (String × String)) (tree : Files.Tree) :
    Option String :=
  match readInvocation tokens with
  | .ok { command := .pull a, config, .. } =>
    match ServiceConfig.load tree config env with
    | .ok c => a.stateFile <|> c.stateFile
    | .error _ => a.stateFile
  | _ => none

/-- A whole run: the command line, the configuration from the tree and environment, the
command at `now`. -/
def run (tokens : List String) (env : List (String × String)) (now : Time.Stamp) : RunM Outcome := do
  match readInvocation tokens with
  | .error e => pure (.args e)
  | .ok inv =>
    match ServiceConfig.load (← get).tree inv.config env with
    | .error (.halted h) => pure (.halt h)
    | .error f => pure (.config f)
    | .ok c =>
      let result ← match inv.command with
        | .pull a => (pull a c now).run
        | .auth a => (auth a c now).run
      pure (match result with
        | .ok r => .done r inv.pretty
        | .error f => .failed f)

end FleetTelemetry.Cli
