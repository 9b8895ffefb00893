import FleetTelemetry.Request.Dedup
import FleetTelemetry.Poll.Cycle

/-!
# Requests on sinks and poll cycles

`http_sink` posts one batch through a scripted transport; `json_lines_sink` writes one batch as
lines. `poll` builds one poll cycle over in-memory stores and runs it several times, each run
with its own vendor script: the stores and the sink persist between runs, and chosen store calls
can be made to fail. After each run the request reports what the vendor was asked, what the
sink received, the stored checkpoint and chosen device states.
-/

namespace FleetTelemetry.Request

def scriptedSinkUrl : String := "https://sink.test/observations"

def authOf (input : Json) : Reply Http.Auth := do
  match field? input "auth" with
  | none => pure .none
  | some a => requestStep.authOf a

/-- `http_sink`: one batch posted through a scripted transport. -/
def httpSink (input : Json) : Reply Json := do
  let os ← observationsOf input "observations"
  let outcomes ← outcomesOf input "responses"
  let url ← strOr input "url" scriptedSinkUrl
  let auth ← authOf input
  let timeout ← nat? input "timeout_ms"
  let sink : HttpSink := { url, auth, timeoutMs := timeout.getD sinkTimeoutMs }
  let (result, script) := ((sink.sink Http.Script.send).send os).run (.ofOutcomes outcomes)
  let requests := ("requests", Json.arr (script.sent.map Http.Request.toJson))
  match result with
  | .ok accepted => pure (answer [("accepted", .arr accepted), requests])
  | .error e => pure (answer (requests :: membersOf (sinkAnswer e)))

def jsonLinesSinkRequest (input : Json) : Reply Json := do
  let os ← observationsOf input "observations"
  let (result, output) := ((jsonLinesSink : Sink (StateM String)).send os).run ""
  match result with
  | .ok accepted => pure (answer [("accepted", .ofNat accepted.length), ("output", .str output)])
  | .error e => pure (sinkAnswer e)

inductive SinkChoice where
  | recording
  | http (sink : HttpSink)

structure PollWorld where
  vendorScript : Http.Script := .ofOutcomes []
  sinkScript : Http.Script := .ofOutcomes []
  states : CountedTable := {}
  checkpoints : List ((String × String) × Checkpoint) := []
  checkpointGets : Nat := 0
  checkpointSets : Nat := 0
  checkpointFaults : Faults := {}
  batchIndex : Nat := 0
  failOnBatch : Option Nat := none
  recorded : List (List Observation) := []

namespace PollWorld

def sendVendor (r : Http.Request) : StateM PollWorld Http.Outcome :=
  modifyGet fun w => let (o, s) := (Http.Script.send r).run w.vendorScript; (o, { w with vendorScript := s })

def sendSink (r : Http.Request) : StateM PollWorld Http.Outcome :=
  modifyGet fun w => let (o, s) := (Http.Script.send r).run w.sinkScript; (o, { w with sinkScript := s })

def onStates (x : StateM CountedTable α) : StateM PollWorld α :=
  modifyGet fun w => let (a, s) := x.run w.states; (a, { w with states := s })

def stateStore (now : Time.Stamp) : StateStore (StateM PollWorld) :=
  ⟨fun k => onStates (CountedTable.get now k), fun k s t => onStates (CountedTable.set now k s t)⟩

/-- The checkpoint store the cycle sees: counted calls, some failing on purpose. -/
def checkpointStore : CheckpointStore (StateM PollWorld) where
  get i a := modifyGet fun w =>
    let n := w.checkpointGets
    let w := { w with checkpointGets := n + 1 }
    if w.checkpointFaults.get.contains n then
      (.error (.backend ("injected checkpoint get failure " ++ toString n)), w)
    else (.ok (w.checkpoints.lookup (i, a)), w)
  set i a c := modifyGet fun w =>
    let n := w.checkpointSets
    let w := { w with checkpointSets := n + 1 }
    if w.checkpointFaults.set.contains n then
      (.error (.backend ("injected checkpoint set failure " ++ toString n)), w)
    else (.ok (), { w with checkpoints := putCheckpoint (i, a) c w.checkpoints })

/-- The recording sink: accepts a batch as its written values, except the chosen one. -/
def recordingSink : Sink (StateM PollWorld) :=
  ⟨fun os => modifyGet fun w =>
    let i := w.batchIndex
    let w := { w with batchIndex := i + 1 }
    if w.failOnBatch == some i then (.error (.rejected 503 "sink unavailable"), w)
    else (.ok (os.map Observation.toValue), { w with recorded := w.recorded ++ [os] })⟩

end PollWorld

def postedSummary (v : Json) : Json :=
  let status := match v.get? "additional" >>= (·.get? "status") with
    | some (.str s) => s
    | _ => ""
  answer [("source", (v.get? "source").getD .null), ("status", .str status),
    ("recorded_at", (v.get? "recorded_at").getD .null)]

def batchesJson (choice : SinkChoice) (w : PollWorld) : Json :=
  match choice with
  | .recording => .arr (w.recorded.map fun b => .arr (b.map summary))
  | .http _ => .arr (w.sinkScript.sent.map fun r =>
      match Json.parse (r.body.getD "") with
      | .ok (.arr items) => .arr (items.map postedSummary)
      | _ => .arr [])

def cycleJson (clock : Clock) (integrationId : String) (choice : SinkChoice)
    (result : Except PollFault CycleReport) (w : PollWorld) (probes : List StateKey) : Reply Json := do
  let outcome ← match result with
    | .ok r => (fun j => ("report", j)) <$> halted r.toJson
    | .error e => pure ("error", pollAnswer e)
  let requests := w.vendorScript.sent.map fun r =>
    answer [("lastGMTUpdateTime", Json.ofOption (r.queryValue "lastGMTUpdateTime")),
      ("requestedPropertiesStr", Json.ofOption (r.queryValue "requestedPropertiesStr"))]
  let checkpoint := isoOrNull ((w.checkpoints.lookup (integrationId, pullActionId)).map (·.lastUpdatedTime))
  pure (answer [outcome, ("requests", .arr requests), ("batches", batchesJson choice w),
    ("checkpoint", checkpoint),
    ("probe", .arr (probes.map fun k => stateJson (w.states.table.get k clock.now))),
    ("state_len", .ofNat w.states.table.len)])

/-- One run of a poll as a request describes it: its instant, vendor script, sink script,
failing batch and probes. -/
structure CycleInput where
  now : Time.Stamp
  vendor : List Http.Outcome
  sink : List Http.Outcome
  failOnBatch : Option Nat
  probes : List StateKey

def cycleInputOf (integrationId : String) (v : Json) : Reply CycleInput := do
  let now ← stamp v "now"
  let vendor ← outcomesOf v "responses"
  let sink ← outcomesOf v "sink_responses"
  let failOnBatch ← nat? v "sink_fail_on_batch"
  let probes ← eachOf (keyOf integrationId) (← arrOrEmpty v "probe")
  pure { now, vendor, sink, failOnBatch, probes }

/-- Runs the cycles in order, each on the world the one before left. -/
def runCycles (clock : Clock) (cycle : PollCycle (StateM PollWorld)) (choice : SinkChoice) :
    PollWorld → List CycleInput → Reply (List Json)
  | _, [] => pure []
  | w, c :: rest => do
    let w := { w with vendorScript := .ofOutcomes c.vendor, sinkScript := .ofOutcomes c.sink,
                      batchIndex := 0, failOnBatch := c.failOnBatch, recorded := [] }
    let (result, w) := ((cycle.run c.now).run.run).run w
    let result ← halted result
    let j ← cycleJson clock cycle.integration.id choice result w c.probes
    let rest ← runCycles clock cycle choice w rest
    pure (j :: rest)

def checked : Except Invalid α → Reply α
  | .ok a => .ok a
  | .error e => .error (invalidAnswer e)

def poll (clock : Clock) (input : Json) : Reply Json := do
  let integrationId ← strOr input "integration_id" "int-1"
  let choice ← match ← str? input "sink" with
    | none | some "recording" => pure SinkChoice.recording
    | some "http" => do
      let url ← strOr input "sink_url" scriptedSinkUrl
      let auth ← authOf input
      pure (SinkChoice.http { url, auth })
    | some other => reject ("unknown sink " ++ Json.debugQuote other)
  let cycles ← eachOf (cycleInputOf integrationId) (← arr input "cycles")
  let client ← vendorClientOf input
  let batchSize ← nat? input "batch_size"
  let movingOnly ← boolOr input "moving_only" false
  let dedupConfig ← dedupConfigOf input
  let seeds ← eachOf (seedOf integrationId) (← arrOrEmpty input "seed_states")
  let seedCheckpoint ← stamp? input "seed_checkpoint"
  let storeFaults ← faultsOf input "store_faults"
  let checkpointFaults ← faultsOf input "checkpoint_faults"
  let reportIntegration ← boolOr input "report_integration" false
  let integration ← checked (Integration.new integrationId)
  let creds ← credentialsOf input
  let config ← match field? input "pull_config" with
    | some v => PullConfig.ofDecoded <$> decodeValue PullConfig.shape v
    | none => do
      let lookBack ← intOr input "look_back_hours" Word.i64Min Word.i64Max defaultLookBackHours
      let gmt ← intOr input "gmt_offset" Word.i64Min Word.i64Max 0
      let c ← checked (PullConfig.new lookBack gmt)
      pure (c.withSchema (← schemaOf input))
  let sink := match choice with
    | .recording => PollWorld.recordingSink
    | .http s => s.sink PollWorld.sendSink
  let cycle := PollCycle.new integration creds config { client with schema := .basic }
    PollWorld.sendVendor (PollWorld.stateStore clock.now) PollWorld.checkpointStore sink
  let cycle ← match batchSize with
    | some n => checked (cycle.withBatchSize n)
    | none => pure cycle
  let cycle := { cycle with dedupConfig, convertOptions := ⟨movingOnly⟩ }
  let table := seeds.foldl (fun t (k, st, ttl) => t.put k st ttl clock.now) ({} : StateTable)
  let world : PollWorld :=
    { states := { table, faults := storeFaults }, checkpointFaults,
      checkpoints := match seedCheckpoint with
        | some t => [((integrationId, pullActionId), ⟨t⟩)]
        | none => [] }
  let answers ← runCycles clock cycle choice world cycles
  pure (answer ([("cycles", .arr answers)] ++
    if reportIntegration then [("integration_id", .str integration.id)] else []))

end FleetTelemetry.Request
