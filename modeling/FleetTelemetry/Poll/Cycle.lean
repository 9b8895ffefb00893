import FleetTelemetry.Vendor.Client
import FleetTelemetry.Record.Convert
import FleetTelemetry.Dedup
import FleetTelemetry.Sink.Deliver
import FleetTelemetry.Json.Print
import FleetTelemetry.Poll.Verdict

/-!
# Poll cycles

One cycle takes what the vendor reported since the last checkpoint and delivers what is new:

1. the device offset is checked; the last checkpoint is read; the window runs from it (or from
   the look-back) to now;
2. the vendor is asked for the window; its rows are converted to observations;
3. the deduplication filter plans what to forward; the forwarded observations go to the sink in
   batches, and after each delivered batch the states it makes due are written;
4. the trailing writes are made and, when the vendor said up to when it reported, the
   checkpoint moves there.

Any failure ends the cycle with that fault; the checkpoint then stays where it was, so the next
cycle asks for the same window again. States already written for delivered batches stay, so
what was delivered is not delivered twice.
-/

namespace FleetTelemetry

structure CycleReport where
  window : Time.Window
  recordsReceived : Nat
  observationsConverted : Nat
  observationsForwarded : Nat
  observationsExtracted : Nat
  batchesSent : Nat
  checkpoint : Option Time.Stamp

/-- The report as JSON; showing the checkpoint in the vendor's text can stop the program. -/
def CycleReport.toJson (r : CycleReport) : Except Halt Json := do
  let cp ← match r.checkpoint with
    | some c => (fun w => Json.str w) <$> c.wire
    | none => pure .null
  pure (Json.sortedObj [("observations_extracted", .ofNat r.observationsExtracted),
    ("records_received", .ofNat r.recordsReceived),
    ("observations_converted", .ofNat r.observationsConverted),
    ("observations_forwarded", .ofNat r.observationsForwarded),
    ("batches_sent", .ofNat r.batchesSent), ("window_start", .str r.window.start.iso),
    ("window_end", .str r.window.stop.iso), ("checkpoint", cp)])

structure PollCycle (m : Type → Type) where
  integration : Integration
  credentials : Credentials
  pullConfig : PullConfig
  vendor : VendorClient
  send : Http.Request → m Http.Outcome
  /-- The jitter drawn for the wait after each failed vendor attempt. -/
  draws : Nat → Float := fun _ => 0.0
  states : StateStore m
  checkpoints : CheckpointStore m
  sink : Sink m
  batchSize : Nat := batchSize
  dedupConfig : DedupConfig := {}
  convertOptions : ConvertOptions := {}

/-- A cycle's steps: they can fail with a poll fault or stop the program. -/
abbrev CycleM (m : Type → Type) := ExceptT PollFault (ExceptT Halt m)

namespace PollCycle

variable {m : Type → Type} [Monad m]

/-- A cycle over the given parts; the vendor asks for the configuration's schema. -/
def new (integration : Integration) (credentials : Credentials) (pullConfig : PullConfig)
    (vendor : VendorClient) (send : Http.Request → m Http.Outcome) (states : StateStore m)
    (checkpoints : CheckpointStore m) (sink : Sink m) : PollCycle m :=
  { integration, credentials, pullConfig, vendor := { vendor with schema := pullConfig.schema },
    send, states, checkpoints, sink }

/-- The same cycle with another batch size, which must not be zero. -/
def withBatchSize (c : PollCycle m) (size : Nat) : Except Invalid (PollCycle m) :=
  if size = 0 then .error .zeroBatchSize else .ok { c with batchSize := size }

def filter (c : PollCycle m) : DedupFilter m := ⟨c.states, c.integration.id, c.dedupConfig⟩

def step (x : m (Except ε α)) (wrap : ε → PollFault) : CycleM m α :=
  ExceptT.mk (ExceptT.mk ((fun r => .ok (r.mapError wrap)) <$> x))

def haltingStep (x : ExceptT Halt m (Except ε α)) (wrap : ε → PollFault) : CycleM m α :=
  ExceptT.mk ((fun r => r.mapError wrap) <$> x)

def pureHalt (x : Except Halt α) : CycleM m α :=
  ExceptT.lift (ExceptT.mk (pure x))

def pureFault (x : Except PollFault α) : CycleM m α := ExceptT.mk (pure x)

def dedupStep (x : ExceptT StoreFault m α) : CycleM m α := step x.run .store

/-- Delivers the batches from `index` on, committing each delivered one; returns the values the
sink accepted and how many batches went out. -/
def deliver (c : PollCycle m) (plan : DedupPlan) :
    List (List Observation) → Nat → Nat → Nat → CycleM m (Nat × Nat)
  | [], _, extracted, sent => pure (extracted, sent)
  | batch :: rest, delivered, extracted, sent => do
    let accepted ← step (c.sink.send batch) .sink
    dedupStep (c.filter.commitBatch plan delivered (delivered + batch.length))
    c.deliver plan rest (delivered + batch.length) (extracted + accepted.length) (sent + 1)

/-- What a cycle starts from: the checkpoint it read, its window, what the vendor answered and
the observations converted from it. -/
structure Intake where
  previous : Option Time.Stamp
  window : Time.Window
  fetched : FetchResult
  observations : List Observation

/-- The first steps of a cycle: the offset check, the checkpoint read, the window, the vendor's
answer and its conversion. -/
def intake (c : PollCycle m) (now : Time.Stamp) : CycleM m Intake := do
  let offset ← pureFault (c.pullConfig.utcOffset.mapError .invalid)
  let previous ← (·.map Checkpoint.lastUpdatedTime) <$>
    step (c.checkpoints.get c.integration.id pullActionId) .store
  let window ← pureHalt (Time.Window.compute previous c.pullConfig.lookBackHours now)
  let request ← pureHalt (c.vendor.buildRequest window c.credentials)
  let fetched ← haltingStep (c.vendor.fetch c.send c.draws request) .vendor
  let converted ← pureHalt (convertAll c.vendor.schema offset c.convertOptions fetched.records).run
  let observations ← pureFault (converted.mapError .decode)
  pure ⟨previous, window, fetched, observations⟩

/-- Delivers a plan: its batches in order, each committed once delivered, then the trailing
writes; returns the values the sink accepted and how many batches went out. -/
def deliverPlan (c : PollCycle m) (plan : DedupPlan) : CycleM m (Nat × Nat) := do
  let counts ← c.deliver plan (batches c.batchSize plan.forwarded) 0 0 0
  dedupStep (c.filter.commitTrailing plan)
  pure counts

/-- Moves the checkpoint to the time the vendor reported up to, if it did; answers the
checkpoint in effect. -/
def advance (c : PollCycle m) (previous : Option Time.Stamp) : Option Time.Stamp → CycleM m (Option Time.Stamp)
  | some t => do
    step (c.checkpoints.set c.integration.id pullActionId ⟨t⟩) .store
    pure (some t)
  | none => pure previous

def run (c : PollCycle m) (now : Time.Stamp) : CycleM m CycleReport := do
  let i ← c.intake now
  let plan ← dedupStep (c.filter.plan i.observations)
  let (extracted, sent) ← c.deliverPlan plan
  let checkpoint ← c.advance i.previous i.fetched.maxGmtUpdateTime
  pure { window := i.window, recordsReceived := i.fetched.records.length,
         observationsConverted := i.observations.length, observationsForwarded := plan.len,
         observationsExtracted := extracted, batchesSent := sent, checkpoint }

end PollCycle

/-- Checks credentials with one fetch of a first-poll window. -/
def verifyCredentials [Monad m] (client : VendorClient) (send : Http.Request → m Http.Outcome)
    (draws : Nat → Float) (creds : Credentials) (config : PullConfig) (now : Time.Stamp) :
    ExceptT Halt m CredentialStatus := do
  let w ← ExceptT.mk (pure (Time.Window.compute none config.lookBackHours now))
  let request ← ExceptT.mk (pure (client.buildRequest w creds))
  match ← client.fetch send draws request with
  | .ok _ => pure .valid
  | .error e => pure (CredentialStatus.ofFault e)

end FleetTelemetry
