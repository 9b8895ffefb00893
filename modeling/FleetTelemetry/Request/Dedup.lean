import FleetTelemetry.Request.Vendor
import FleetTelemetry.Dedup

/-!
# Requests on the deduplication filter

A `dedup` request runs a list of steps against one filter over one in-memory state store. The
store can be told to fail chosen calls made by the filter (the n-th `get` or `set`, counted from
zero); steps that read or write the store directly do not count. Plans made by `plan` steps are
kept by index for later commit steps. A failing step answers its error and the next steps still
run.
-/

namespace FleetTelemetry.Request

/-- An observation described by a request: `source`, `recorded_at`, and optionally the status
(kept even when `null`), name, position and details. -/
def observationOf (v : Json) : Reply Observation := do
  let source ← str v "source"
  let recordedAt ← stamp v "recorded_at"
  let sourceName ← strOr v "source_name" ("Vehicle " ++ source)
  let lat ← match field? v "lat" with
    | some _ => floatOf v "lat"
    | none => pure 1.0
  let lon ← match field? v "lon" with
    | some _ => floatOf v "lon"
    | none => pure 2.0
  let details ← match field? v "additional" with
    | some (.obj ms) => pure ms
    | some _ => reject "`additional` must be an object"
    | none => pure []
  let details := match v.get? "status" with
    | some s => Json.insertSorted "status" s details
    | none => details
  pure { source, sourceName, subjectType := subjectType, kind := observationType, recordedAt,
         location := ⟨lat, lon⟩, additional := details }

def observationsOf (v : Json) (k : String) : Reply (List Observation) := do
  eachOf observationOf (← arr v k)

/-- The short description of an observation: source, status and recording time. -/
def summary (o : Observation) : Json :=
  answer [("source", .str o.source), ("status", .str o.status), ("recorded_at", .str o.recordedAtIso)]

def dedupConfigOf (input : Json) : Reply DedupConfig := do
  match field? input "dedup" with
  | none => pure {}
  | some d =>
    let quiet ← match ← arr? d "quiet_statuses" with
      | some xs => eachOf (fun x => match x with
          | .str s => pure s
          | _ => reject "`quiet_statuses` must hold strings") xs
      | none => pure ["off"]
    let period ← natOr d "quiet_period_secs" Word.u64Max quietPeriod.secs
    pure { quietStatuses := quiet, quietPeriod := .ofSecs (UInt64.ofNat period) }

structure Faults where
  get : List Nat := []
  set : List Nat := []

def faultsOf (input : Json) (k : String) : Reply Faults := do
  match field? input k with
  | none => pure {}
  | some f =>
    let nums (key : String) : Reply (List Nat) := do
      eachOf (fun x => match x with
        | .num (.nat n) => pure n
        | _ => reject ("`" ++ key ++ "` must hold unsigned integers")) (← arrOrEmpty f key)
    pure { get := ← nums "get", set := ← nums "set" }

/-- An in-memory state store whose calls are counted, some failing on purpose. -/
structure CountedTable where
  table : StateTable := {}
  gets : Nat := 0
  sets : Nat := 0
  faults : Faults := {}

namespace CountedTable

/-- A counted `get`; the n-th fails when the fault plan says so. -/
def get (now : Time.Stamp) (k : StateKey) : StateM CountedTable (Except StoreFault (Option DeviceState)) :=
  modifyGet fun s =>
    let n := s.gets
    let s := { s with gets := n + 1 }
    if s.faults.get.contains n then (.error (.backend ("injected get failure " ++ toString n)), s)
    else (.ok (s.table.get k now), s)

/-- A counted `set`; the n-th fails when the fault plan says so. -/
def set (now : Time.Stamp) (k : StateKey) (st : DeviceState) (ttl : Option Duration) :
    StateM CountedTable (Except StoreFault Unit) :=
  modifyGet fun s =>
    let n := s.sets
    let s := { s with sets := n + 1 }
    if s.faults.set.contains n then (.error (.backend ("injected set failure " ++ toString n)), s)
    else (.ok (), { s with table := s.table.put k st ttl now })

def store (now : Time.Stamp) : StateStore (StateM CountedTable) := ⟨get now, set now⟩

end CountedTable

/-- A state written by a request: integration (default given), action (default the poll's),
device, status, recording time and time to live. -/
def seedOf (integrationId : String) (v : Json) : Reply (StateKey × DeviceState × Option Duration) := do
  let i ← strOr v "integration_id" integrationId
  let a ← strOr v "action_id" pullActionId
  let s ← str v "source_id"
  let status ← str v "status"
  let recordedAt ← str? v "recorded_at"
  let ttl ← nat? v "ttl_secs"
  pure (⟨i, a, s⟩, ⟨status, recordedAt⟩, ttl.map fun n => .ofSecs (UInt64.ofNat n))

def keyOf (integrationId : String) (v : Json) : Reply StateKey := do
  let i ← strOr v "integration_id" integrationId
  let a ← strOr v "action_id" pullActionId
  let s ← str v "source_id"
  pure ⟨i, a, s⟩

def stateJson : Option DeviceState → Json
  | some s => answer [("status", .str s.status), ("recorded_at", Json.ofOption s.recordedAt)]
  | none => .null

def writeJson (w : StateWrite) : Json :=
  answer [("action_id", .str w.actionId), ("source_id", .str w.sourceId),
    ("status", .str w.state.status), ("recorded_at", Json.ofOption w.state.recordedAt),
    ("ttl_secs", match w.ttl with | some t => .ofNat t.secs | none => .null)]

def decisionJson : Decision → Json
  | .forward r => answer [("decision", .str "forward"), ("reason", .str (match r with
      | .firstSeen => "FirstSeen"
      | .statusChanged => "StatusChanged"
      | .quietPeriodNewTimestamp => "QuietPeriodNewTimestamp"))]
  | .suppress r => answer [("decision", .str "suppress"), ("reason", .str (match r with
      | .statusUnchanged => "StatusUnchanged"
      | .quietPeriodDuplicate => "QuietPeriodDuplicate"))]

structure DedupSession where
  world : CountedTable
  plans : List DedupPlan := []

def runFilter (s : DedupSession) (x : ExceptT StoreFault (StateM CountedTable) α) :
    Except StoreFault α × DedupSession :=
  let (r, w) := x.run.run s.world
  (r, { s with world := w })

def planAt (s : DedupSession) (v : Json) : Reply DedupPlan := do
  let i ← nat v "plan" Word.u64Max
  match s.plans[i]? with
  | some p => pure p
  | none => reject "unknown plan index"

/-- The answer of a filter action: its result shown, or its store fault. -/
def stepAnswer (r : Except StoreFault α × DedupSession) (ok : α → Json) : Json × DedupSession :=
  match r.1 with
  | .ok a => (ok a, r.2)
  | .error e => (storeAnswer e, r.2)

def dedupStep (now : Time.Stamp) (f : DedupFilter (StateM CountedTable)) (s : DedupSession)
    (step : Json) : Json × DedupSession :=
  let outcome : Reply (Json × DedupSession) := do
    match ← str step "op" with
    | "evaluate" =>
      let o ← observationOf (← need step "observation")
      pure (stepAnswer (runFilter s (f.evaluate o)) decisionJson)
    | "plan" =>
      let os ← observationsOf step "observations"
      let (r, s) := runFilter s (f.plan os)
      match r with
      | .ok p =>
        let index := s.plans.length
        pure (answer [("plan", .ofNat index), ("len", .ofNat p.len), ("is_empty", .bool p.isEmpty),
          ("forwarded", .arr (p.forwarded.map summary)),
          ("writes", .arr (p.writes.map fun ws => .arr (ws.map writeJson))),
          ("trailing", .arr (p.trailing.map writeJson))], { s with plans := s.plans ++ [p] })
      | .error e => pure (storeAnswer e, s)
    | "commit_batch" =>
      let p ← planAt s step
      let a ← nat step "start" Word.u64Max
      let b ← nat step "end" Word.u64Max
      let count := (p.writesFor a b).length
      pure (stepAnswer (runFilter s (f.commitBatch p a b)) fun _ =>
        answer [("ok", .bool true), ("writes", .ofNat count)])
    | "commit_trailing" =>
      let p ← planAt s step
      pure (stepAnswer (runFilter s (f.commitTrailing p)) fun _ =>
        answer [("ok", .bool true), ("writes", .ofNat p.trailing.length)])
    | "filter" =>
      let os ← observationsOf step "observations"
      pure (stepAnswer (runFilter s (f.filter os)) fun fwd =>
        answer [("forwarded", .arr (fwd.map summary))])
    | "get" =>
      let k ← keyOf f.integrationId step
      pure (answer [("state", stateJson (s.world.table.get k now))], s)
    | "set" =>
      let (k, st, ttl) ← seedOf f.integrationId step
      pure (answer [("ok", .bool true)],
        { s with world := { s.world with table := s.world.table.put k st ttl now } })
    | "len" => pure (answer [("len", .ofNat s.world.table.len)], s)
    | "is_empty" => pure (answer [("is_empty", .bool (s.world.table.len == 0))], s)
    | "clear_expired" =>
      let t := s.world.table.clearExpired now
      pure (answer [("len", .ofNat t.len)], { s with world := { s.world with table := t } })
    | "is_quiet" =>
      let status ← str step "status"
      pure (answer [("is_quiet", .bool (f.config.isQuiet status)),
        ("quiet_action_id", .str (quietActionId status))], s)
    | other => reject ("unknown dedup op " ++ Json.debugQuote other)
  match outcome with
  | .ok r => r
  | .error a => (a, s)

def dedupSteps (now : Time.Stamp) (f : DedupFilter (StateM CountedTable)) :
    DedupSession → List Json → List Json
  | _, [] => []
  | s, step :: rest =>
    let (a, s) := dedupStep now f s step
    a :: dedupSteps now f s rest

/-- `dedup`: steps against a filter over a fresh store. -/
def dedup (clock : Clock) (input : Json) : Reply Json := do
  let integrationId ← strOr input "integration_id" "int-1"
  let config ← dedupConfigOf input
  let seeds ← eachOf (seedOf integrationId) (← arrOrEmpty input "seed_states")
  let faults ← faultsOf input "faults"
  let steps ← arr input "steps"
  let now := clock.now
  let table := seeds.foldl (fun t (k, st, ttl) => t.put k st ttl now) ({} : StateTable)
  let f : DedupFilter (StateM CountedTable) :=
    { store := CountedTable.store now, integrationId, config }
  pure (answer [("steps", .arr (dedupSteps now f ⟨{ table, faults }, []⟩ steps))])

end FleetTelemetry.Request
