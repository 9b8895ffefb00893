import FleetTelemetry.Request.Basic
import FleetTelemetry.Poll.Cycle
import FleetTelemetry.Http.Script

/-!
# Requests against a scripted vendor

`fetch` and `verify_credentials` run the vendor client against a scripted transport and report,
besides the result, every request the client sent. `retry` and `backoff` exercise the retry
policy on its own.
-/

namespace FleetTelemetry.Request

def scriptedVendorUrl : String := "https://vendor.test/Assets_Report"

def failureKindOf : String → Reply Http.ErrorKind
  | "timeout" => pure .timeout
  | "connect" => pure .connect
  | "body" => pure .body
  | "other" => pure .other
  | other => reject ("unknown transport kind " ++ Json.debugQuote other)

/-- A scripted outcome: a response with a status and a body (given as text or as JSON), or a
transport failure. -/
def outcomeOf (v : Json) : Reply Http.Outcome := do
  match ← str? v "transport" with
  | some kind =>
    let k ← failureKindOf kind
    let message ← strOr v "message" ""
    pure (.error ⟨k, message⟩)
  | none =>
    let status := (← statusCode? v "status").getD 200
    let body ← match field? v "json" with
      | some j => pure (Json.compact j)
      | none => strOr v "body" ""
    pure (.ok ⟨status, body⟩)

def outcomesOf (input : Json) (k : String) : Reply (List Http.Outcome) := do
  eachOf outcomeOf (← arrOrEmpty input k)

/-- The credentials of a request, defaulting to a working account. -/
def credentialsOf (input : Json) : Reply Credentials := do
  let u ← strOr input "username" "fleet-ops"
  let p ← strOr input "password" "s3cret"
  match Credentials.new u p with
  | .ok c => pure c
  | .error e => throw (invalidAnswer e)

def vendorClientOf (input : Json) : Reply VendorClient := do
  let maxAttempts ← natOr input "max_attempts" Word.u32Max 6
  let schema ← schemaOf input
  let baseUrl ← strOr input "base_url" scriptedVendorUrl
  let timeout ← nat? input "timeout_ms"
  pure { baseUrl, schema, retry := .fixed .zero maxAttempts, timeoutMs := timeout.getD vendorTimeoutMs }

def sentJson (s : Http.Script) : List (String × Json) :=
  [("attempts", .ofNat s.sent.length), ("requests", .arr (s.sent.map Http.Request.toJson))]

def membersOf : Json → List (String × Json)
  | .obj ms => ms
  | _ => []

def fetch (input : Json) : Reply Json := do
  let now ← stamp input "now"
  let lookBack ← natOr input "look_back_hours" 255 defaultLookBackHours
  let checkpoint ← stamp? input "checkpoint"
  let outcomes ← outcomesOf input "responses"
  let client ← vendorClientOf input
  let creds ← credentialsOf input
  let w ← halted (Time.Window.compute checkpoint lookBack now)
  let request ← halted (client.buildRequest w creds)
  let (result, script) := (client.fetch Http.Script.send (fun _ => 0.0) request).run.run (.ofOutcomes outcomes)
  match ← halted result with
  | .ok r =>
    pure (answer (sentJson script ++
      [("records", .arr (r.records.map fun rec => .arr rec.values)),
       ("max_gmt_update_time", isoOrNull r.maxGmtUpdateTime)]))
  | .error e => pure (answer (sentJson script ++ membersOf (vendorAnswer e)))

/-- The pull configuration of a request: decoded from `pull_config`, or checked from
`look_back_hours` and `gmt_offset`. -/
def pullConfigOf (input : Json) : Reply PullConfig := do
  match field? input "pull_config" with
  | some v => PullConfig.ofDecoded <$> decodeValue PullConfig.shape v
  | none =>
    let lookBack ← intOr input "look_back_hours" Word.i64Min Word.i64Max defaultLookBackHours
    let gmt ← intOr input "gmt_offset" Word.i64Min Word.i64Max 0
    match PullConfig.new lookBack gmt with
    | .ok c => pure c
    | .error e => throw (invalidAnswer e)

/-- `verify_credentials`: the verdict of a credential check. -/
def verify (input : Json) : Reply Json := do
  let now ← stamp input "now"
  let outcomes ← outcomesOf input "responses"
  let client ← vendorClientOf input
  let creds ← credentialsOf input
  let config ← pullConfigOf input
  let (status, script) :=
    (verifyCredentials client Http.Script.send (fun _ => 0.0) creds config now).run.run (.ofOutcomes outcomes)
  let status ← halted status
  let lastUpdate := match script.sent with
    | r :: _ => Json.ofOption (r.queryValue "lastGMTUpdateTime")
    | [] => .null
  pure (answer [("status", status.toJson), ("is_valid", .bool status.isValid),
    ("attempts", .ofNat script.sent.length), ("lastGMTUpdateTime", lastUpdate)])

def attemptOutcomeOf (v : Json) : Reply (Except (String × Bool) Json) := do
  match v.get? "ok" with
  | some x => pure (.ok x)
  | none =>
    let e ← str v "err"
    let r ← boolOr v "retry" false
    pure (.error (e, r))

/-- The outcome of attempt `i`, recording that it was made. -/
def scriptedAttempt (outcomes : List (Except (String × Bool) Json)) (i : Nat) :
    StateM (List Nat) (Except (String × Bool) Json) :=
  modifyGet fun made => ((outcomes[i]?).getD (.error ("script exhausted", false)), made ++ [i])

/-- `retry`: which attempts a retry configuration makes and what it returns. -/
def retry (input : Json) : Reply Json := do
  let maxAttempts ← nat input "max_attempts" Word.u32Max
  let outcomes ← eachOf attemptOutcomeOf (← arrOrEmpty input "outcomes")
  let config ← match ← str? input "via" with
    | some "new" =>
      match RetryConfig.new maxAttempts (.fixed .zero) with
      | .ok c => pure c
      | .error e => throw (invalidAnswer e)
    | some "fixed" => pure (RetryConfig.fixed .zero maxAttempts)
    | some "no_retry" => pure RetryConfig.noRetry
    | some "default" => pure RetryConfig.default
    | some other => reject ("unknown retry config " ++ Json.debugQuote other)
    | none => pure ⟨maxAttempts, .fixed .zero⟩
  let (result, made) := (config.run (fun _ => 0.0) (scriptedAttempt outcomes) (·.2)).run.run []
  let resultJson := match ← halted result with
    | .ok v => Json.obj [("ok", v)]
    | .error (e, _) => Json.obj [("err", .str e)]
  pure (answer [("max_attempts", .ofNat config.maxAttempts),
    ("attempts", .arr (made.map Json.ofNat)), ("result", resultJson)])

/-- A double member that may also be written `"inf"`, `"-inf"` or `"nan"`. -/
def floatOf (input : Json) (k : String) : Reply Float :=
  match field? input k with
  | some (.num n) => pure n.toFloat
  | some (.str "inf") => pure (1.0 / 0.0)
  | some (.str "-inf") => pure (-1.0 / 0.0)
  | some (.str "nan") => pure (0.0 / 0.0)
  | some _ => reject ("`" ++ k ++ "` must be a number")
  | none => reject ("missing field `" ++ k ++ "`")

def backoffOf (b : Json) : Reply Backoff := do
  if ← boolOr b "default" false then return .default
  match ← nat? b "fixed_ns" with
  | some d => pure (.fixed (.ofNanos (UInt64.ofNat d)))
  | none =>
    let base ← nat b "base_ns" Word.u64Max
    let factor ← floatOf b "factor"
    let max ← nat b "max_ns" Word.u64Max
    let jitter ← natOr b "jitter_ns" Word.u64Max 0
    pure (.exponential (.ofNanos (UInt64.ofNat base)) factor (.ofNanos (UInt64.ofNat max))
      (.ofNanos (UInt64.ofNat jitter)))

/-- `backoff`: the delays of a backoff for some attempts. -/
def backoff (input : Json) : Reply Json := do
  let b ← backoffOf (← need input "backoff")
  let attempts ← eachOf (fun v => match v with
    | .num (.nat n) => if n ≤ Word.u32Max then pure n else reject "`attempts` out of range"
    | _ => reject "`attempts` must hold unsigned integers") (← arrOrEmpty input "attempts")
  let delays ← attempts.mapM fun a => halted (b.delay a)
  pure (answer [("delays_ns", .arr (delays.map fun d => Json.ofNat d.nanos))])

end FleetTelemetry.Request
