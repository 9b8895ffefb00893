import FleetTelemetry.Request.FileStore
import FleetTelemetry.Request.Loopback
import FleetTelemetry.Request.Cli

/-!
# Answering requests

A request line is a JSON object naming its operation in `op`; the answer is one JSON line. A
line that is not JSON, has no `op`, or names an unknown operation is answered with `BadInput`.
-/

namespace FleetTelemetry.Request

def handlerOf (clock : Clock) : String → Option (Json → Reply Json)
  | "value" => some value
  | "localize" => some localize
  | "wire" => some wire
  | "format" => some format
  | "window" => some window
  | "schema" => some schema
  | "convert" => some convert
  | "convert_all" => some convertAll
  | "raw_record" => some rawRecord
  | "batches" => some batchSizes
  | "http_response" => some httpResponse
  | "http_request" => some httpRequest
  | "credentials" => some credentials
  | "integration" => some integration
  | "pull_config" => some pullConfig
  | "vendor_error" => some vendorError
  | "observation_json" => some observationJson
  | "checkpoint_json" => some checkpointJson
  | "device_state_json" => some deviceStateJson
  | "fetch" => some fetch
  | "verify_credentials" => some verify
  | "retry" => some retry
  | "backoff" => some backoff
  | "dedup" => some (dedup clock)
  | "poll" => some (poll clock)
  | "http_sink" => some httpSink
  | "json_lines_sink" => some jsonLinesSinkRequest
  | "file_store" => some (fileStore clock)
  | "reqwest" => some (loopback clock)
  | "cli" => some (commandLine clock)
  | _ => none

def answerOf (clock : Clock) (input : Json) : Json :=
  let reply : Reply Json := do
    let op ← match field? input "op" with
      | none => reject "missing field `op`"
      | some (.str s) => pure s
      | some _ => reject "`op` must be a string"
    match handlerOf clock op with
    | some h => h input
    | none => reject ("unknown op " ++ Json.debugQuote op)
  match reply with
  | .ok a => a
  | .error a => a

def respond (clock : Clock) (line : String) : String :=
  match Json.parse line with
  | .ok input => Json.compact (answerOf clock input)
  | .error e => Json.compact (badInput e.message)

end FleetTelemetry.Request
