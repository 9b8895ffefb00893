import FleetTelemetry.Request.Input
import FleetTelemetry.Record.Convert
import FleetTelemetry.Time.Window
import FleetTelemetry.Settings
import FleetTelemetry.Store.Entry
import FleetTelemetry.Poll.Verdict
import FleetTelemetry.Sink.Batch
import FleetTelemetry.Http.Message
import FleetTelemetry.Json.ShapeText

/-!
# Requests on single values

Each of these requests reads its members, calls one part of the library and answers with what
it returned: cell readings, timestamp readings and texts, poll windows, schemas, conversions,
settings, stored entries, HTTP messages and vendor faults.
-/

namespace FleetTelemetry.Request

open Json (Shape)

/-- Decodes a value by a shape, a rejection being a `Deserialize` answer. -/
def decodeValue (shape : Shape) (v : Json) : Reply Json := decoded (shape.ofJson v)

/-- Decodes a text by a shape, a rejection being a `Deserialize` answer. -/
def decodeText (shape : Shape) (s : String) : Reply Json := decoded (shape.readText s)

def schemaOf (input : Json) : Reply FieldSchema :=
  match field? input "schema" with
  | none => pure .basic
  | some v => FieldSchema.ofJson <$> decodeValue FieldSchema.shape v

def isoOrNull : Option Time.Stamp → Json
  | some s => .str s.iso
  | none => .null

def value (input : Json) : Reply Json :=
  let v := (field? input "value").getD .null
  pure (answer [("truthy", .bool (Cell.truthy v)),
    ("coordinate", match Cell.coordinate v with | some x => .num (.float x) | none => .null),
    ("text", .str (Cell.text v))])

/-- `localize`: a device time shown at an offset of whole hours. -/
def localize (input : Json) : Reply Json := do
  let text ← str input "input"
  let hours ← int input "offset_hours" (-128) 127
  match Time.hoursOffset hours with
  | none => pure (answer [("offset_valid", .bool false), ("result", .null)])
  | some offset =>
    let r ← halted (Time.localize text offset)
    pure (answer [("offset_valid", .bool true), ("result", isoOrNull r)])

def wire (input : Json) : Reply Json := do
  let text ← str input "input"
  match Time.parseWire text with
  | none => pure (answer [("iso", .null), ("wire", .null)])
  | some s =>
    let w ← halted s.wire
    pure (answer [("iso", .str s.iso), ("wire", .str w)])

/-- `format`: a timestamp in ISO and in the vendor's text. -/
def format (input : Json) : Reply Json := do
  let t ← stamp input "time"
  let w ← halted t.wire
  pure (answer [("iso", .str t.iso), ("wire", .str w)])

def window (input : Json) : Reply Json := do
  let now ← stamp input "now"
  let lookBack ← nat input "look_back_hours" 255
  let checkpoint ← stamp? input "checkpoint"
  let w ← halted (Time.Window.compute checkpoint lookBack now)
  let startWire ← halted w.startWire
  let display ← halted w.display
  pure (answer [("start", .str w.start.iso), ("end", .str w.stop.iso),
    ("start_wire", .str startWire), ("display", .str display)])

def fieldJson (s : FieldSchema) (f : Field) : Json :=
  answer [("field", .str f.name), ("property", .str f.property),
    ("additional_key", Json.ofOption f.additionalKey),
    ("position", match s.position f with | some i => .ofNat i | none => .null)]

/-- `schema`: a schema's name, width, request text and fields. -/
def schema (input : Json) : Reply Json := do
  let s ← schemaOf input
  pure (answer [("name", .str s.name), ("arity", .ofNat s.arity),
    ("requested_properties", .str s.requestedProperties), ("serialized", .str s.name),
    ("fields", .arr (s.fields.map (fieldJson s)))])

def recordOf (v : Json) : Reply RawRecord := do
  let d ← decodeValue (.list .any) v
  pure ⟨(d.getArr?).getD []⟩

def gmtOffsetOf (input : Json) : Reply Int := do
  let h ← match field? input "gmt_offset" with
    | none => pure 0
    | some (.num n) =>
      match n.toInt? with
      | some i => if -128 ≤ i ∧ i ≤ 127 then pure i else reject "`gmt_offset` out of range"
      | none => reject "`gmt_offset` out of range"
    | some _ => reject "`gmt_offset` must be an integer"
  match Time.hoursOffset h with
  | some o => pure o
  | none => reject "`gmt_offset` out of range"

def converted (r : ExceptT DecodeFault (Except Halt) α) : Reply α := do
  match ← halted r.run with
  | .ok a => pure a
  | .error e => throw (decodeAnswer e)

def convert (input : Json) : Reply Json := do
  let record ← recordOf (← need input "record")
  let s ← schemaOf input
  let offset ← gmtOffsetOf input
  let movingOnly ← boolOr input "moving_only" false
  let o ← converted (FleetTelemetry.convert record s offset ⟨movingOnly⟩)
  pure (answer [("observation", match o with | some o => o.toValue | none => .null)])

def convertAll (input : Json) : Reply Json := do
  let rows ← decodeValue (.list (.list .any)) (← need input "records")
  let records := ((rows.getArr?).getD []).map fun r => RawRecord.mk ((r.getArr?).getD [])
  let s ← schemaOf input
  let offset ← gmtOffsetOf input
  let movingOnly ← boolOr input "moving_only" false
  let os ← converted (FleetTelemetry.convertAll s offset ⟨movingOnly⟩ records)
  pure (answer [("observations", .arr (os.map Observation.toValue))])

def rawRecord (input : Json) : Reply Json := do
  let values ← arr input "values"
  let gets ← arrOrEmpty input "get"
  let indices ← eachOf (fun v => match v with
    | .num (.nat n) => pure n
    | _ => reject "`get` must hold unsigned integers") gets
  let r : RawRecord := ⟨values⟩
  pure (answer [("len", .ofNat r.len), ("is_empty", .bool r.isEmpty), ("values", .arr r.values),
    ("serialized", .arr r.values), ("get", .arr (indices.map fun i => (r.get? i).getD .null))])

/-- `batches`: the sizes of the batches of a count of items. -/
def batchSizes (input : Json) : Reply Json := do
  let count ← nat input "count" 100000
  let size ← nat input "size" Word.u64Max
  let sizes := (batches size (List.replicate count ())).map List.length
  pure (answer [("sizes", .arr (sizes.map Json.ofNat)), ("batch_size_const", .ofNat batchSize)])

def httpResponse (input : Json) : Reply Json := do
  match ← statusCode? input "status" with
  | some s => pure (answer [("is_success", .bool (Http.Response.isSuccess ⟨s, ""⟩))])
  | none => reject "status"

/-- `credentials`: checked credentials and their debug text. -/
def credentials (input : Json) : Reply Json := do
  let u ← str input "username"
  let p ← str input "password"
  match Credentials.new u p with
  | .error e => throw (invalidAnswer e)
  | .ok c => pure (answer [("username", .str c.username), ("password", .str c.password),
      ("debug", .str c.debugText)])

def integrationJson (i : Integration) : Json :=
  answer [("id", .str i.id), ("base_url", Json.ofOption i.baseUrl), ("endpoint", .str i.endpoint)]

/-- `integration`: a checked or decoded integration and its endpoint. -/
def integration (input : Json) : Reply Json := do
  match field? input "json" with
  | some v => integrationJson <$> (Integration.ofDecoded <$> decodeValue Integration.shape v)
  | none =>
    let id ← str input "id"
    let url ← str? input "base_url"
    match Integration.new id with
    | .error e => throw (invalidAnswer e)
    | .ok i => pure (integrationJson (match url with | some u => i.withBaseUrl u | none => i))

def checkedJson : Except Invalid Unit → Json
  | .ok () => .str "ok"
  | .error e => invalidAnswer e

def pullConfigJson (c : PullConfig) : Json :=
  answer [("look_back_window_hours", .ofNat c.lookBackHours), ("gmt_offset", .ofInt c.gmtOffset),
    ("schema", .str c.schema.name), ("validate", checkedJson c.validate),
    ("utc_offset_hours", match c.utcOffset with
      | .ok o => .ofInt (o / 3600)
      | .error e => invalidAnswer e),
    ("serialized", Json.sortedObj (match c.toJson with | .obj ms => ms | _ => []))]

/-- `pull_config`: a checked, decoded or default configuration. -/
def pullConfig (input : Json) : Reply Json := do
  if ← boolOr input "default" false then return pullConfigJson PullConfig.default
  match field? input "json" with
  | some v => pullConfigJson <$> (PullConfig.ofDecoded <$> decodeValue PullConfig.shape v)
  | none =>
    let lookBack ← int input "look_back_window_hours" Word.i64Min Word.i64Max
    let gmt ← int input "gmt_offset" Word.i64Min Word.i64Max
    match PullConfig.new lookBack gmt with
    | .error e => throw (invalidAnswer e)
    | .ok c => pure (pullConfigJson c)

def vendorFaultOf (input : Json) : Reply VendorFault := do
  let kind ← str input "kind"
  let code ← intOr input "code" Word.i64Min Word.i64Max 0
  let status ← statusCode? input "status"
  let message ← strOr input "message" ""
  match kind with
  | "auth_invalid" => pure (.authInvalid code message)
  | "rate_limited" => pure (.rateLimited code message)
  | "general" => pure (.general code message)
  | "transport" => pure (.transport status message)
  | "envelope" => pure (.envelope message)
  | other => reject ("unknown vendor error kind " ++ Json.debugQuote other)

/-- `vendor_error`: a vendor fault's text, code, message, retry advice and verdict. -/
def vendorError (input : Json) : Reply Json := do
  let e ← vendorFaultOf input
  pure (answer [("display", .str e.display), ("kind", .str e.variant),
    ("code", match e.code with | some c => .ofInt c | none => .null), ("message", .str e.message),
    ("retryable", .bool e.isRetryable), ("credential_status", (CredentialStatus.ofFault e).toJson)])

/-- `observation_json`: a written observation read back. -/
def observationJson (input : Json) : Reply Json := do
  let text ← str input "text"
  let o := Observation.ofDecoded (← decodeText Observation.shape text)
  pure (answer [("observation", o.toValue), ("status", .str o.status),
    ("recorded_at_iso", .str o.recordedAtIso)])

/-- `checkpoint_json`: a checkpoint written out and shown. -/
def checkpointJson (input : Json) : Reply Json := do
  let c ← match ← str? input "text" with
    | some text => Checkpoint.ofDecoded <$> decodeText Checkpoint.shape text
    | none => Checkpoint.mk <$> stamp input "time"
  match c.toJson with
  | .ok j => pure (answer [("serialized", j), ("iso", .str c.lastUpdatedTime.iso)])
  | .error m => throw (deserializeAnswer (.custom m))

def deviceStateJson (input : Json) : Reply Json := do
  let s ← match ← str? input "text" with
    | some text => DeviceState.ofDecoded <$> decodeText DeviceState.shape text
    | none => do
      let status ← str input "status"
      let recordedAt ← str? input "recorded_at"
      pure ⟨status, recordedAt⟩
  pure (answer [("serialized", s.toJson)])

def requestStep (r : Http.Request) (step : Json) : Reply Http.Request := do
  let pair (k : String) : Reply (String × String) := match field? step k with
    | some (.arr [.str a, .str b]) => pure (a, b)
    | _ => reject ("`" ++ k ++ "` must be a pair of strings")
  if (field? step "query").isSome then
    let (k, v) ← pair "query"
    return r.withQuery k v
  if (field? step "header").isSome then
    let (k, v) ← pair "header"
    return r.withHeader k v
  match field? step "auth" with
  | some a => return r.withAuth (← authOf a)
  | none => pure ()
  match ← str? step "body" with
  | some b => return r.withBody b
  | none => pure ()
  match ← nat? step "timeout_ms" with
  | some ms => return r.withTimeoutMs ms
  | none => reject "unknown request step"
where
  /-- An authentication: a bearer token, a header pair, or none. -/
  authOf (a : Json) : Reply Http.Auth := do
    match ← str? a "bearer" with
    | some t => pure (.bearer t)
    | none =>
      match field? a "header" with
      | some (.arr [.str n, .str v]) => pure (.header n v)
      | some _ => reject "`header` must be a pair of strings"
      | none => pure .none

def requestSteps (r : Http.Request) : List Json → Reply Http.Request
  | [] => pure r
  | s :: ss => do requestSteps (← requestStep r s) ss

/-- The request a request member describes: method, URL and steps. -/
def httpRequestOf (input : Json) : Reply Http.Request := do
  let method ← match ← str input "method" with
    | "GET" => pure Http.Method.get
    | "POST" => pure Http.Method.post
    | other => reject ("unknown method " ++ Json.debugQuote other)
  let url ← str input "url"
  requestSteps (Http.Request.new method url) (← arrOrEmpty input "steps")

/-- `http_request`: a built request and the query values looked up in it. -/
def httpRequest (input : Json) : Reply Json := do
  let r ← httpRequestOf input
  let lookup ← eachOf (fun v => match v with
    | .str s => pure s
    | _ => reject "`lookup` must hold strings") (← arrOrEmpty input "lookup")
  let fields := match r.toJson with | .obj ms => ms | _ => []
  pure (answer (fields ++ [("lookup", .arr (lookup.map fun k => Json.ofOption (r.queryValue k)))]))

end FleetTelemetry.Request
