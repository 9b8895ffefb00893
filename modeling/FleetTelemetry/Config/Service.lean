import FleetTelemetry.Config.Source
import FleetTelemetry.Settings
import FleetTelemetry.Dedup
import FleetTelemetry.Record.Convert
import FleetTelemetry.Sink.Batch

/-!
# The service configuration

What the command line runs with: logging, the integration and its endpoint, the vendor account,
the pull window and schema, the deduplication and conversion choices, the batch size, the number
of vendor attempts, the snapshot path and the sink. Every field has a default; a missing key
keeps it and an unknown key is ignored.

`ServiceConfig.load` merges the file (when one is named) and the `FLEETSYNC_*` environment, then
reads each known key with the setting conversions of `Config.Setting`. A complaint names the key
(`quiet_statuses[1]` for a list element). A list that is not a list, and a schema that is not a
schema name, are refused in words without a key.
-/

namespace FleetTelemetry.Config

structure ServiceConfig where
  logLevel : String := "info"
  logJson : Bool := false
  integrationId : String := "default"
  baseUrl : Option String := none
  username : Option String := none
  password : Option String := none
  lookBackWindowHours : Int := 4
  gmtOffset : Int := 0
  schema : FieldSchema := .basic
  quietStatuses : List String := ["off"]
  movingOnly : Bool := false
  batchSize : Nat := batchSize
  maxAttempts : Nat := 6
  stateFile : Option String := none
  sinkUrl : Option String := none
  sinkToken : Option String := none

def envPrefix : String := "FLEETSYNC"

def listKeys : List String := ["quiet_statuses"]

/-- A setting that may be absent: nothing stands for no value. -/
def optionalText (v : Setting) : Except ConfigFault (Option String) :=
  match v with
  | .nil _ => .ok none
  | _ => some <$> v.toText

/-- The schema a setting names: its text, or the single key of a table. -/
def schemaOf (v : Setting) : Except ConfigFault FieldSchema :=
  let structural := ConfigFault.message
    "value of enum FieldSchema should be represented by either string or table with exactly one key"
  let byName (n : String) : Except ConfigFault FieldSchema :=
    if n == "basic" then .ok .basic
    else if n == "extended" then .ok .extended
    else .error (.message ("enum FieldSchema does not have variant constructor " ++ n))
  match v with
  | .str _ s => byName s
  | .table _ [(k, _)] => byName k
  | _ => .error structural

/-- A list of texts: each element a text, the element's place named on a complaint. -/
def textList (v : Setting) : Except ConfigFault (List String) :=
  match v with
  | .arr _ items =>
    let rec each : Nat → List Setting → Except ConfigFault (List String)
      | _, [] => .ok []
      | i, x :: xs => do
        let t ← (x.toText).mapError (ConfigFault.atIndex i)
        let ts ← each (i + 1) xs
        .ok (t :: ts)
    each 0 items
  | other => .error (.message ("invalid type: " ++ other.found ++ ", expected a sequence"))

/-- Reads one key into a configuration; unknown keys leave it as it is. -/
def readKey (c : ServiceConfig) (k : String) (v : Setting) : Except ConfigFault ServiceConfig :=
  (match k with
  | "log_level" => (fun x => { c with logLevel := x }) <$> v.toText
  | "log_json" => (fun x => { c with logJson := x }) <$> v.toFlag
  | "integration_id" => (fun x => { c with integrationId := x }) <$> v.toText
  | "base_url" => (fun x => { c with baseUrl := x }) <$> optionalText v
  | "username" => (fun x => { c with username := x }) <$> optionalText v
  | "password" => (fun x => { c with password := x }) <$> optionalText v
  | "look_back_window_hours" => (fun x => { c with lookBackWindowHours := x }) <$> v.toInt
  | "gmt_offset" => (fun x => { c with gmtOffset := x }) <$> v.toInt
  | "schema" => (fun x => { c with schema := x }) <$> schemaOf v
  | "quiet_statuses" => (fun x => { c with quietStatuses := x }) <$> textList v
  | "moving_only" => (fun x => { c with movingOnly := x }) <$> v.toFlag
  | "batch_size" => (fun x => { c with batchSize := x }) <$> v.toUnsigned
  | "max_attempts" => do
    let n ← v.toUnsigned
    if n ≤ Word.u32Max then pure { c with maxAttempts := n }
    else throw (ConfigFault.mismatch none ("64-bit unsigned integer `" ++ toString n ++ "`")
      "an unsigned 32 bit integer" none)
  | "state_file" => (fun x => { c with stateFile := x }) <$> optionalText v
  | "sink_url" => (fun x => { c with sinkUrl := x }) <$> optionalText v
  | "sink_token" => (fun x => { c with sinkToken := x }) <$> optionalText v
  | _ => .ok c).mapError (ConfigFault.underKey k)

def ServiceConfig.ofSettings (members : List (String × Setting)) : Except ConfigFault ServiceConfig :=
  members.foldlM (fun c (k, v) => readKey c k v) {}

/-- Loads the configuration: the named file, if any, then the environment. -/
def ServiceConfig.load (tree : Files.Tree) (file : Option String) (env : List (String × String)) :
    Except ConfigFault ServiceConfig := do
  let fromFile ← match file with
    | some name => fileSettings tree name
    | none => .ok []
  let members := mergeSource (envSettings envPrefix listKeys env) (mergeSource fromFile [])
  ServiceConfig.ofSettings members

namespace ServiceConfig

/-- The integration: its id, and its endpoint when one is set. -/
def integration (c : ServiceConfig) : Except Invalid Integration := do
  let i ← Integration.new c.integrationId
  pure (match c.baseUrl with
    | some u => i.withBaseUrl u
    | none => i)

/-- The vendor account; a missing name or password is empty. -/
def credentials (c : ServiceConfig) : Except Invalid Credentials :=
  Credentials.new (c.username.getD "") (c.password.getD "")

/-- The pull configuration: look-back, offset and schema. -/
def pullConfig (c : ServiceConfig) : Except Invalid PullConfig := do
  let p ← PullConfig.new c.lookBackWindowHours c.gmtOffset
  pure (p.withSchema c.schema)

def dedupConfig (c : ServiceConfig) : DedupConfig := { quietStatuses := c.quietStatuses }

end ServiceConfig

end FleetTelemetry.Config
