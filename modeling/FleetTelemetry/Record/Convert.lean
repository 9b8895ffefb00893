import FleetTelemetry.Record.Cell
import FleetTelemetry.Record.Schema
import FleetTelemetry.Record.Observation
import FleetTelemetry.Time.Loose
import FleetTelemetry.Error

/-!
# From vendor records to observations

A record of the right width becomes an observation when its unit id, GPS time, latitude and
longitude all hold something, both coordinates are finite non-zero numbers, and the GPS time
reads as a device time. Any other record is skipped, not rejected: the vendor sends such rows
for units without a fix. Only a record of the wrong width is an error, since then no position
can be trusted. With `movingOnly`, records whose status is not `Moving` are skipped too.

The observation's details are the cells of the fields that have a key of their own, the status
as text, and the subject group.
-/

namespace FleetTelemetry

structure ConvertOptions where
  movingOnly : Bool := false
  deriving Inhabited

def movingStatus : String := "Moving"

/-- The cell of a field in a record, `null` when the schema or the record lacks it. -/
def fieldValue (r : RawRecord) (schema : FieldSchema) (f : Field) : Json :=
  match schema.position f with
  | some i => (r.get? i).getD .null
  | none => .null

def detailsOf (r : RawRecord) (schema : FieldSchema) (status : String) : List (String × Json) :=
  let kept := (schema.fields.zip r.values).filterMap fun (f, v) => f.additionalKey.map (·, v)
  match Json.sortedObj (kept ++ [("status", .str status),
      ("subject_groups", .arr [.str subjectGroup])]) with
  | .obj ms => ms
  | _ => []

/-- The observation of one record at a device offset (seconds east of UTC): `none` for a
record that is skipped. Reading a device time with its own offset can stop the program when the
time cannot be shown at `offset`. -/
def convert (r : RawRecord) (schema : FieldSchema) (offset : Int) (options : ConvertOptions) :
    ExceptT DecodeFault (Except Halt) (Option Observation) := do
  if r.len ≠ schema.arity then throw ⟨schema.name, schema.arity, r.len⟩
  let field := fieldValue r schema
  let sensorId := field .unitId
  let gpsTime := field .gpsTime
  let latitude := field .latitude
  let longitude := field .longitude
  if !([sensorId, gpsTime, latitude, longitude].all Cell.truthy) then return none
  let (some lat, some lon) := (Cell.coordinate latitude, Cell.coordinate longitude)
    | return none
  if lat == 0.0 || lon == 0.0 then return none
  let some recordedAt ← (Time.localize (Cell.text gpsTime) offset : Except Halt _)
    | return none
  let status := Cell.text (field .status)
  if options.movingOnly && status != movingStatus then return none
  return some
    { source := Cell.text sensorId, sourceName := Cell.text (field .unitName),
      subjectType := subjectType, kind := observationType, recordedAt,
      location := ⟨lat, lon⟩, additional := detailsOf r schema status }

/-- The observations of records in order, skipped records left out; the first record of the
wrong width is the error. -/
def convertAll (schema : FieldSchema) (offset : Int) (options : ConvertOptions) :
    List RawRecord → ExceptT DecodeFault (Except Halt) (List Observation)
  | [] => pure []
  | r :: rs => do
    let o ← convert r schema offset options
    let os ← convertAll schema offset options rs
    pure (o.toList ++ os)

end FleetTelemetry
