import FleetTelemetry.Json.Shape
import FleetTelemetry.Time.Rfc3339

/-!
# Observations

An observation is what the library delivers for one position report of one vehicle: who
reported (`source`, `sourceName`), what kind of subject and report it is, when it was recorded
(shown at the device's offset), where, and a dictionary of further details. The device status,
when there is one, is the string under `status` in the details.

Written out, an observation is an object with its members in a fixed order (`source`,
`source_name`, `subject_type`, `type`, `recorded_at`, `location`, `additional`); as a
dictionary value, the same members are sorted by key. The recording time is written as ISO 8601
text and read back as RFC 3339.
-/

namespace FleetTelemetry

def observationType : String := "tracking-device"

def subjectType : String := "security_vehicle"

def subjectGroup : String := "Vehicles"

structure Location where
  lat : Float
  lon : Float

structure Observation where
  source : String
  sourceName : String
  subjectType : String
  kind : String
  recordedAt : Time.Stamp
  location : Location
  additional : List (String × Json)

namespace Observation

/-- The device status: the string under `status`, else empty. -/
def status (o : Observation) : String :=
  match o.additional.lookup "status" with
  | some (.str s) => s
  | _ => ""

def recordedAtIso (o : Observation) : String := o.recordedAt.iso

def locationJson (l : Location) : Json :=
  .obj [("lat", Json.ofFloat l.lat), ("lon", Json.ofFloat l.lon)]

def toJson (o : Observation) : Json :=
  .obj [("source", .str o.source), ("source_name", .str o.sourceName),
    ("subject_type", .str o.subjectType), ("type", .str o.kind),
    ("recorded_at", .str o.recordedAtIso), ("location", locationJson o.location),
    ("additional", .obj o.additional)]

def toValue (o : Observation) : Json :=
  .obj [("additional", .obj o.additional), ("location", locationJson o.location),
    ("recorded_at", .str o.recordedAtIso), ("source", .str o.source),
    ("source_name", .str o.sourceName), ("subject_type", .str o.subjectType),
    ("type", .str o.kind)]

/-- The complaint about a recording time that is not RFC 3339 text. -/
def timeComplaint (s : String) : Option String :=
  match Time.parseRfc3339 s with
  | .ok _ => none
  | .error e => some e.message

def shape : Json.Shape :=
  .record "Observation"
    [("source", .string, none), ("source_name", .string, none), ("subject_type", .string, none),
     ("type", .string, none), ("recorded_at", .parsed "a string" timeComplaint, none),
     ("location", .record "Location" [("lat", .double, none), ("lon", .double, none)] [], none),
     ("additional", .dict .any, none)]
    []

def floatOf : Option Json → Float
  | some (.num n) => n.toFloat
  | _ => 0.0

def stringOf : Option Json → String
  | some (.str s) => s
  | _ => ""

/-- The observation a decoded value stands for (the value has passed `shape`). -/
def ofDecoded (v : Json) : Observation :=
  let field := v.get?
  let loc := (field "location").getD .null
  let recordedAt := match Time.parseRfc3339 (stringOf (field "recorded_at")) with
    | .ok s => s
    | .error _ => ⟨0, 0⟩
  let additional := match field "additional" with
    | some (.obj ms) => ms
    | _ => []
  { source := stringOf (field "source"), sourceName := stringOf (field "source_name"),
    subjectType := stringOf (field "subject_type"), kind := stringOf (field "type"),
    recordedAt, location := ⟨floatOf (loc.get? "lat"), floatOf (loc.get? "lon")⟩, additional }

end Observation

end FleetTelemetry
