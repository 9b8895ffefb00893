import FleetTelemetry.Json.Shape

/-!
# Field schemas

The vendor returns the properties a request names, in that order. A schema fixes that list:
`basic` asks for nine properties, `extended` for fourteen (the basic ones plus the asset model
and four details). A record is read positionally against its schema, and some fields are also
copied into an observation's `additional` map under a key of their own.
-/

namespace FleetTelemetry

inductive Field where
  | unitId | unitName | assetModel | orgName | gpsTime | status | latitude | longitude
  | odometer | speed | hdop | altitude | heading | description
  deriving BEq, DecidableEq, Repr

namespace Field

def name : Field → String
  | .unitId => "UnitId" | .unitName => "UnitName" | .assetModel => "AssetModel"
  | .orgName => "OrgName" | .gpsTime => "GpsTime" | .status => "Status"
  | .latitude => "Latitude" | .longitude => "Longitude" | .odometer => "Odometer"
  | .speed => "Speed" | .hdop => "Hdop" | .altitude => "Altitude" | .heading => "Heading"
  | .description => "Description"

def property : Field → String
  | .unitId => "u.unit_id" | .unitName => "u.unit_name" | .assetModel => "a.model"
  | .orgName => "o.name" | .gpsTime => "ac.gps_time" | .status => "ac.status"
  | .latitude => "ac.latitude" | .longitude => "ac.longitude"
  | .odometer => "ac.current_odometer_reading" | .speed => "ac.speed" | .hdop => "ac.hdop"
  | .altitude => "ac.altitude" | .heading => "ac.heading" | .description => "u.description"

def additionalKey : Field → Option String
  | .unitId => some "sensor_id" | .orgName => some "org_name" | .status => some "status"
  | .odometer => some "distance" | .speed => some "speed" | .assetModel => some "asset_model"
  | .hdop => some "hdop" | .altitude => some "altitude" | .heading => some "heading"
  | .description => some "description"
  | .unitName | .gpsTime | .latitude | .longitude => none

end Field

inductive FieldSchema where
  | basic
  | extended
  deriving BEq, DecidableEq, Repr, Inhabited

namespace FieldSchema

def name : FieldSchema → String
  | .basic => "basic"
  | .extended => "extended"

def fields : FieldSchema → List Field
  | .basic => [.unitId, .unitName, .orgName, .gpsTime, .status, .latitude, .longitude,
      .odometer, .speed]
  | .extended => [.unitId, .unitName, .assetModel, .orgName, .gpsTime, .status, .latitude,
      .longitude, .odometer, .speed, .hdop, .altitude, .heading, .description]

def arity (s : FieldSchema) : Nat := s.fields.length

def requestedProperties (s : FieldSchema) : String :=
  ",".intercalate (s.fields.map Field.property)

def position (s : FieldSchema) (f : Field) : Option Nat := s.fields.idxOf? f

def all : List FieldSchema := [.basic, .extended]

def ofName? (n : String) : Option FieldSchema := all.find? (·.name == n)

/-- What a decoder accepts as a schema: one of the names. -/
def shape : Json.Shape := .choice (all.map name)

/-- The schema a decoded name stands for (decoding only yields the schema names). -/
def ofJson (v : Json) : FieldSchema :=
  match v with
  | .str n => (ofName? n).getD .basic
  | _ => .basic

end FieldSchema

end FleetTelemetry
