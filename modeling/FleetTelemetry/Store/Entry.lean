import FleetTelemetry.Json.Shape
import FleetTelemetry.Time.Rfc3339

/-!
# What the stores keep

The state store keeps, per device, the last status forwarded and when it was recorded; the
checkpoint store keeps, per integration and action, the instant up to which reports have been
taken. Both are written as JSON: a device state as `{"status", "recorded_at"?}` (the time left
out when unknown), a checkpoint as `{"last_updated_time"}` in RFC 3339 text.
-/

namespace FleetTelemetry

def pullActionId : String := "pull_observations"

structure DeviceState where
  status : String
  recordedAt : Option String := none
  deriving BEq, Repr

namespace DeviceState

def toJson (s : DeviceState) : Json :=
  .obj ([("status", .str s.status)] ++
    match s.recordedAt with
    | some r => [("recorded_at", .str r)]
    | none => [])

def shape : Json.Shape :=
  .record "DeviceState" [("status", .string, none), ("recorded_at", .option .string, some .null)] []

def ofDecoded (v : Json) : DeviceState :=
  { status := (v.get? "status" >>= Json.getStr?).getD "",
    recordedAt := v.get? "recorded_at" >>= Json.getStr? }

end DeviceState

structure Checkpoint where
  lastUpdatedTime : Time.Stamp
  deriving BEq, Repr

/-- What a message says an RFC 3339 timestamp decoder expects. -/
def rfc3339Expecting : String := "an RFC3339-formatted `OffsetDateTime`"

/-- The RFC 3339 text of a stamp, or the complaint when it has none. -/
def rfc3339Text (s : Time.Stamp) : Except String String :=
  match s.rfc3339 with
  | .ok t => .ok t
  | .error component => .error (Time.formatComplaint component)

def rfc3339Complaint (s : String) : Option String :=
  match Time.parseRfc3339 s with
  | .ok _ => none
  | .error e => some e.message

namespace Checkpoint

/-- The checkpoint as written; fails when the instant has no RFC 3339 text. -/
def toJson (c : Checkpoint) : Except String Json := do
  let t ← rfc3339Text c.lastUpdatedTime
  pure (.obj [("last_updated_time", .str t)])

def shape : Json.Shape :=
  .record "Checkpoint" [("last_updated_time", .parsed rfc3339Expecting rfc3339Complaint, none)] []

def ofDecoded (v : Json) : Checkpoint :=
  match v.get? "last_updated_time" >>= Json.getStr? with
  | some s =>
    match Time.parseRfc3339 s with
    | .ok t => ⟨t⟩
    | .error _ => ⟨⟨0, 0⟩⟩
  | none => ⟨⟨0, 0⟩⟩

end Checkpoint

end FleetTelemetry
