import FleetTelemetry.Record.Schema
import FleetTelemetry.Text.Blank
import FleetTelemetry.Error
import FleetTelemetry.Time.Loose

/-!
# Integration settings

An integration is identified by a non-blank id and may name its own vendor endpoint; a blank
endpoint means the vendor's default. Credentials need a non-blank user name and a non-empty
password (a password of blanks is still a password), and their debug text never shows the
password. A pull configuration holds the look-back of a first poll (1 to 24 hours), the device
offset (-12 to 12 hours) and the schema. Configurations read from JSON are taken as written and
only checked by `validate`.
-/

namespace FleetTelemetry

/-- The vendor's endpoint when an integration names none. -/
def defaultBaseUrl : String :=
  "https://sdk.galooli-systems.com/galooliSDKService.svc/json/Assets_Report"

/-- An integration: its id and, optionally, its own endpoint. -/
structure Integration where
  id : String
  baseUrl : Option String := none
  deriving BEq, Repr

namespace Integration

def new (id : String) : Except Invalid Integration :=
  if Text.isBlankText id then .error .emptyIntegrationId else .ok { id }

def withBaseUrl (i : Integration) (url : String) : Integration := { i with baseUrl := some url }

/-- The endpoint to poll: its own unless blank, else the default. -/
def endpoint (i : Integration) : String :=
  match i.baseUrl with
  | some u => if Text.isBlankText u then defaultBaseUrl else u
  | none => defaultBaseUrl

def shape : Json.Shape :=
  .record "Integration" [("id", .string, none), ("base_url", .option .string, some .null)] []

def ofDecoded (v : Json) : Integration :=
  { id := (v.get? "id" >>= Json.getStr?).getD "", baseUrl := v.get? "base_url" >>= Json.getStr? }

end Integration

structure Credentials where
  username : String
  password : String
  deriving BEq

namespace Credentials

/-- Credentials with a non-blank user name and a non-empty password. -/
def new (username password : String) : Except Invalid Credentials :=
  if Text.isBlankText username then .error .emptyUsername
  else if password.isEmpty then .error .emptyPassword
  else .ok ⟨username, password⟩

/-- The debug text: the user name quoted, the password masked. -/
def debugText (c : Credentials) : String :=
  "Credentials \x7b username: " ++ Json.debugQuote c.username ++ ", password: \"**********\" \x7d"

end Credentials

/-- The look-back of a first poll when none is configured. -/
def defaultLookBackHours : Nat := 4

structure PullConfig where
  lookBackHours : Nat
  gmtOffset : Int
  schema : FieldSchema := .basic
  deriving BEq, Repr

namespace PullConfig

def default : PullConfig := ⟨defaultLookBackHours, 0, .basic⟩

/-- A configuration with a look-back of 1 to 24 hours and an offset of -12 to 12 hours. -/
def new (lookBack gmtOffset : Int) : Except Invalid PullConfig :=
  if lookBack < 1 ∨ lookBack > 24 then .error (.lookBackOutOfRange lookBack)
  else if gmtOffset < -12 ∨ gmtOffset > 12 then .error (.gmtOffsetOutOfRange gmtOffset)
  else .ok ⟨lookBack.toNat, gmtOffset, .basic⟩

def withSchema (c : PullConfig) (s : FieldSchema) : PullConfig := { c with schema := s }

def validate (c : PullConfig) : Except Invalid Unit :=
  (fun _ => ()) <$> new c.lookBackHours c.gmtOffset

def utcOffset (c : PullConfig) : Except Invalid Int := do
  c.validate
  match Time.hoursOffset c.gmtOffset with
  | some o => pure o
  | none => throw (.gmtOffsetOutOfRange c.gmtOffset)

def toJson (c : PullConfig) : Json :=
  .obj [("look_back_window_hours", .ofNat c.lookBackHours), ("gmt_offset", .ofInt c.gmtOffset),
    ("schema", .str c.schema.name)]

def shape : Json.Shape :=
  .record "PullConfig"
    [("look_back_window_hours", .integer "u8" 0 255, none), ("gmt_offset", .integer "i8" (-128) 127, none),
     ("schema", FieldSchema.shape, some (.str "basic"))]
    []

def ofDecoded (v : Json) : PullConfig :=
  let num (k : String) : Int := match v.get? k with
    | some (.num n) => (n.toInt?).getD 0
    | _ => 0
  { lookBackHours := (num "look_back_window_hours").toNat, gmtOffset := num "gmt_offset",
    schema := FieldSchema.ofJson ((v.get? "schema").getD .null) }

end PullConfig

end FleetTelemetry
