import FleetTelemetry.Json.Shape
import FleetTelemetry.Record.Cell
import FleetTelemetry.Time.Loose
import FleetTelemetry.Error

/-!
# The vendor's envelope

The vendor answers with `{"CommonResult": {"ResultCode", "ResultDescription"?, "RejectReason"?,
"DataSet"?}, "MaxGmtUpdateTime"?}`. Result code 0 carries the rows and the instant up to which
they reach (in the vendor's UTC text); any other code is an error. Error codes 1000 (bad
credentials) and 1101 (throttled) have their own faults, and every fault carries the first
non-blank of the description and the reject reason, or a default text.

A blank body, `null` and `{}` mean no rows. A body that is not JSON, or JSON of another shape,
is a malformed envelope; an unreadable `MaxGmtUpdateTime` is ignored.
-/

namespace FleetTelemetry

def successCode : Int := 0

structure FetchResult where
  records : List RawRecord := []
  maxGmtUpdateTime : Option Time.Stamp := none

namespace Envelope

open Json (Shape)

def i64 : Shape := .integer "i64" Word.i64Min Word.i64Max

def commonResultShape : Shape :=
  .record "CommonResult"
    [("ResultCode", i64, none), ("ResultDescription", .option .string, some .null),
     ("RejectReason", .option .string, some .null),
     ("DataSet", .option (.list (.list .any)), some .null)]
    []

def shape : Shape :=
  .record "VendorEnvelope"
    [("CommonResult", commonResultShape, none), ("MaxGmtUpdateTime", .option .string, some .null)] []

/-- The first non-blank of the description and the reject reason, trimmed. -/
def description (result : Json) : Option String :=
  (["ResultDescription", "RejectReason"].filterMap fun k => result.get? k >>= Json.getStr?)
    |>.map Text.trim |>.find? (!·.isEmpty)

def faultOf (code : Int) (description : Option String) : VendorFault :=
  if code = authInvalidCode then .authInvalid code (description.getD "Invalid user credentials")
  else if code = rateLimitedCode then .rateLimited code (description.getD "Too many requests")
  else .general code (description.getD ("General error occurred. Result code: " ++ toString code))

def codeOf : Option Json → Int
  | some (.num n) => (n.toInt?).getD 0
  | _ => 0

def parse (body : String) : Except VendorFault FetchResult :=
  if Text.isBlankText body then .ok {}
  else
    match Json.parse body with
    | .error e => .error (.envelope ("response is not JSON: " ++ e.message))
    | .ok .null => .ok {}
    | .ok (.obj []) => .ok {}
    | .ok v =>
      match shape.ofJson v with
      | .error e => .error (.envelope ("unexpected envelope shape: " ++ e.message))
      | .ok d =>
        let result := (d.get? "CommonResult").getD .null
        let code := codeOf (result.get? "ResultCode")
        if code ≠ successCode then .error (faultOf code (description result))
        else
          let maxTime := (d.get? "MaxGmtUpdateTime" >>= Json.getStr?).bind fun raw =>
            if Text.isBlankText raw then none else Time.parseWire raw
          let rows := ((result.get? "DataSet" >>= Json.getArr?).getD []).map fun row =>
            RawRecord.mk ((row.getArr?).getD [])
          .ok { records := rows, maxGmtUpdateTime := maxTime }

end Envelope

end FleetTelemetry
