import FleetTelemetry.Json.Value
import FleetTelemetry.Error

/-!
# Credential verdicts

Checking credentials asks the vendor for one report. The answer is a verdict: the credentials
work, the vendor refused them with a code and a message (any vendor result code counts, even a
throttling one), or the vendor could not be asked or gave no readable answer.
-/

namespace FleetTelemetry

inductive CredentialStatus where
  | valid
  | invalid (message : String) (code : Int)
  | transportFailure (statusCode : Option Nat)
  deriving BEq, Repr

namespace CredentialStatus

def isValid : CredentialStatus → Bool
  | .valid => true
  | _ => false

def toJson : CredentialStatus → Json
  | .valid => .obj [("valid_credentials", .bool true)]
  | .invalid m c => .obj [("code", .ofInt c), ("message", .str m), ("valid_credentials", .bool false)]
  | .transportFailure s =>
    .obj [("error", .bool true), ("status_code", match s with | some n => .ofNat n | none => .null)]

def ofFault : VendorFault → CredentialStatus
  | .authInvalid c m | .rateLimited c m | .general c m => .invalid m c
  | .transport s _ => .transportFailure s
  | .envelope _ => .transportFailure none

end CredentialStatus

end FleetTelemetry
