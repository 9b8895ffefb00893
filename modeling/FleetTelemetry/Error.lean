/-!
# What can go wrong

Every failure of the library is one of five families: a setting out of range (`Invalid`), an
answer of the vendor that is an error or cannot be read (`VendorFault`), a record of the wrong
width (`DecodeFault`), a failing state or checkpoint store (`StoreFault`) and a failing sink
(`SinkFault`). A poll cycle can fail with any of them (`PollFault`). Each family has the text
an operator reads, and vendor faults also carry a code and the vendor's own message.
-/

namespace FleetTelemetry

def authInvalidCode : Int := 1000

def rateLimitedCode : Int := 1101

inductive Invalid where
  | emptyIntegrationId
  | emptyUsername
  | emptyPassword
  | lookBackOutOfRange (value : Int)
  | gmtOffsetOutOfRange (value : Int)
  | zeroBatchSize
  | zeroRetryAttempts
  deriving BEq, Repr

def Invalid.message : Invalid → String
  | .emptyIntegrationId => "integration id cannot be empty"
  | .emptyUsername => "username cannot be empty"
  | .emptyPassword => "password cannot be empty"
  | .lookBackOutOfRange v => "look_back_window_hours must be within 1..=24, got " ++ toString v
  | .gmtOffsetOutOfRange v => "gmt_offset must be within -12..=12, got " ++ toString v
  | .zeroBatchSize => "batch size must be greater than zero"
  | .zeroRetryAttempts => "retry attempts must be greater than zero"

def Invalid.variant : Invalid → String
  | .emptyIntegrationId => "EmptyIntegrationId"
  | .emptyUsername => "EmptyUsername"
  | .emptyPassword => "EmptyPassword"
  | .lookBackOutOfRange _ => "LookBackOutOfRange"
  | .gmtOffsetOutOfRange _ => "GmtOffsetOutOfRange"
  | .zeroBatchSize => "ZeroBatchSize"
  | .zeroRetryAttempts => "ZeroRetryAttempts"

inductive VendorFault where
  | authInvalid (code : Int) (message : String)
  /-- The vendor asked to slow down; the only fault worth another attempt. -/
  | rateLimited (code : Int) (message : String)
  | general (code : Int) (message : String)
  | transport (status : Option Nat) (message : String)
  | envelope (message : String)
  deriving BEq, Repr

def VendorFault.display : VendorFault → String
  | .authInvalid c m => "invalid credentials (" ++ toString c ++ "): " ++ m
  | .rateLimited c m => "rate limited (" ++ toString c ++ "): " ++ m
  | .general c m => "vendor error (" ++ toString c ++ "): " ++ m
  | .transport none m => "transport failure: " ++ m
  | .transport (some s) m => "transport failure (status " ++ toString s ++ "): " ++ m
  | .envelope m => "malformed vendor envelope: " ++ m

/-- The vendor's result code, or the HTTP status of a transport fault. -/
def VendorFault.code : VendorFault → Option Int
  | .authInvalid c _ | .rateLimited c _ | .general c _ => some c
  | .transport s _ => s.map Int.ofNat
  | .envelope _ => none

def VendorFault.message : VendorFault → String
  | .authInvalid _ m | .rateLimited _ m | .general _ m | .transport _ m | .envelope m => m

/-- Whether another attempt may succeed: only when the vendor throttled. -/
def VendorFault.isRetryable : VendorFault → Bool
  | .rateLimited _ _ => true
  | _ => false

def VendorFault.variant : VendorFault → String
  | .authInvalid _ _ => "AuthInvalid"
  | .rateLimited _ _ => "RateLimited"
  | .general _ _ => "General"
  | .transport _ _ => "Transport"
  | .envelope _ => "Envelope"

structure DecodeFault where
  schema : String
  expected : Nat
  actual : Nat
  deriving BEq, Repr

def DecodeFault.message (e : DecodeFault) : String :=
  "record has " ++ toString e.actual ++ " fields but schema '" ++ e.schema ++ "' expects "
    ++ toString e.expected

inductive StoreFault where
  | backend (message : String)
  | io (message : String)
  | serialization (message : String)
  deriving BEq, Repr

def StoreFault.message : StoreFault → String
  | .backend m => "store backend error: " ++ m
  | .io m => "store io error: " ++ m
  | .serialization m => "store serialization error: " ++ m

def StoreFault.variant : StoreFault → String
  | .backend _ => "Backend"
  | .io _ => "Io"
  | .serialization _ => "Serialization"

inductive SinkFault where
  | transport (message : String)
  | rejected (status : Nat) (body : String)
  | invalidResponse (message : String)
  | io (message : String)
  | serialization (message : String)
  deriving BEq, Repr

def SinkFault.message : SinkFault → String
  | .transport m => "sink transport failure: " ++ m
  | .rejected s b => "sink rejected batch with status " ++ toString s ++ ": " ++ b
  | .invalidResponse m => "sink returned an unreadable response: " ++ m
  | .io m => "sink io error: " ++ m
  | .serialization m => "sink serialization error: " ++ m

def SinkFault.variant : SinkFault → String
  | .transport _ => "Transport"
  | .rejected _ _ => "Rejected"
  | .invalidResponse _ => "InvalidResponse"
  | .io _ => "Io"
  | .serialization _ => "Serialization"

/-- Why a poll cycle failed; the checkpoint is never advanced when one of these is returned. -/
inductive PollFault where
  | invalid (e : Invalid)
  | vendor (e : VendorFault)
  | decode (e : DecodeFault)
  | store (e : StoreFault)
  | sink (e : SinkFault)
  deriving BEq, Repr

/-- The text of a cycle failure: that of the fault inside. -/
def PollFault.message : PollFault → String
  | .invalid e => e.message
  | .vendor e => e.display
  | .decode e => e.message
  | .store e => e.message
  | .sink e => e.message

end FleetTelemetry
