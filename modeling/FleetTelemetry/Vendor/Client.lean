import FleetTelemetry.Vendor.Envelope
import FleetTelemetry.Http.Message
import FleetTelemetry.Record.Schema
import FleetTelemetry.Settings
import FleetTelemetry.Retry
import FleetTelemetry.Time.Window

/-!
# Asking the vendor

A request for a window names the schema's properties, the window start in the vendor's text and
the credentials, all as query parameters, with a two-minute timeout. An answer is read in three
steps: a transport failure is a transport fault; a status outside 2xx is a fault of its own
(403 means bad credentials, 404 a vendor error, any other a transport fault with the status);
a success status is read as an envelope. Throttled answers are retried as the client's retry
configuration allows; computing a wait between them can stop the program.

The client does not know how requests travel: it is given a `send` function in any monad, so the
same client runs against a scripted transport, a simulated server or a real one.
-/

namespace FleetTelemetry

def vendorTimeoutMs : Nat := 120000

structure VendorClient where
  baseUrl : String
  schema : FieldSchema := .basic
  retry : RetryConfig := .default
  timeoutMs : Nat := vendorTimeoutMs

namespace VendorClient

/-- The request for a window. Showing the window start in UTC can stop the program when that
leaves the representable years. -/
def buildRequest (c : VendorClient) (w : Time.Window) (creds : Credentials) : Except Halt Http.Request := do
  let start ← w.startWire
  pure ((Http.Request.new .get c.baseUrl)
    |>.withQuery "requestedPropertiesStr" c.schema.requestedProperties
    |>.withQuery "lastGMTUpdateTime" start
    |>.withQuery "userName" creds.username
    |>.withQuery "password" creds.password
    |>.withTimeoutMs c.timeoutMs)

def readOutcome : Http.Outcome → Except VendorFault FetchResult
  | .error f => .error (.transport none (f.kind.name ++ " error: " ++ f.message))
  | .ok r =>
    if r.isSuccess then Envelope.parse r.body
    else if r.status = 403 then .error (.authInvalid 403 "Unauthorized access")
    else if r.status = 404 then .error (.general 404 "Not found")
    else .error (.transport (some r.status) ("vendor returned status " ++ toString r.status))

/-- Sends a request, retrying throttled answers; `draws a` is the jitter drawn for the wait after
attempt `a`, whose computation can stop the program. -/
def fetch [Monad m] (c : VendorClient) (send : Http.Request → m Http.Outcome) (draws : Nat → Float)
    (request : Http.Request) : ExceptT Halt m (Except VendorFault FetchResult) :=
  c.retry.run draws (fun _ => readOutcome <$> send request) VendorFault.isRetryable

end VendorClient

end FleetTelemetry
