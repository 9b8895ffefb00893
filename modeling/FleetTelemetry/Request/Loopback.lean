import FleetTelemetry.Request.Basic
import FleetTelemetry.Request.Mask
import FleetTelemetry.Http.Client

/-!
# Requests over the loopback network

`reqwest` sends one request with the HTTP client to a scripted server on the loopback address
and answers with the response (or the transport failure) and every request the server received.
`{server}` in the URL, bodies and locations stands for the server's base URL and `{closed}` for a
port where nothing listens.
-/

namespace FleetTelemetry.Request

/-- The port of the scripted server of a `reqwest` request. -/
def serverPort : Nat := 41001

def vendorPort : Nat := 41002

def sinkPort : Nat := 41003

def closedPort : Nat := 41004

def portNames : List (Nat × String) :=
  [(serverPort, "SERVER_PORT"), (vendorPort, "VENDOR_PORT"), (sinkPort, "SINK_PORT"),
   (closedPort, "CLOSED_PORT")]

def loopbackUrl (port : Nat) : String := "http://127.0.0.1:" ++ toString port

def fillIn (placeholders : List (String × String)) (s : String) : String :=
  placeholders.foldl (fun acc (k, v) => acc.replace k v) s

/-- A scripted reply: status (200), body (text or JSON), delay, truncation and location. -/
def replyOf (placeholders : List (String × String)) (v : Json) : Reply Http.Reply := do
  let status := (← statusCode? v "status").getD 200
  let body ← match field? v "json" with
    | some j => pure (Json.compact j)
    | none => strOr v "body" ""
  let delayMs ← natOr v "delay_ms" 3000 0
  let truncate ← boolOr v "truncate" false
  let location ← str? v "location"
  pure { status, body := fillIn placeholders body, delayMs, truncate,
         location := location.map (fillIn placeholders) }

def receivedJson (r : Http.Received) : Json :=
  answer [("method", .str r.method), ("path", .str r.path),
    ("query", .arr (r.query.map fun (k, v) => .arr [.str k, .str v])),
    ("headers", .obj (r.headers.map fun (k, v) => (k, .str v))), ("body", .str r.body)]

def outcomeJson : Http.Outcome → String × Json
  | .ok r => ("response", answer [("status", .ofNat r.status), ("body", .str r.body),
      ("is_success", .bool r.isSuccess)])
  | .error f => ("transport_error", answer [("kind", .str f.kind.name), ("message", .str f.message),
      ("display", .str f.message)])

def fillRequest (placeholders : List (String × String)) (r : Http.Request) : Http.Request :=
  { r with url := fillIn placeholders r.url, body := r.body.map (fillIn placeholders) }

def loopback (clock : Clock) (input : Json) : Reply Json := do
  let placeholders := [("\x7bserver\x7d", loopbackUrl serverPort), ("\x7bclosed\x7d", loopbackUrl closedPort)]
  let request ← httpRequestOf (← need input "request")
  let request := fillRequest placeholders request
  let replies ← eachOf (replyOf placeholders) (← arrOrEmpty input "server")
  let _ ← boolOr input "via_default" false
  let (outcome, net) := (Http.execute request).run ⟨[{ port := serverPort, pending := replies }]⟩
  let masking : Masking := { ports := portNames, now := clock.now }
  pure (masking.answer (answer [outcomeJson outcome,
    ("received", .arr ((net.receivedAt serverPort).map receivedJson))]))

end FleetTelemetry.Request
