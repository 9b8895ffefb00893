import FleetTelemetry.Sink.Batch
import FleetTelemetry.Record.Observation
import FleetTelemetry.Http.Message
import FleetTelemetry.Json.Read
import FleetTelemetry.Json.Print
import FleetTelemetry.Error
import FleetTelemetry.Text.Blank

/-!
# Delivering observations

A sink takes a batch of observations and answers with the values it accepted. The HTTP sink
posts the batch as one JSON array (members of each observation in their fixed order) and reads
the answer: a transport failure, a status outside 2xx, or a body that is neither blank nor a JSON
array is a sink fault; a blank body means every observation was accepted as sent. The JSON-lines
sink writes each observation as one line (members sorted by key) and accepts them all.
-/

namespace FleetTelemetry

structure Sink (m : Type → Type) where
  send : List Observation → m (Except SinkFault (List Json))

def sinkTimeoutMs : Nat := 30000

structure HttpSink where
  url : String
  auth : Http.Auth := .none
  timeoutMs : Nat := sinkTimeoutMs

namespace HttpSink

def request (s : HttpSink) (os : List Observation) : Http.Request :=
  (Http.Request.new .post s.url)
    |>.withHeader "content-type" "application/json"
    |>.withAuth s.auth
    |>.withBody (Json.compact (.arr (os.map Observation.toJson)))
    |>.withTimeoutMs s.timeoutMs

def readOutcome (os : List Observation) : Http.Outcome → Except SinkFault (List Json)
  | .error f => .error (.transport f.message)
  | .ok r =>
    if !r.isSuccess then .error (.rejected r.status r.body)
    else if Text.isBlankText r.body then .ok (os.map Observation.toValue)
    else
      match Json.parse r.body with
      | .ok (.arr accepted) => .ok accepted
      | .ok other => .error (.invalidResponse ("expected a JSON array, got " ++ Json.compact other))
      | .error e => .error (.invalidResponse e.message)

def sink [Monad m] (s : HttpSink) (send : Http.Request → m Http.Outcome) : Sink m :=
  ⟨fun os => readOutcome os <$> send (s.request os)⟩

end HttpSink

def jsonLines (os : List Observation) : String :=
  String.join (os.map fun o => Json.compact o.toValue ++ "\n")

def jsonLinesSink [Monad m] [MonadStateOf String m] : Sink m :=
  ⟨fun os => do
    modify (· ++ jsonLines os)
    pure (.ok (os.map Observation.toValue))⟩

end FleetTelemetry
