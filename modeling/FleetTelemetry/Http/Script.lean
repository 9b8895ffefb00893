import FleetTelemetry.Http.Message

/-!
# Scripted transports

A scripted transport answers requests from a list of prepared outcomes, in order, and records
every request it was given. When the list runs out it fails with `no scripted response left`.
It stands in for a network whose answers are known in advance.
-/

namespace FleetTelemetry.Http

def exhausted : Failure := ⟨.other, "no scripted response left"⟩

structure Script where
  pending : List Outcome
  sent : List Request := []

namespace Script

def ofOutcomes (os : List Outcome) : Script := { pending := os }

def send (r : Request) : StateM Script Outcome :=
  modifyGet fun s =>
    match s.pending with
    | o :: rest => (o, { pending := rest, sent := s.sent ++ [r] })
    | [] => (.error exhausted, { s with sent := s.sent ++ [r] })

end Script

end FleetTelemetry.Http
