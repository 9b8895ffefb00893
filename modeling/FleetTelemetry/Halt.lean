/-!
# Stopping with a message

Some operations have no answer for some inputs and stop the whole program instead, with a fixed
message: converting a date that leaves the representable years, and turning a count of seconds
that no duration holds into a duration. Such an operation returns `Except Halt α`.
-/

namespace FleetTelemetry

structure Halt where
  message : String
  deriving BEq, DecidableEq, Repr

end FleetTelemetry
