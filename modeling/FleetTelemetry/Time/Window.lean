import FleetTelemetry.Time.Stamp

/-!
# Poll windows

A poll asks the vendor for the reports between a start and now. The start is the last
checkpoint when there is one, else now minus a look-back of whole hours; a checkpoint in the
future is pulled back to now, so a window never ends before it starts. The start keeps the
offset of whichever instant was picked.
-/

namespace FleetTelemetry.Time

structure Window where
  start : Stamp
  stop : Stamp

namespace Window

/-- The window ending now; stops the program when the look-back leaves the representable
years. -/
def compute (checkpoint : Option Stamp) (lookBackHours : Nat) (now : Stamp) : Except Halt Window := do
  let start ← match checkpoint with
    | some c => pure c
    | none => now.subHours lookBackHours
  pure ⟨start.min now, now⟩

def startWire (w : Window) : Except Halt String := w.start.wire

def display (w : Window) : Except Halt String := do
  let a ← w.start.wire
  let b ← w.stop.wire
  pure (a ++ " .. " ++ b)

end Window

end FleetTelemetry.Time
