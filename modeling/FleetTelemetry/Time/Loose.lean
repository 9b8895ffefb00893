import FleetTelemetry.Time.Pattern
import FleetTelemetry.Text.Blank

/-!
# Timestamps as the vendor writes them

The vendor writes instants as UTC readings `YYYY-MM-DD HH:MM:SS` (the wire layout), and device
times in several loose layouts without an offset. `localize` reads a device time at a given
offset: a reading without an offset is taken as wall-clock time at that offset, a timestamp
with its own offset is converted to it. Offsets given in whole hours are valid up to 25 hours
either way.
-/

namespace FleetTelemetry.Time

/-- `year-month-day hour:minute:second`, the vendor's layout. -/
def wirePattern : Pattern :=
  [.year, .sep '-', .month, .sep '-', .day, .sep ' ', .hour, .sep ':', .minute, .sep ':', .second]

/-- Layouts of device times without an offset, in the order they are tried. -/
def naivePatterns : List Pattern :=
  [ wirePattern,
    [.year, .sep '-', .month, .sep '-', .day, .sep ' ', .hour, .sep ':', .minute, .sep ':', .second,
      .sep '.', .fraction],
    [.year, .sep '-', .month, .sep '-', .day, .sep 'T', .hour, .sep ':', .minute, .sep ':', .second],
    [.year, .sep '-', .month, .sep '-', .day, .sep 'T', .hour, .sep ':', .minute, .sep ':', .second,
      .sep '.', .fraction],
    [.year, .sep '/', .month, .sep '/', .day, .sep ' ', .hour, .sep ':', .minute, .sep ':', .second],
    [.month, .sep '/', .day, .sep '/', .year, .sep ' ', .hour, .sep ':', .minute, .sep ':', .second],
    [.year, .sep '-', .month, .sep '-', .day, .sep ' ', .hour, .sep ':', .minute] ]

/-- Layouts of device times with an offset, tried after RFC 3339. -/
def awarePatterns : List Pattern :=
  [ [.year, .sep '-', .month, .sep '-', .day, .sep ' ', .hour, .sep ':', .minute, .sep ':', .second,
      .offsetHour, .sep ':', .offsetMinute] ]

def firstReading (ps : List Pattern) (s : String) : Option Reading :=
  ps.findSome? (fun p => Pattern.readLocal p s)

/-- The offset of a whole number of hours, if it is at most 25 hours either way. -/
def hoursOffset (h : Int) : Option Int :=
  if h.natAbs ≤ 25 then some (h * 3600) else none

/-- Reads a device time and shows it at `offset` (seconds east of UTC); `none` when no layout
reads it. Converting a timestamp with its own offset can leave the representable years. -/
def localize (input : String) (offset : Int) : Except Halt (Option Stamp) :=
  let trimmed := Text.trim input
  if trimmed.isEmpty then .ok none
  else
    match firstReading naivePatterns trimmed with
    | some r => .ok (some (Stamp.ofReading r offset))
    | none =>
      let aware := match parseRfc3339 trimmed with
        | .ok s => some s
        | .error _ => awarePatterns.findSome? (fun p => Pattern.readStamp p trimmed)
      match aware with
      | some s => some <$> s.toOffset offset
      | none => .ok none

/-- Reads the vendor's UTC text (blanks around it ignored). -/
def parseWire (input : String) : Option Stamp :=
  (wirePattern.readLocal (Text.trim input)).map (Stamp.ofReading · utcOffset)

end FleetTelemetry.Time
