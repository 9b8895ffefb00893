import FleetTelemetry.Time.Calendar
import FleetTelemetry.Word
import FleetTelemetry.Halt
import FleetTelemetry.Duration

/-!
# Instants shown at an offset

A `Stamp` is an instant (nanoseconds since 1970-01-01T00:00:00 UTC) together with the offset from
UTC it is shown at. Its wall-clock reading at that offset must fall in the years -9999 to 9999;
operations that would leave that range either have no result (`addDuration?`) or stop the
program (`toOffset`, `subHours`). Two stamps compare by their instants alone.
-/

namespace FleetTelemetry.Time

def nanosPerSecond : Int := 1000000000

def nanosPerDay : Int := 86400 * nanosPerSecond

/-- A wall-clock reading: calendar date and time of day. -/
structure Reading where
  year : Int
  month : Nat
  day : Nat
  hour : Nat
  minute : Nat
  second : Nat
  nanosecond : Nat
  deriving BEq, Repr

structure Stamp where
  utc : Int
  offset : Int
  deriving BEq, Repr

def utcOffset : Int := 0

/-- Nanoseconds since the epoch of a reading taken as UTC. -/
def Reading.nanos (r : Reading) : Int :=
  daysFromCivil r.year r.month r.day * nanosPerDay
    + ((r.hour * 3600 + r.minute * 60 + r.second : Nat) : Int) * nanosPerSecond + r.nanosecond

/-- The reading of a count of nanoseconds since the epoch. -/
def Reading.ofNanos (n : Int) : Reading :=
  let days := n / nanosPerDay
  let rest := (n - days * nanosPerDay).toNat
  let (y, m, d) := civilFromDays days
  let secs := rest / 1000000000
  ⟨y, m, d, secs / 3600, secs % 3600 / 60, secs % 60, rest % 1000000000⟩

def Stamp.reading (s : Stamp) : Reading := Reading.ofNanos (s.utc + s.offset * nanosPerSecond)

def Stamp.ofReading (r : Reading) (offset : Int) : Stamp :=
  ⟨r.nanos - offset * nanosPerSecond, offset⟩

/-- Whether the reading of a stamp lies in the years -9999 to 9999. -/
def Stamp.inRange (s : Stamp) : Bool :=
  let y := s.reading.year
  decide (-9999 ≤ y) && decide (y ≤ 9999)

/-- The same instant shown at another offset; stops the program when the reading there leaves
the representable years. -/
def Stamp.toOffset (s : Stamp) (offset : Int) : Except Halt Stamp :=
  let t : Stamp := ⟨s.utc, offset⟩
  if t.inRange then .ok t else .error ⟨"local datetime out of valid range"⟩

def Stamp.toUtc (s : Stamp) : Except Halt Stamp := s.toOffset utcOffset

/-- A later stamp, `none` when the result leaves the representable years. -/
def Stamp.addNanos? (s : Stamp) (n : Int) : Option Stamp :=
  let t : Stamp := ⟨s.utc + n, s.offset⟩
  if t.inRange then some t else none

/-- A stamp a duration later; `none` when that is beyond the representable years or the whole
seconds of the duration do not fit a signed 64-bit count. -/
def Stamp.addDuration? (s : Stamp) (d : Duration) : Option Stamp :=
  if d.secs ≤ Word.i64Max.toNat then s.addNanos? d.nanos else none

/-- A stamp some hours earlier; stops the program when that leaves the representable years. -/
def Stamp.subHours (s : Stamp) (hours : Nat) : Except Halt Stamp :=
  match s.addNanos? (-(hours * 3600 * nanosPerSecond : Int)) with
  | some t => .ok t
  | none => .error ⟨"resulting value is out of range"⟩

instance : LT Stamp := ⟨fun a b => a.utc < b.utc⟩

instance (a b : Stamp) : Decidable (a < b) := inferInstanceAs (Decidable (a.utc < b.utc))

/-- The earlier of two stamps; the first when both are the same instant. -/
def Stamp.min (a b : Stamp) : Stamp := if b < a then b else a

def Stamp.sameInstant (a b : Stamp) : Bool := a.utc == b.utc

/-! ### Text -/

def padNat (width n : Nat) : String :=
  let s := toString n
  String.ofList (List.replicate (width - s.length) '0') ++ s

/-- A year with four digits, a minus sign before negative years. -/
def yearText (y : Int) : String :=
  if y < 0 then "-" ++ padNat 4 y.natAbs else padNat 4 y.toNat

def Reading.dateText (r : Reading) : String :=
  yearText r.year ++ "-" ++ padNat 2 r.month ++ "-" ++ padNat 2 r.day

def Reading.clockText (r : Reading) : String :=
  padNat 2 r.hour ++ ":" ++ padNat 2 r.minute ++ ":" ++ padNat 2 r.second

def offsetText (offset : Int) : String :=
  let a := offset.natAbs
  (if offset < 0 then "-" else "+") ++ padNat 2 (a / 3600) ++ ":" ++ padNat 2 (a % 3600 / 60)

/-- ISO 8601 text at the stamp's own offset: `YYYY-MM-DDTHH:MM:SS±HH:MM`, with six fraction
digits (truncated) before the offset when the nanoseconds are not zero. -/
def Stamp.iso (s : Stamp) : String :=
  let r := s.reading
  let frac := if r.nanosecond = 0 then "" else "." ++ padNat 6 (r.nanosecond / 1000)
  r.dateText ++ "T" ++ r.clockText ++ frac ++ offsetText s.offset

/-- The vendor's text of an instant: its UTC reading as `YYYY-MM-DD HH:MM:SS`. -/
def Stamp.wire (s : Stamp) : Except Halt String := do
  let u ← s.toUtc
  let r := u.reading
  pure (r.dateText ++ " " ++ r.clockText)

/-- The fraction digits of nanoseconds without trailing zeros. -/
def fractionDigits (nanos : Nat) : String :=
  let s := padNat 9 nanos
  String.ofList (s.toList.reverse.dropWhile (· = '0')).reverse

/-- RFC 3339 text: `Z` for UTC, the shortest exact fraction. Fails for years outside 0 to 9999,
offsets of 24 hours or more, and offsets with seconds, naming the component. -/
def Stamp.rfc3339 (s : Stamp) : Except String String :=
  let r := s.reading
  if r.year < 0 ∨ r.year > 9999 then .error "year"
  else if s.offset.natAbs / 3600 > 23 then .error "offset_hour"
  else if s.offset.natAbs % 60 ≠ 0 then .error "offset_second"
  else
    let frac := if r.nanosecond = 0 then "" else "." ++ fractionDigits r.nanosecond
    let off := if s.offset = 0 then "Z" else offsetText s.offset
    .ok (r.dateText ++ "T" ++ r.clockText ++ frac ++ off)

/-- The complaint when RFC 3339 text cannot be written. -/
def formatComplaint (component : String) : String :=
  "The " ++ component ++ " component cannot be formatted into the requested format."

end FleetTelemetry.Time
