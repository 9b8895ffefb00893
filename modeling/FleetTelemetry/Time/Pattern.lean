import FleetTelemetry.Time.Rfc3339

/-!
# Timestamp layouts

A `Pattern` is a fixed layout of date and time components and separator characters, such as
`year-month-day hour:minute:second`. Reading by a pattern must consume the whole text. A year is
four digits with an optional sign; every other number has exactly two digits; the fraction is
one or more digits (the first nine count); an offset reaches up to 25:59 either way. Minutes,
seconds and the fraction default to zero when the layout has none; the offset components exist
only in layouts that carry an offset.
-/

namespace FleetTelemetry.Time

inductive Piece where
  | year | month | day | hour | minute | second | fraction
  | offsetHour
  | offsetMinute
  | sep (c : Char)
  deriving BEq, Repr

abbrev Pattern := List Piece

structure Found where
  year : Option Int := none
  month : Option Nat := none
  day : Option Nat := none
  hour : Option Nat := none
  minute : Option Nat := none
  second : Option Nat := none
  nanos : Option Nat := none
  offset : Option Int := none
  negativeOffset : Bool := false
  deriving Repr

/-- Reads the pieces of a layout from index `i`; `none` when a piece does not match. -/
def readPieces (b : ByteArray) : Pattern → Nat → Found → Option (Found × Nat)
  | [], i, f => some (f, i)
  | p :: ps, i, f =>
    match p with
    | .sep c =>
      match byteAt b i c.toNat.toUInt8 with
      | some j => readPieces b ps j f
      | none => none
    | .year =>
      let (neg, i') := match b[i]? with
        | some 45 => (true, i + 1)
        | some 43 => (false, i + 1)
        | _ => (false, i)
      match digitsAt b i' 4 with
      | some (y, j) => readPieces b ps j { f with year := some (if neg then -(y : Int) else y) }
      | none => none
    | .month =>
      match digitsAt b i 2 with
      | some (m, j) => if 1 ≤ m ∧ m ≤ 12 then readPieces b ps j { f with month := some m } else none
      | none => none
    | .day =>
      match digitsAt b i 2 with
      | some (d, j) => if 1 ≤ d ∧ d ≤ 31 then readPieces b ps j { f with day := some d } else none
      | none => none
    | .hour =>
      match digitsAt b i 2 with
      | some (h, j) => if h ≤ 23 then readPieces b ps j { f with hour := some h } else none
      | none => none
    | .minute =>
      match digitsAt b i 2 with
      | some (m, j) => if m ≤ 59 then readPieces b ps j { f with minute := some m } else none
      | none => none
    | .second =>
      match digitsAt b i 2 with
      | some (s, j) => if s ≤ 59 then readPieces b ps j { f with second := some s } else none
      | none => none
    | .fraction =>
      match fractionAt b i with
      | some (n, j) => readPieces b ps j { f with nanos := some n }
      | none => none
    | .offsetHour =>
      let neg? := match b[i]? with
        | some 45 => some true
        | some 43 => some false
        | _ => none
      match neg? with
      | some neg =>
        match digitsAt b (i + 1) 2 with
        | some (h, j) =>
          if h ≤ 25 then
            readPieces b ps j { f with offset := some (if neg then -(h * 3600 : Int) else h * 3600),
                                       negativeOffset := neg }
          else none
        | none => none
      | none => none
    | .offsetMinute =>
      match digitsAt b i 2 with
      | some (m, j) =>
        if m ≤ 59 then
          let base := f.offset.getD 0
          let signed : Int := if f.negativeOffset then -(m * 60 : Int) else m * 60
          readPieces b ps j { f with offset := some (base + signed) }
        else none
      | none => none

/-- The wall-clock reading of found components: a valid date and an hour are required. -/
def Found.reading? (f : Found) : Option Reading := do
  let y ← f.year
  let m ← f.month
  let d ← f.day
  let h ← f.hour
  if isValidDate y m d then
    some ⟨y, m, d, h, f.minute.getD 0, f.second.getD 0, f.nanos.getD 0⟩
  else none

def Pattern.readLocal (p : Pattern) (s : String) : Option Reading := do
  let b := s.toUTF8
  let (f, i) ← readPieces b p 0 {}
  if i = b.size then f.reading? else none

def Pattern.readStamp (p : Pattern) (s : String) : Option Stamp := do
  let b := s.toUTF8
  let (f, i) ← readPieces b p 0 {}
  if i = b.size then
    let r ← f.reading?
    let o ← f.offset
    some (Stamp.ofReading r o)
  else none

end FleetTelemetry.Time
