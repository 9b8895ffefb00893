import FleetTelemetry.Time.Stamp

/-!
# Reading RFC 3339 timestamps

`YYYY-MM-DD?HH:MM:SS[.f+](Z|z|±HH:MM)`, where `?` is any one byte (`T`, `t`, a blank, ...). The
year has exactly four digits, the month and day are not `00`, the offset hour is at most 23, and
any number of fraction digits is accepted (the first nine count). A leap second `:60` stands for the last nanosecond of
`:59`, and is accepted only at 23:59:60 UTC on the last day of a month.

The complaint names the first component that could not be read, in reading order; the numeric
ranges are checked after the whole text was read: offset minute, then month and day, then hour,
minute and second.
-/

namespace FleetTelemetry.Time

inductive ReadFault where
  | component (name : String)
  | literal
  | trailing
  | range (name : String)
  deriving BEq, Repr

def ReadFault.message : ReadFault → String
  | .component n => "the '" ++ n ++ "' component could not be parsed"
  | .literal => "a character literal was not valid"
  | .trailing => "unexpected trailing characters; the end of input was expected"
  | .range n => n ++ " was not in range"

/-- Exactly `n` ASCII digits at index `i`: their value and the index after them. -/
def digitsAt (b : ByteArray) (i n : Nat) : Option (Nat × Nat) :=
  go i n 0
where
  go (j : Nat) : Nat → Nat → Option (Nat × Nat)
    | 0, acc => some (acc, j)
    | k + 1, acc =>
      match b[j]? with
      | some c => if 48 ≤ c && c ≤ 57 then go (j + 1) k (acc * 10 + (c - 48).toNat) else none
      | none => none

def byteAt (b : ByteArray) (i : Nat) (c : UInt8) : Option Nat :=
  match b[i]? with
  | some d => if d == c then some (i + 1) else none
  | none => none

/-- A run of fraction digits (at least one): nanoseconds (first nine digits) and the index
after the run. -/
def fractionAt (b : ByteArray) (i : Nat) : Option (Nat × Nat) :=
  match digitsAt b i 1 with
  | none => none
  | some (d, j) => some (go j (d * 100000000) 10000000 (b.size - j))
where
  go (j value mult : Nat) : Nat → Nat × Nat
    | 0 => (value, j)
    | fuel + 1 =>
      match digitsAt b j 1 with
      | some (d, k) => go k (value + d * mult) (mult / 10) fuel
      | none => (value, j)

def need (o : Option α) (f : ReadFault) : Except ReadFault α :=
  match o with
  | some a => .ok a
  | none => .error f

/-- Whether a reading in UTC is 23:59:59.999999999 on the last day of its month. -/
def isLeapSecondStandIn (s : Stamp) : Bool :=
  let r := (Stamp.mk s.utc 0).reading
  r.nanosecond == 999999999 && r.hour == 23 && r.minute == 59 && r.second == 59
    && r.day == daysInMonth r.year r.month

def parseRfc3339 (s : String) : Except ReadFault Stamp := do
  let b := s.toUTF8
  let (year, i) ← need (digitsAt b 0 4) (.component "year")
  let i ← need (byteAt b i 45) .literal
  let (month, i) ← need ((digitsAt b i 2).filter (·.1 ≠ 0)) (.component "month")
  let i ← need (byteAt b i 45) .literal
  let (day, i) ← need ((digitsAt b i 2).filter (·.1 ≠ 0)) (.component "day")
  let i ← if i < b.size then pure (i + 1) else .error (.component "separator")
  let (hour, i) ← need (digitsAt b i 2) (.component "hour")
  let i ← need (byteAt b i 58) .literal
  let (minute, i) ← need (digitsAt b i 2) (.component "minute")
  let i ← need (byteAt b i 58) .literal
  let (second, i) ← need (digitsAt b i 2) (.component "second")
  let (nanos, i) ← match byteAt b i 46 with
    | some j => need (fractionAt b j) (.component "subsecond")
    | none => pure (0, i)
  let (offset, i) ← match b[i]? with
    | some 90 | some 122 => pure ((0 : Int), i + 1)
    | some 43 | some 45 =>
      let negative := b[i]? == some 45
      let (oh, j) ← need (digitsAt b (i + 1) 2) (.component "offset hour")
      if oh > 23 then .error (.component "offset hour")
      let j ← need (byteAt b j 58) .literal
      let (om, j) ← need (digitsAt b j 2) (.component "offset minute")
      if om > 59 then .error (.range "offset minute")
      let magnitude : Int := oh * 3600 + om * 60
      pure (if negative then -magnitude else magnitude, j)
    | _ => .error (.component "offset hour")
  if i < b.size then .error .trailing
  let leap := second = 60
  let (second, nanos) := if leap then (59, 999999999) else (second, nanos)
  if month > 12 then .error (.range "month")
  let dim := daysInMonth year month
  if day > dim then .error (.range "day")
  if hour > 23 then .error (.range "hour")
  if minute > 59 then .error (.range "minute")
  if second > 59 then .error (.range "second")
  let stamp := Stamp.ofReading ⟨year, month, day, hour, minute, second, nanos⟩ offset
  if leap ∧ !isLeapSecondStandIn stamp then
    .error (.range "second")
  pure stamp

end FleetTelemetry.Time
