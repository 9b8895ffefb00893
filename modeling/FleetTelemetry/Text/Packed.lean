/-!
# Packed character tables

Large character tables are written as text: records separated by blanks, the fields of a record
separated by commas, each field a hexadecimal number with an optional leading `-`. Reading a
table gives its records as lists of integers, in the order written; a table whose records are
ordered by a key is searched by halving.
-/

namespace FleetTelemetry.Text

def hexDigitValue? (c : Char) : Option Nat :=
  if '0' ≤ c ∧ c ≤ '9' then some (c.toNat - 48)
  else if 'a' ≤ c ∧ c ≤ 'f' then some (c.toNat - 87)
  else if 'A' ≤ c ∧ c ≤ 'F' then some (c.toNat - 55)
  else none

/-- The value of hexadecimal digits; `none` unless there is a digit and all are digits. -/
def hexNumber? (cs : List Char) : Option Nat :=
  if cs.isEmpty then none
  else cs.foldl (fun acc d => acc.bind fun a => (hexDigitValue? d).map (a * 16 + ·)) (some 0)

/-- A field of a packed table: hexadecimal digits after an optional `-`. -/
def readField? (s : String) : Option Int :=
  match s.toList with
  | '-' :: ds => (hexNumber? ds).map fun n => -(n : Int)
  | ds => (hexNumber? ds).map fun n => (n : Int)

/-- The records of a packed table written over several lines; a field that is not a number is
left out of its record. -/
def readRecords (lines : List String) : List (List Int) :=
  lines.flatMap fun line =>
    ((line.splitOn " ").filter (!·.isEmpty)).map fun record =>
      (record.splitOn ",").filterMap readField?

/-- The field at a place of a record as a natural number, 0 when missing or negative. -/
def field (record : List Int) (i : Nat) : Nat := (record.getD i 0).toNat

/-- The position of the last key at most `x` in ascending keys, if one is. The search keeps
the keys before `lo` at most `x` and those from `hi` on above it, and halves the part between;
fuel of the number of keys and one more is enough. -/
def lastAtMost (keys : Array Nat) (x : Nat) : Option Nat :=
  go (keys.size + 1) 0 keys.size
where
  go : Nat → Nat → Nat → Option Nat
  | 0, lo, _ => if lo = 0 then none else some (lo - 1)
  | fuel + 1, lo, hi =>
    if lo < hi then
      let mid := (lo + hi) / 2
      if keys.getD mid 0 ≤ x then go fuel (mid + 1) hi else go fuel lo mid
    else if lo = 0 then none
    else some (lo - 1)

def findKey? (keys : Array Nat) (x : Nat) : Option Nat :=
  (lastAtMost keys x).bind fun i => if keys.getD i 0 = x then some i else none

/-- A set of code points as ascending disjoint ranges: their first and last points. -/
structure RangeSet where
  firsts : Array Nat
  lasts : Array Nat

/-- The ranges of a packed table of records `first,last`, in ascending order. -/
def RangeSet.read (lines : List String) : RangeSet :=
  let records := readRecords lines
  ⟨(records.map (field · 0)).toArray, (records.map (field · 1)).toArray⟩

def RangeSet.contains (s : RangeSet) (c : Nat) : Bool :=
  match lastAtMost s.firsts c with
  | some i => c ≤ s.lasts.getD i 0
  | none => false

end FleetTelemetry.Text
