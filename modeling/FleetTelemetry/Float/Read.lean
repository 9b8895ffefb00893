import FleetTelemetry.Float.Bits

/-!
# Reading a decimal number as a double

The accepted texts: an optional sign, then `inf`, `infinity` or `nan` in any letter case, or
digits with at most one decimal point (digits on at least one side of it) and an optional
exponent `e`/`E` with an optional sign and at least one digit. Nothing else may be in the text.
The value is the double nearest to the decimal, ties to even; a decimal beyond the largest
double reads as infinity.
-/

namespace FleetTelemetry.Binary64

/-- Digits at the front of a list: their value, how many there were, and the rest. -/
def takeDigits : List Char → Nat → Nat → Nat × Nat × List Char
  | c :: cs, acc, n =>
    if c.isDigit then takeDigits cs (acc * 10 + (c.toNat - 48)) (n + 1) else (acc, n, c :: cs)
  | [], acc, n => (acc, n, [])

/-- An optional sign at the front: whether it is negative, and the rest. -/
def takeSign : List Char → Bool × List Char
  | '-' :: cs => (true, cs)
  | '+' :: cs => (false, cs)
  | cs => (false, cs)

/-- Whether two texts are equal ignoring ASCII letter case. -/
def equalsIgnoringCase (a b : List Char) : Bool :=
  a.length == b.length && (a.zip b).all fun (x, y) => x.toLower == y.toLower

/-- The double written by a decimal text, `none` when the text is not a number. -/
def readDecimal? (s : String) : Option Float :=
  let (negative, rest) := takeSign s.toList
  if equalsIgnoringCase rest "inf".toList || equalsIgnoringCase rest "infinity".toList then
    some (if negative then -(Float.ofBits infinityBits) else Float.ofBits infinityBits)
  else if equalsIgnoringCase rest "nan".toList then
    some (Float.ofBits 0x7FF8000000000000)
  else
    let (intPart, intLen, rest) := takeDigits rest 0 0
    let (fracPart, fracLen, rest) := match rest with
      | '.' :: cs => takeDigits cs 0 0
      | cs => (0, 0, cs)
    if intLen + fracLen = 0 then none
    else
      let expPart : Option Int := match rest with
        | [] => some 0
        | e :: cs =>
          if e = 'e' ∨ e = 'E' then
            let (eneg, cs) := takeSign cs
            let (ev, elen, cs) := takeDigits cs 0 0
            if elen = 0 ∨ !cs.isEmpty then none else some (if eneg then -(ev : Int) else ev)
          else none
      match expPart with
      | none => none
      | some e =>
        let digits := intPart * Nat.pow 10 fracLen + fracPart
        some (Float.ofBits (nearestOfDecimal negative digits (e - fracLen)))

end FleetTelemetry.Binary64
