import FleetTelemetry.Float.Shortest

/-!
# Writing a double as text

The digits come from `shortest`; a `Layout` decides where they go. Two layouts are used:
`Layout.json`, the number text of JSON documents (positional for leading exponents from -5
to 15, otherwise `d.ddde±x`, integral values keep `.0`), and `Layout.plain`, which is always
positional and never adds `.0`.
-/

namespace FleetTelemetry.Binary64

structure Layout where
  positionalMin : Int
  positionalMax : Int
  plusSign : Bool
  /-- An integral value written positionally ends in `.0`. -/
  pointZero : Bool

def Layout.json : Layout := ⟨-5, 15, true, true⟩

/-- Positional text for every magnitude, without a forced fraction. -/
def Layout.plain : Layout := ⟨-100000, 100000, false, false⟩

def zeros (n : Nat) : String := String.ofList (List.replicate n '0')

/-- The digits `ds` (no sign) with `kk` of them before the decimal point. -/
def positional (ds : String) (kk : Int) (pointZero : Bool) : String :=
  let n : Int := ds.length
  if n ≤ kk then
    ds ++ zeros (kk - n).toNat ++ (if pointZero then ".0" else "")
  else if 0 < kk then
    String.ofList (ds.toList.take kk.toNat) ++ "." ++ String.ofList (ds.toList.drop kk.toNat)
  else
    "0." ++ zeros (-kk).toNat ++ ds

def Layout.render (l : Layout) (d : Decimal) : String :=
  if d.digits = 0 then (if l.pointZero then "0.0" else "0")
  else
    let ds := toString d.digits
    let kk : Int := d.exponent + ds.length
    let lead := kk - 1
    if l.positionalMin ≤ lead ∧ lead ≤ l.positionalMax then positional ds kk l.pointZero
    else
      let rest := String.ofList ds.toList.tail
      let mant := String.ofList [ds.toList.headD '0'] ++ (if rest.isEmpty then "" else "." ++ rest)
      let sign := if lead < 0 then "-" else if l.plusSign then "+" else ""
      mant ++ "e" ++ sign ++ toString lead.natAbs

/-- A double written by a layout; infinities and NaN as `inf`, `-inf` and `NaN`. -/
def Layout.format (l : Layout) (x : Float) : String :=
  match shortest x with
  | some (neg, d) => (if neg then "-" else "") ++ l.render d
  | none =>
    if fractionField x.toBits ≠ 0 then "NaN" else if signBit x.toBits then "-inf" else "inf"

def jsonText (x : Float) : String := Layout.json.format x

def plainText (x : Float) : String := Layout.plain.format x

/-- Positional text that always shows a decimal point, for messages about a value's kind. -/
def pointedText (x : Float) : String :=
  let t := plainText x
  if isFinite x && !t.contains '.' then t ++ ".0" else t

end FleetTelemetry.Binary64
