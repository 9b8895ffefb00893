import FleetTelemetry.Float.Bits

/-!
# Shortest decimal digits of a double

Every finite double owns the interval of reals that round to it. The shortest decimal of a
double is the decimal with the fewest significant digits inside that interval; of two such
decimals the one nearer to the double wins, and an exact tie goes to the even last digit.
The search is exact: for each candidate power of ten it asks whether a multiple of that power
lies in the interval, from the coarsest grid down, so the first grid with a hit has the
fewest digits.
-/

namespace FleetTelemetry.Binary64

/-- A decimal `digits · 10^exponent`; `digits` has no trailing zero unless it is zero. -/
structure Decimal where
  digits : Nat
  exponent : Int
  deriving Repr, BEq

/-- The decimal exponent of the leading digit of `v · 2^s` for `v > 0`. -/
def leadingExponent (v : Nat) (s : Int) : Int :=
  if 0 ≤ s then ((toString (v * Nat.pow 2 s.toNat)).length : Int) - 1
  else
    let t := (-s).toNat
    ((toString (v * Nat.pow 5 t)).length : Int) - 1 - t

/-- The scale `2^s / 10^k` as a numerator and a denominator. -/
def gridScale (s k : Int) : Nat × Nat :=
  let twoNum := if 0 ≤ s then Nat.pow 2 s.toNat else 1
  let twoDen := if 0 ≤ s then 1 else Nat.pow 2 (-s).toNat
  let tenNum := if 0 ≤ k then 1 else Nat.pow 10 (-k).toNat
  let tenDen := if 0 ≤ k then Nat.pow 10 k.toNat else 1
  (twoNum * tenNum, twoDen * tenDen)

def ceilDiv (a b : Nat) : Nat := (a + b - 1) / b

/-- The multiple of `10^k` nearest to `V · 2^s` among those in `[L · 2^s, H · 2^s]`, ends
included when `closed`; `none` if that grid has no point in the interval. -/
def gridHit (V L H : Nat) (s k : Int) (closed : Bool) : Option Nat :=
  let (a, b) := gridScale s k
  let lo : Int := if closed then ceilDiv (L * a) b else (L * a) / b + 1
  let hi : Int := if closed then (H * a) / b else (ceilDiv (H * a) b : Int) - 1
  if hi < lo then none
  else
    let t := V * a
    let f := t / b
    let r := t % b
    let inRange (c : Int) : Bool := lo ≤ c && c ≤ hi
    let down := inRange f
    let up := inRange (f + 1)
    if down && up then some (roundHalfEven f r b)
    else if down then some f
    else some (f + 1)

/-- Search from the coarsest grid `10^k` down, `fuel` grids at most. -/
def firstHit (V L H : Nat) (s : Int) (closed : Bool) : Nat → Int → Option Decimal
  | 0, _ => none
  | fuel + 1, k =>
    match gridHit V L H s k closed with
    | some c => some ⟨c, k⟩
    | none => firstHit V L H s closed fuel (k - 1)

def Decimal.normalize (d : Decimal) : Decimal :=
  go 30 d
where
  go : Nat → Decimal → Decimal
    | 0, d => d
    | fuel + 1, d =>
      if d.digits ≠ 0 ∧ d.digits % 10 = 0 then go fuel ⟨d.digits / 10, d.exponent + 1⟩ else d

/-- The shortest decimal of the magnitude `m · 2^q`; `tight` says that the gap below is half
the gap above. The interval is scaled by 4 so that its ends are integers. -/
def shortestOf (m : Nat) (q : Int) (tight : Bool) : Decimal :=
  if m = 0 then ⟨0, 0⟩
  else
    let s := q - 2
    let V := 4 * m
    let H := 4 * m + 2
    let L := if tight then 4 * m - 1 else 4 * m - 2
    let e := leadingExponent V s
    match firstHit V L H s (m % 2 = 0) 24 (e + 1) with
    | some d => d.normalize
    | none => ⟨m, 0⟩

/-- The shortest decimal of a finite double, with its sign; `none` for infinities and NaN. -/
def shortest (x : Float) : Option (Bool × Decimal) :=
  (Parts.ofBits x.toBits).map fun p => (p.negative, shortestOf p.significand p.exponent p.tightBelow)

end FleetTelemetry.Binary64
