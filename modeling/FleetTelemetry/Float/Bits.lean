import FleetTelemetry.Word

/-!
# Binary64 values as integers

A finite double is `(-1)^sign · significand · 2^exponent`. This module splits the bits of a
`Float` into those three parts and builds the bits of the double nearest to a rational
number, ties to the even significand. Everything here is exact `Nat` arithmetic, so the
reading of a decimal text does not depend on the platform's conversion routines.
-/

namespace FleetTelemetry.Binary64

structure Parts where
  negative : Bool
  significand : Nat
  exponent : Int
  /-- The gap to the next smaller double is half the gap to the next larger one: the
  significand is a power of two at the bottom of a normal binade. -/
  tightBelow : Bool
  deriving Repr

def exponentField (b : UInt64) : Nat := ((b >>> 52) &&& 0x7FF).toNat

def fractionField (b : UInt64) : Nat := (b &&& 0xFFFFFFFFFFFFF).toNat

def signBit (b : UInt64) : Bool := (b >>> 63) == 1

/-- Splits finite bits into their parts; `none` for an infinity or NaN. -/
def Parts.ofBits (b : UInt64) : Option Parts :=
  let e := exponentField b
  let f := fractionField b
  if e = 0x7FF then none
  else if e = 0 then some ⟨signBit b, f, -1074, false⟩
  else some ⟨signBit b, f + Nat.pow 2 52, (e : Int) - 1075, f = 0 ∧ e > 1⟩

def isFinite (x : Float) : Bool := exponentField x.toBits != 0x7FF

def infinityBits : UInt64 := 0x7FF0000000000000

def assemble (negative : Bool) (biased fraction : Nat) : UInt64 :=
  let magnitude := (UInt64.ofNat biased <<< 52) ||| UInt64.ofNat fraction
  if negative then magnitude ||| 0x8000000000000000 else magnitude

def bitLength (n : Nat) : Nat := if n = 0 then 0 else n.log2 + 1

/-- `num / den` divided by `2^e`, as a quotient and a remainder over the scaled divisor. -/
def scaledDiv (num den : Nat) (e : Int) : Nat × Nat × Nat :=
  if 0 ≤ e then
    let d := den * Nat.pow 2 e.toNat
    (num / d, num % d, d)
  else
    let n := num * Nat.pow 2 (-e).toNat
    (n / den, n % den, den)

/-- Rounds `q + r/d` to an integer, a half going to the even neighbour. -/
def roundHalfEven (q r d : Nat) : Nat :=
  if 2 * r < d then q
  else if 2 * r > d then q + 1
  else if q % 2 = 0 then q else q + 1

/-- The bits of the double nearest to `num / den` (`den > 0`), ties to even; values beyond
the largest finite double give infinity. -/
def nearestOfRatio (negative : Bool) (num den : Nat) : UInt64 :=
  if num = 0 then assemble negative 0 0
  else
    -- first guess of the exponent that leaves 53 significant bits
    let e0 : Int := (bitLength num : Int) - (bitLength den : Int) - 53
    let (q0, _, _) := scaledDiv num den e0
    let e1 : Int := if q0 ≥ Nat.pow 2 53 then e0 + 1 else if q0 < Nat.pow 2 52 then e0 - 1 else e0
    let e : Int := if e1 < -1074 then -1074 else e1
    let (q, r, d) := scaledDiv num den e
    let q' := roundHalfEven q r d
    let (sig, ex) := if q' = Nat.pow 2 53 then (Nat.pow 2 52, e + 1) else (q', e)
    if ex > 971 then infinityBits ||| (if negative then 0x8000000000000000 else 0)
    else if sig < Nat.pow 2 52 then assemble negative 0 sig
    else assemble negative (ex + 1075).toNat (sig - Nat.pow 2 52)

/-- The double nearest to `digits · 10^exp10`, ties to even. Far beyond the range of
doubles the answer is decided from the length of the digits alone. -/
def nearestOfDecimal (negative : Bool) (digits : Nat) (exp10 : Int) : UInt64 :=
  let len : Int := (toString digits).length
  if digits = 0 then assemble negative 0 0
  else if len + exp10 > 310 then infinityBits ||| (if negative then 0x8000000000000000 else 0)
  else if len + exp10 < -330 then assemble negative 0 0
  else if 0 ≤ exp10 then nearestOfRatio negative (digits * Nat.pow 10 exp10.toNat) 1
  else nearestOfRatio negative digits (Nat.pow 10 (-exp10).toNat)

def ofNat (n : Nat) : Float := Float.ofBits (nearestOfRatio false n 1)

def powTen (k : Nat) : Float := Float.ofBits (nearestOfDecimal false 1 k)

end FleetTelemetry.Binary64
