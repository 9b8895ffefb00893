import FleetTelemetry.Float.Bits
import FleetTelemetry.Halt

/-!
# Durations

A duration is a span of time in nanoseconds, below 2^64 seconds: whole seconds that fit in 64
bits and a fraction of a second. Seconds counted in a double become a duration rounded to the
nearest nanosecond, ties to even. A negative count, 2^64 seconds or more, an infinity or a NaN
has no duration, and the program stops there.
-/

namespace FleetTelemetry

def nanosPerSec : Nat := 1000000000

/-- Two to the 64th: the whole seconds a duration stays below. -/
def secondsLimit : Nat := 18446744073709551616

/-- A span of time in nanoseconds, shorter than `secondsLimit` seconds. -/
@[ext] structure Duration where
  nanos : Nat
  nanos_lt : nanos < secondsLimit * nanosPerSec
  deriving DecidableEq, Repr

namespace Duration

def zero : Duration := ⟨0, by decide⟩

/-- The longest duration: the last nanosecond before `secondsLimit` seconds. -/
def maximum : Duration := ⟨secondsLimit * nanosPerSec - 1, by decide⟩

theorem toNat_mul_lt (n : UInt64) : n.toNat * nanosPerSec < secondsLimit * nanosPerSec := by
  have h := n.toNat_lt
  simp only [secondsLimit, nanosPerSec] at h ⊢
  omega

def ofSecs (s : UInt64) : Duration := ⟨s.toNat * nanosPerSec, toNat_mul_lt s⟩

def ofNanos (n : UInt64) : Duration :=
  ⟨n.toNat, Nat.lt_of_le_of_lt (Nat.le_mul_of_pos_right _ (by decide)) (toNat_mul_lt n)⟩

def secs (d : Duration) : Nat := d.nanos / nanosPerSec

def subsecNanos (d : Duration) : Nat := d.nanos % nanosPerSec

theorem secs_lt (d : Duration) : d.secs < secondsLimit := by
  have h := d.nanos_lt
  simp only [secs, secondsLimit, nanosPerSec] at h ⊢
  omega

/-- The seconds as a double: the whole seconds plus the fraction, each rounded to a double. -/
def asSecsF64 (d : Duration) : Float :=
  Binary64.ofNat d.secs + Binary64.ofNat d.subsecNanos / Binary64.ofNat nanosPerSec

/-- The nanoseconds nearest to the seconds a finite double counts, ties to the even count; the
sign is not read. -/
def nanosOfParts (p : Binary64.Parts) : Nat :=
  if 0 ≤ p.exponent then p.significand * Nat.pow 2 p.exponent.toNat * nanosPerSec
  else
    let d := Nat.pow 2 (-p.exponent).toNat
    let n := p.significand * nanosPerSec
    Binary64.roundHalfEven (n / d) (n % d) d

def negativeSeconds : Halt := ⟨"cannot convert float seconds to Duration: value is negative"⟩

def secondsOutOfRange : Halt :=
  ⟨"cannot convert float seconds to Duration: value is either too big or NaN"⟩

/-- The duration nearest to a count of seconds; a negative zero counts as zero. -/
def ofSecsF64 (x : Float) : Except Halt Duration :=
  if x < 0.0 then .error negativeSeconds
  else
    match Binary64.Parts.ofBits x.toBits with
    | none => .error secondsOutOfRange
    | some p =>
      if h : nanosOfParts p < secondsLimit * nanosPerSec then .ok ⟨nanosOfParts p, h⟩
      else .error secondsOutOfRange

/-- The conversion succeeds exactly on a finite count that is not negative and whose nearest
nanoseconds stay below the limit, and then gives those nanoseconds. -/
theorem ofSecsF64_eq_ok_iff {x : Float} {d : Duration} :
    ofSecsF64 x = .ok d ↔
      ¬ x < 0.0 ∧ ∃ p, Binary64.Parts.ofBits x.toBits = some p ∧ d.nanos = nanosOfParts p := by
  unfold ofSecsF64
  by_cases hneg : x < 0.0
  · simp [hneg]
  cases hp : Binary64.Parts.ofBits x.toBits with
  | none => simp [hneg]
  | some p =>
    by_cases hlt : nanosOfParts p < secondsLimit * nanosPerSec
    · simp [hneg, hlt, Duration.ext_iff, eq_comm]
    · simp only [hneg, hlt, if_false, dite_false, reduceCtorEq, not_false_eq_true, Option.some.injEq,
        exists_eq_left', true_and, false_iff]
      intro h
      exact hlt (h ▸ d.nanos_lt)

end Duration

end FleetTelemetry
