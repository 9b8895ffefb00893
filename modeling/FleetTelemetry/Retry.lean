import FleetTelemetry.Duration
import FleetTelemetry.Error

/-!
# Retrying

An operation that fails with a transient error is tried again, up to a number of attempts (at
least one). Between attempts the caller waits a backoff: a fixed delay, or an exponential one,
`base · factor^attempt` seconds capped at `max`, with random jitter added before the cap. The
exponential delay is computed in seconds as a double and turned into a duration; where that
count reaches 2^64 seconds (a cap at the longest duration lets it) the program stops.

The loop is written over any monad with the wait as an action of its own (`runSleeping`), so a
run can be observed attempt by attempt and wait by wait; it runs in `ExceptT Halt`, since
computing a wait can stop the program. Where waiting has no observable effect the wait does
nothing (`run`). The jitter drawn for the wait after attempt `a` is `draws a`.
-/

namespace FleetTelemetry

/-- `x^n` by repeated squaring, multiplying in the order of the bits of `n` from the lowest. -/
def powBySquaring (x : Float) (n : Nat) : Float :=
  go x n 1.0 32
where
  go (a : Float) (b : Nat) (r : Float) : Nat → Float
    | 0 => r
    | fuel + 1 =>
      let r := if b % 2 = 1 then r * a else r
      if b / 2 = 0 then r else go (a * a) (b / 2) r fuel

def floatMin (x y : Float) : Float := if x.isNaN then y else if y.isNaN then x else if y < x then y else x

def floatMax (x y : Float) : Float := if x.isNaN then y else if y.isNaN then x else if x < y then y else x

inductive Backoff where
  | fixed (delay : Duration)
  /-- `base · factor^attempt`, plus jitter, capped at `max`. -/
  | exponential (base : Duration) (factor : Float) (max : Duration) (jitter : Duration)

namespace Backoff

/-- Four seconds, doubling, capped at 32 seconds, with up to five seconds of jitter. -/
def default : Backoff := .exponential (.ofSecs 4) 2.0 (.ofSecs 32) (.ofSecs 5)

def maxExponent : Nat := Word.i32Max.toNat

/-- The delay before attempt `attempt + 1`, for a jitter draw `draw` in `[0, 1)`. -/
def delayWith (b : Backoff) (draw : Float) (attempt : Nat) : Except Halt Duration :=
  match b with
  | .fixed d => .ok d
  | .exponential base factor max jitter =>
    let seconds := base.asSecsF64 * powBySquaring factor (Nat.min attempt maxExponent)
    let capped := floatMin (seconds + jitter.asSecsF64 * draw) max.asSecsF64
    Duration.ofSecsF64 (floatMax capped 0.0)

/-- The delay with the smallest jitter draw: exact whenever the jitter is zero or the cap is
reached anyway. -/
def delay (b : Backoff) (attempt : Nat) : Except Halt Duration := b.delayWith 0.0 attempt

end Backoff

structure RetryConfig where
  maxAttempts : Nat
  backoff : Backoff

namespace RetryConfig

def default : RetryConfig := ⟨6, .default⟩

def new (maxAttempts : Nat) (backoff : Backoff) : Except Invalid RetryConfig :=
  if maxAttempts = 0 then .error .zeroRetryAttempts else .ok ⟨maxAttempts, backoff⟩

def fixed (delay : Duration) (maxAttempts : Nat) : RetryConfig := ⟨Nat.max maxAttempts 1, .fixed delay⟩

def noRetry : RetryConfig := fixed .zero 1

end RetryConfig

/-- Runs attempts from `attempt` on, with `spare` more attempts allowed after this one;
`pause a` is the wait after the failed attempt `a`, before the next one. -/
def retryFrom [Monad m] (op : Nat → m (Except ε α)) (shouldRetry : ε → Bool) (pause : Nat → m Unit)
    (attempt : Nat) : Nat → m (Except ε α)
  | 0 => op attempt
  | spare + 1 => do
    match ← op attempt with
    | .ok a => pure (.ok a)
    | .error e =>
      if shouldRetry e then do
        pause attempt
        retryFrom op shouldRetry pause (attempt + 1) spare
      else pure (.error e)

/-- The wait after the failed attempt `attempt`, for the jitter `draw` drawn for it. -/
def RetryConfig.delayForAttempt (c : RetryConfig) (draw : Float) (attempt : Nat) : Except Halt Duration :=
  c.backoff.delayWith draw attempt

/-- Runs an operation (given the 0-based attempt number) until it succeeds, fails with an
error not worth retrying, or the attempts run out; the last outcome is the result. After a
failed attempt `a` that is tried again, the delay for `a` is computed, which can stop the
program, and `sleep` waits it. -/
def RetryConfig.runSleeping [Monad m] (c : RetryConfig) (sleep : Duration → m Unit) (draws : Nat → Float)
    (op : Nat → m (Except ε α)) (shouldRetry : ε → Bool) : ExceptT Halt m (Except ε α) :=
  retryFrom (fun a => ExceptT.lift (op a)) shouldRetry
    (fun a => ExceptT.mk (pure (c.delayForAttempt (draws a) a)) >>= fun d => ExceptT.lift (sleep d))
    0 (Nat.max c.maxAttempts 1 - 1)

def RetryConfig.run [Monad m] (c : RetryConfig) (draws : Nat → Float) (op : Nat → m (Except ε α))
    (shouldRetry : ε → Bool) : ExceptT Halt m (Except ε α) :=
  c.runSleeping (fun _ => pure ()) draws op shouldRetry

end FleetTelemetry
