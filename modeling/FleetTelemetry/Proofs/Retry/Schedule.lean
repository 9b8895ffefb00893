import FleetTelemetry.Retry

/-!
# The attempts and waits of a retry loop

One round of the loop makes an attempt and, on an error worth retrying with budget left, waits
and goes on with the next attempt (`retryFrom_succ_ok`, `retryFrom_succ_retry`,
`retryFrom_succ_stop`). Observed from outside, against an operation whose `i`-th call answers
`outcomes i`, a whole run is then fixed by the outcomes and the budget: it makes `k` calls, `k`
the first outcome that ends the loop (a success, or an error not worth retrying) counted from
one, but at most the budget; the calls get the attempt numbers `0` to `k - 1` in order, the run
answers the `k`-th outcome as it came, and between two calls it waits once, after attempt `i`
the delay for `i` (`RetryConfig.runSleeping_schedule`).
-/

namespace FleetTelemetry

/-! ### One round of the loop -/

section Step

variable {σ ε α : Type} {op : Nat → ExceptT Halt (StateM σ) (Except ε α)} {retry : ε → Bool}
  {pause : Nat → ExceptT Halt (StateM σ) Unit} {attempt spare : Nat} {s s' : σ}

theorem retryFrom_succ_ok {a : α} (h : (op attempt).run.run s = (.ok (.ok a), s')) :
    (retryFrom op retry pause attempt (spare + 1)).run.run s = (.ok (.ok a), s') := by
  simp only [retryFrom, ExceptT.run_bind, StateT.run_bind, h]
  rfl

theorem retryFrom_succ_attempt_halt {x : Halt} (h : (op attempt).run.run s = (.error x, s')) :
    (retryFrom op retry pause attempt (spare + 1)).run.run s = (.error x, s') := by
  simp only [retryFrom, ExceptT.run_bind, StateT.run_bind, h]
  rfl

theorem retryFrom_succ_retried {e : ε} (h : (op attempt).run.run s = (.ok (.error e), s'))
    (he : retry e = true) :
    (retryFrom op retry pause attempt (spare + 1)).run.run s =
      (pause attempt >>= fun _ => retryFrom op retry pause (attempt + 1) spare).run.run s' := by
  simp only [retryFrom, ExceptT.run_bind, StateT.run_bind, h]
  change (if retry e = true then pause attempt >>= fun _ => retryFrom op retry pause (attempt + 1) spare
    else pure (.error e)).run.run s' = _
  rw [if_pos he]
  rfl

theorem retryFrom_succ_retry {e : ε} {s'' : σ} (h : (op attempt).run.run s = (.ok (.error e), s'))
    (he : retry e = true) (hp : (pause attempt).run.run s' = (.ok (), s'')) :
    (retryFrom op retry pause attempt (spare + 1)).run.run s =
      (retryFrom op retry pause (attempt + 1) spare).run.run s'' := by
  rw [retryFrom_succ_retried h he, ExceptT.run_bind, StateT.run_bind, hp]
  rfl

theorem retryFrom_succ_halt {e : ε} {x : Halt} {s'' : σ} (h : (op attempt).run.run s = (.ok (.error e), s'))
    (he : retry e = true) (hp : (pause attempt).run.run s' = (.error x, s'')) :
    (retryFrom op retry pause attempt (spare + 1)).run.run s = (.error x, s'') := by
  rw [retryFrom_succ_retried h he, ExceptT.run_bind, StateT.run_bind, hp]
  rfl

/-- A wait that sleeps for no time only computes its delay, and stops where that stops. -/
theorem idleWait_run_error {r : Except Halt Duration} {x : Halt} (h : r = .error x) (s : σ) :
    (ExceptT.mk (pure r) >>= fun _ => ExceptT.lift (pure ()) : ExceptT Halt (StateM σ) Unit).run.run s =
      (.error x, s) := by
  subst h
  rfl

theorem idleWait_run_ok {r : Except Halt Duration} {d : Duration} (h : r = .ok d) (s : σ) :
    (ExceptT.mk (pure r) >>= fun _ => ExceptT.lift (pure ()) : ExceptT Halt (StateM σ) Unit).run.run s =
      (.ok (), s) := by
  subst h
  rfl

theorem retryFrom_succ_stop {e : ε} (h : (op attempt).run.run s = (.ok (.error e), s')) (he : retry e = false) :
    (retryFrom op retry pause attempt (spare + 1)).run.run s = (.ok (.error e), s') := by
  simp only [retryFrom, ExceptT.run_bind, StateT.run_bind, h]
  change (if retry e = true then pause attempt >>= fun _ => retryFrom op retry pause (attempt + 1) spare
    else pure (.error e)).run.run s' = _
  rw [he]
  rfl

end Step

/-! ### How many attempts a run makes -/

section Count

variable {ε α : Type} (shouldRetry : ε → Bool) (outcomes : Nat → Except ε α)

/-- Whether an outcome sends the loop to another attempt, budget allowing: an error worth
retrying. -/
def isRetried : Except ε α → Bool
  | .ok _ => false
  | .error e => shouldRetry e

/-- How many attempts the loop makes from attempt `first` with `spare` more allowed, when attempt
`i` answers `outcomes i`: up to the first outcome that is not retried, within the budget. -/
def attemptsFrom (first spare : Nat) : Nat :=
  min (spare + 1) ((((List.range' first (spare + 1)).map outcomes).takeWhile (isRetried shouldRetry)).length + 1)

variable {shouldRetry outcomes}

theorem attemptsFrom_zero (first : Nat) : attemptsFrom shouldRetry outcomes first 0 = 1 := by
  simp only [attemptsFrom]
  omega

theorem attemptsFrom_of_stop {first : Nat} (h : isRetried shouldRetry (outcomes first) = false)
    (spare : Nat) : attemptsFrom shouldRetry outcomes first (spare + 1) = 1 := by
  simp only [attemptsFrom, List.range'_succ, List.map_cons, List.takeWhile_cons, h]
  simp

theorem attemptsFrom_of_retried {first : Nat} (h : isRetried shouldRetry (outcomes first) = true)
    (spare : Nat) :
    attemptsFrom shouldRetry outcomes first (spare + 1) = attemptsFrom shouldRetry outcomes (first + 1) spare + 1 := by
  simp only [attemptsFrom, List.range'_succ (n := spare + 1), List.map_cons, List.takeWhile_cons, h,
    if_true, List.length_cons]
  omega

/-- The count is the least `k` up to the budget such that attempt `k - 1` is not retried: every
attempt before it is, and it either ends the loop or spends the budget. -/
theorem attemptsFrom_spec : ∀ (spare first : Nat),
    1 ≤ attemptsFrom shouldRetry outcomes first spare ∧ attemptsFrom shouldRetry outcomes first spare ≤ spare + 1 ∧
      (∀ i, i + 1 < attemptsFrom shouldRetry outcomes first spare → isRetried shouldRetry (outcomes (first + i)) = true) ∧
      (attemptsFrom shouldRetry outcomes first spare = spare + 1 ∨
        isRetried shouldRetry (outcomes (first + attemptsFrom shouldRetry outcomes first spare - 1)) = false)
  | 0, first => by
    rw [attemptsFrom_zero]
    exact ⟨Nat.le_refl 1, Nat.le_refl 1, fun i hi => absurd hi (by omega), .inl rfl⟩
  | spare + 1, first => by
    cases hfirst : isRetried shouldRetry (outcomes first) with
    | false =>
      rw [attemptsFrom_of_stop hfirst]
      exact ⟨Nat.le_refl 1, by omega, fun i hi => absurd hi (by omega), .inr (by simpa using hfirst)⟩
    | true =>
      obtain ⟨hlo, hhi, hbefore, hlast⟩ := attemptsFrom_spec spare (first + 1)
      rw [attemptsFrom_of_retried hfirst]
      refine ⟨by omega, by omega, fun i hi => ?_, ?_⟩
      · cases i with
        | zero => simpa using hfirst
        | succ i =>
          have h := hbefore i (by omega)
          rwa [Nat.add_assoc, Nat.add_comm 1 i] at h
      · rcases hlast with hk | hk
        · exact .inl (by omega)
        · right
          have hidx : first + (attemptsFrom shouldRetry outcomes (first + 1) spare + 1) - 1 =
              first + 1 + attemptsFrom shouldRetry outcomes (first + 1) spare - 1 := by omega
          rw [hidx]
          exact hk

end Count

/-! ### Runs against scripted outcomes -/

inductive RetryEvent where
  | attempt (n : Nat)
  | wait (d : Duration)
  deriving DecidableEq, Repr

/-- A run seen from outside: how many calls were made, and what happened in order. -/
structure RetryLog where
  calls : Nat := 0
  events : List RetryEvent := []

namespace RetryLog

/-- The operation whose `i`-th call (from 0) answers `outcomes i`. -/
def call {ε α : Type} (outcomes : Nat → Except ε α) (n : Nat) : StateM RetryLog (Except ε α) :=
  modifyGet fun l => (outcomes l.calls, { calls := l.calls + 1, events := l.events ++ [.attempt n] })

def wait (d : Duration) : StateM RetryLog Unit :=
  modify fun l => { l with events := l.events ++ [.wait d] }

end RetryLog

/-- Attempts `first` to `first + k - 1` in order, with the wait after each of them but the last. -/
def attemptSchedule (delay : Nat → Duration) (first k : Nat) : List RetryEvent :=
  ((List.range' first k).flatMap fun i => [.attempt i, .wait (delay i)]).dropLast

theorem attemptSchedule_one (delay : Nat → Duration) (first : Nat) :
    attemptSchedule delay first 1 = [.attempt first] := rfl

theorem attemptSchedule_succ (delay : Nat → Duration) (first : Nat) {k : Nat} (hk : 0 < k) :
    attemptSchedule delay first (k + 1) =
      .attempt first :: .wait (delay first) :: attemptSchedule delay (first + 1) k := by
  obtain ⟨j, rfl⟩ : ∃ j, k = j + 1 := ⟨k - 1, by omega⟩
  simp only [attemptSchedule, List.range'_succ (n := j + 1), List.flatMap_cons, List.cons_append,
    List.nil_append]
  -- the tail holds at least one attempt, so dropping the last event leaves the head alone
  rw [List.dropLast_cons_of_ne_nil, List.dropLast_cons_of_ne_nil] <;>
    simp [List.range'_succ]

example : attemptSchedule (fun _ => .zero) 0 3 =
    [.attempt 0, .wait .zero, .attempt 1, .wait .zero, .attempt 2] := by decide

/-! ### Waits that stop the program -/

section Halts

/-- The stop computing the wait after attempt `i` made, if it made one. -/
def haltOf (i : Nat) : Except Halt Duration → Option (Nat × Halt)
  | .ok _ => none
  | .error h => some (i, h)

/-- The first of the attempts `first` to `first + n - 1` whose wait cannot be computed, with the
stop it makes. -/
def firstHalt (delay : Nat → Except Halt Duration) (first n : Nat) : Option (Nat × Halt) :=
  (List.range' first n).findSome? fun i => haltOf i (delay i)

/-- The wait a computed delay holds; zero where computing it stopped the program. -/
def waitOf (r : Except Halt Duration) : Duration := r.toOption.getD .zero

variable {delay : Nat → Except Halt Duration} {first n : Nat}

theorem firstHalt_zero (delay : Nat → Except Halt Duration) (first : Nat) : firstHalt delay first 0 = none := rfl

theorem firstHalt_succ_ok {d : Duration} (h : delay first = .ok d) :
    firstHalt delay first (n + 1) = firstHalt delay (first + 1) n := by
  simp only [firstHalt, List.range'_succ, List.findSome?_cons, h, haltOf]

theorem firstHalt_succ_error {x : Halt} (h : delay first = .error x) :
    firstHalt delay first (n + 1) = some (first, x) := by
  simp only [firstHalt, List.range'_succ, List.findSome?_cons, h, haltOf]

theorem firstHalt_ge {j : Nat} {x : Halt} (h : firstHalt delay first n = some (j, x)) : first ≤ j := by
  obtain ⟨i, hi, hx⟩ := List.exists_of_findSome?_eq_some h
  rw [List.mem_range'_1] at hi
  cases hd : delay i with
  | ok d => simp [hd, haltOf] at hx
  | error y =>
    simp only [hd, haltOf, Option.some.injEq, Prod.mk.injEq] at hx
    omega

/-- Sixty-four attempts with a backoff from four seconds doubling up to the longest duration: the
delay after attempt 62 is 2^64 seconds, the first that has no duration. -/
theorem firstHalt_doubling_to_maximum :
    firstHalt (fun i => RetryConfig.delayForAttempt ⟨64, .exponential (.ofSecs 4) 2.0 .maximum .zero⟩ 0.0 i)
      0 63 =
      some (62, Duration.secondsOutOfRange) := by
  set_option maxRecDepth 100000 in decide +kernel

end Halts

section Log

variable {ε α : Type} (shouldRetry : ε → Bool) (outcomes : Nat → Except ε α)
  (delay : Nat → Except Halt Duration)

/-- A run from attempt `first`, after `first` calls, with `spare` more attempts allowed. It makes
the calls `attemptsFrom` counts, each with its attempt number and followed by its wait but the
last, and answers the last outcome; unless computing one of those waits stops it, which it does
at the first such wait, right after that wait's attempt. The induction follows the spare
attempts. -/
theorem retryFrom_log : ∀ (spare first : Nat) (l : RetryLog), l.calls = first →
    (retryFrom (fun a => ExceptT.lift (RetryLog.call outcomes a)) shouldRetry
        (fun a => ExceptT.mk (pure (delay a)) >>= fun d => ExceptT.lift (RetryLog.wait d)) first spare).run.run l =
      (firstHalt delay first (attemptsFrom shouldRetry outcomes first spare - 1)).elim
        (.ok (outcomes (first + attemptsFrom shouldRetry outcomes first spare - 1)),
          { calls := first + attemptsFrom shouldRetry outcomes first spare,
            events := l.events ++
              attemptSchedule (fun i => waitOf (delay i)) first (attemptsFrom shouldRetry outcomes first spare) })
        (fun jx => (.error jx.2,
          { calls := jx.1 + 1,
            events := l.events ++ attemptSchedule (fun i => waitOf (delay i)) first (jx.1 + 1 - first) }))
  | 0, first, l, hl => by
    rw [attemptsFrom_zero, attemptSchedule_one, Nat.add_sub_cancel, ← hl]
    rfl
  | spare + 1, first, l, hl => by
    have hcall : (ExceptT.lift (RetryLog.call outcomes first) : ExceptT Halt (StateM RetryLog) _).run.run l =
        (.ok (outcomes first), { calls := first + 1, events := l.events ++ [.attempt first] }) := by
      rw [← hl]
      rfl
    cases hout : outcomes first with
    | ok a =>
      rw [hout] at hcall
      rw [retryFrom_succ_ok hcall, attemptsFrom_of_stop (by simp [hout, isRetried]), attemptSchedule_one,
        Nat.add_sub_cancel, hout]
      rfl
    | error e =>
      rw [hout] at hcall
      cases he : shouldRetry e with
      | false =>
        rw [retryFrom_succ_stop hcall he, attemptsFrom_of_stop (by simp [hout, isRetried, he]),
          attemptSchedule_one, Nat.add_sub_cancel, hout]
        rfl
      | true =>
        have hretried : isRetried shouldRetry (outcomes first) = true := by simp [hout, isRetried, he]
        have hpos : 1 ≤ attemptsFrom shouldRetry outcomes (first + 1) spare :=
          (attemptsFrom_spec spare (first + 1)).1
        obtain ⟨k, hk⟩ : ∃ k, attemptsFrom shouldRetry outcomes (first + 1) spare = k + 1 :=
          ⟨_, (Nat.succ_pred_eq_of_pos hpos).symm⟩
        rw [attemptsFrom_of_retried hretried, hk, Nat.add_sub_cancel]
        cases hd : delay first with
        | error x =>
          have hpause : (ExceptT.mk (pure (delay first)) >>= fun d => ExceptT.lift (RetryLog.wait d) :
              ExceptT Halt (StateM RetryLog) Unit).run.run
                { calls := first + 1, events := l.events ++ [.attempt first] } =
              (.error x, { calls := first + 1, events := l.events ++ [.attempt first] }) := by
            rw [hd]
            rfl
          rw [retryFrom_succ_halt hcall he hpause, firstHalt_succ_error hd]
          simp only [Option.elim, Nat.add_sub_cancel_left, attemptSchedule_one]
        | ok d =>
          have hpause : (ExceptT.mk (pure (delay first)) >>= fun d => ExceptT.lift (RetryLog.wait d) :
              ExceptT Halt (StateM RetryLog) Unit).run.run
                { calls := first + 1, events := l.events ++ [.attempt first] } =
              (.ok (), { calls := first + 1, events := l.events ++ [.attempt first] ++ [.wait d] }) := by
            rw [hd]
            rfl
          have hwait : waitOf (delay first) = d := by rw [hd]; rfl
          have ih := retryFrom_log spare (first + 1)
            { calls := first + 1, events := l.events ++ [.attempt first] ++ [.wait d] } rfl
          rw [hk, Nat.add_sub_cancel] at ih
          rw [retryFrom_succ_retry hcall he hpause, ih, firstHalt_succ_ok hd]
          cases hh : firstHalt delay (first + 1) k with
          | none =>
            have hcount : first + (k + 1 + 1) = first + 1 + (k + 1) := by omega
            simp only [Option.elim, hcount, attemptSchedule_succ _ first (Nat.succ_pos k), hwait,
              List.append_assoc, List.cons_append, List.nil_append]
          | some jx =>
            obtain ⟨j, x⟩ := jx
            have hj := firstHalt_ge hh
            have hlen : j + 1 - first = j + 1 - (first + 1) + 1 := by omega
            simp only [Option.elim, hlen, attemptSchedule_succ _ first (show 0 < j + 1 - (first + 1) by omega),
              hwait, List.append_assoc, List.cons_append, List.nil_append]

end Log

/-- A run of the retry loop over any outcomes, with any budget, predicate and jitter. Let `k` be
the least count up to the budget (at least one attempt) whose last outcome is not retried: every
outcome before the `k`-th is. When the waits after the first `k - 1` attempts can all be
computed, the run makes `k` calls with the attempt numbers `0` to `k - 1` in order, waits once
between two calls (after attempt `i` the delay for `i`, with the jitter drawn for it) and answers
the `k`-th outcome as it came. Otherwise the first of those waits that cannot be computed stops
the program, right after its attempt. -/
theorem RetryConfig.runSleeping_schedule {ε α : Type} (c : RetryConfig) (draws : Nat → Float)
    (shouldRetry : ε → Bool) (outcomes : Nat → Except ε α) :
    let k := attemptsFrom shouldRetry outcomes 0 (max c.maxAttempts 1 - 1)
    let delay := fun i => c.delayForAttempt (draws i) i
    (1 ≤ k ∧ k ≤ max c.maxAttempts 1 ∧ (∀ i, i + 1 < k → isRetried shouldRetry (outcomes i) = true) ∧
      (k = max c.maxAttempts 1 ∨ isRetried shouldRetry (outcomes (k - 1)) = false)) ∧
    (c.runSleeping RetryLog.wait draws (RetryLog.call outcomes) shouldRetry).run.run {} =
      (firstHalt delay 0 (k - 1)).elim
        (.ok (outcomes (k - 1)), { calls := k, events := attemptSchedule (fun i => waitOf (delay i)) 0 k })
        (fun jx => (.error jx.2, { calls := jx.1 + 1, events := attemptSchedule (fun i => waitOf (delay i)) 0 (jx.1 + 1) })) := by
  intro k delay
  have hbudget : max c.maxAttempts 1 - 1 + 1 = max c.maxAttempts 1 := by omega
  obtain ⟨hlo, hhi, hbefore, hlast⟩ : 1 ≤ k ∧ k ≤ max c.maxAttempts 1 - 1 + 1 ∧
      (∀ i, i + 1 < k → isRetried shouldRetry (outcomes (0 + i)) = true) ∧
      (k = max c.maxAttempts 1 - 1 + 1 ∨ isRetried shouldRetry (outcomes (0 + k - 1)) = false) :=
    attemptsFrom_spec _ 0
  refine ⟨⟨hlo, by omega, fun i hi => by simpa using hbefore i hi, ?_⟩, ?_⟩
  · rcases hlast with h | h
    · exact .inl (by omega)
    · exact .inr (by simpa using h)
  · have hrun := retryFrom_log shouldRetry outcomes delay (max c.maxAttempts 1 - 1) 0 {} rfl
    simp only [Nat.zero_add, List.nil_append, Nat.sub_zero] at hrun
    exact hrun

/-- That configuration against an operation that always fails worth retrying:
the program stops after 63 attempts, when the wait after attempt 62 is computed. -/
theorem runSleeping_halts_doubling_to_maximum :
    let r := (RetryConfig.runSleeping ⟨64, .exponential (.ofSecs 4) 2.0 .maximum .zero⟩ RetryLog.wait
      (fun _ => 0.0) (RetryLog.call fun _ => (.error () : Except Unit Unit)) (fun _ => true)).run.run {}
    r.1 = .error Duration.secondsOutOfRange ∧ r.2.calls = 63 := by
  intro r
  have hrun := retryFrom_log (fun _ : Unit => true) (fun _ => (.error () : Except Unit Unit))
    (fun i => RetryConfig.delayForAttempt ⟨64, .exponential (.ofSecs 4) 2.0 .maximum .zero⟩ 0.0 i) 63 0 {} rfl
  have hk : attemptsFrom (fun _ : Unit => true) (fun _ => (.error () : Except Unit Unit)) 0 63 = 63 + 1 := by
    decide
  rw [hk, Nat.add_sub_cancel, firstHalt_doubling_to_maximum] at hrun
  rw [show r = _ from hrun]
  exact ⟨rfl, rfl⟩

end FleetTelemetry
