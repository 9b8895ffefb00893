import FleetTelemetry.Vendor.Client
import FleetTelemetry.Http.Script
import FleetTelemetry.Proofs.Retry.Schedule

/-!
# How often the vendor is asked

A fetch asks the vendor again only when the answer was a success status whose body the
envelope reader turns into a throttling fault (`Http.Outcome.throttled`): no other status and no
transport failure is retried (`readOutcome_retryable_iff`). Against a scripted transport the
number of requests is therefore fixed by the script's leading throttled answers and by the
attempt budget: with `m` attempts allowed and `t` throttled answers first, a fetch sends
`min (max m 1) (t + 1)` requests and answers what the last of them got (`fetch_attempts`). When
the budget runs out first, that is the last throttling fault. Computing a wait between two
requests can stop the program instead, at the first wait that has no duration.
-/

namespace FleetTelemetry

def fetchThrottled : Except VendorFault FetchResult → Bool
  | .error (.rateLimited _ _) => true
  | _ => false

def Http.Outcome.throttled : Http.Outcome → Bool
  | .ok r => r.isSuccess && fetchThrottled (Envelope.parse r.body)
  | .error _ => false

def Http.leadingThrottled (os : List Http.Outcome) : Nat := (os.takeWhile Http.Outcome.throttled).length

theorem Http.leadingThrottled_cons_of_throttled {o : Http.Outcome} (os : List Http.Outcome)
    (h : o.throttled = true) : Http.leadingThrottled (o :: os) = Http.leadingThrottled os + 1 := by
  simp [Http.leadingThrottled, h]

theorem Http.leadingThrottled_cons_of_not_throttled {o : Http.Outcome} (os : List Http.Outcome)
    (h : o.throttled = false) : Http.leadingThrottled (o :: os) = 0 := by
  simp [Http.leadingThrottled, h]

theorem Http.Script.send_run (r : Http.Request) (s : Http.Script) :
    (Http.Script.send r).run s =
      (s.pending.headD (.error Http.exhausted), { pending := s.pending.tail, sent := s.sent ++ [r] }) := by
  rcases s with ⟨_ | ⟨o, rest⟩, sent⟩ <;> rfl

namespace VendorClient

/-- Only a throttled answer gives a fault worth another attempt: a transport failure, a status
outside 2xx and a readable or otherwise failing body never do. -/
theorem readOutcome_retryable_iff (o : Http.Outcome) :
    (∃ e, readOutcome o = .error e ∧ e.isRetryable = true) ↔ o.throttled = true := by
  rcases o with f | r
  · simp [readOutcome, Http.Outcome.throttled, VendorFault.isRetryable]
  · by_cases hs : r.isSuccess = true
    · cases hp : Envelope.parse r.body with
      | ok a => simp [readOutcome, Http.Outcome.throttled, hs, hp, fetchThrottled]
      | error e =>
        cases e <;> simp [readOutcome, Http.Outcome.throttled, hs, hp, fetchThrottled,
          VendorFault.isRetryable]
    · have hs' : r.isSuccess = false := by simpa using hs
      simp only [readOutcome, Http.Outcome.throttled, hs', Bool.false_and, Bool.false_eq_true,
        iff_false, if_false]
      -- the three faults of a status outside 2xx
      by_cases h403 : r.status = 403
      · simp [h403, VendorFault.isRetryable]
      · by_cases h404 : r.status = 404 <;> simp [h403, h404, VendorFault.isRetryable]

theorem readOutcome_stops {o : Http.Outcome} (h : o.throttled = false) {e : VendorFault}
    (he : readOutcome o = .error e) : e.isRetryable = false := by
  cases hr : e.isRetryable
  · rfl
  · have := (readOutcome_retryable_iff o).mp ⟨e, he, hr⟩
    rw [h] at this
    exact absurd this Bool.false_ne_true

theorem attempt_run (request : Http.Request) (s : Http.Script) :
    (ExceptT.lift (readOutcome <$> Http.Script.send request) : ExceptT Halt (StateM Http.Script) _).run.run s =
      (.ok (readOutcome (s.pending.headD (.error Http.exhausted))),
        { pending := s.pending.tail, sent := s.sent ++ [request] }) := by
  rcases s with ⟨_ | ⟨o, rest⟩, sent⟩ <;> rfl

/-- The retry loop against a script, with `spare` attempts left after the first: the number of
requests is the smaller of the attempts allowed and one more than the leading throttled
answers, and the result is what the last request got; unless computing the wait after one of
those requests but the last stops the program, which it does at the first such wait. -/
theorem retryFrom_script (request : Http.Request) (delay : Nat → Except Halt Duration) :
    ∀ (spare attempt : Nat) (os : List Http.Outcome) (sent : List Http.Request),
      (retryFrom (fun _ => ExceptT.lift (readOutcome <$> Http.Script.send request)) VendorFault.isRetryable
          (fun a => ExceptT.mk (pure (delay a)) >>= fun _ => ExceptT.lift (pure ())) attempt spare).run.run
          ⟨os, sent⟩ =
        (firstHalt delay attempt (min (spare + 1) (Http.leadingThrottled os + 1) - 1)).elim
          (.ok (readOutcome (os.getD (min (spare + 1) (Http.leadingThrottled os + 1) - 1) (.error Http.exhausted))),
            ⟨os.drop (min (spare + 1) (Http.leadingThrottled os + 1)),
              sent ++ List.replicate (min (spare + 1) (Http.leadingThrottled os + 1)) request⟩)
          (fun jx => (.error jx.2,
            ⟨os.drop (jx.1 + 1 - attempt), sent ++ List.replicate (jx.1 + 1 - attempt) request⟩))
  | 0, attempt, os, sent => by
    have hk : min (0 + 1) (Http.leadingThrottled os + 1) = 1 := by omega
    rw [hk]
    cases os <;> rfl
  | spare + 1, attempt, [], sent => by
    have hk : min (spare + 1 + 1) (Http.leadingThrottled [] + 1) = 1 := by simp [Http.leadingThrottled]
    rw [hk]
    rfl
  | spare + 1, attempt, o :: rest, sent => by
    have hstep := attempt_run request ⟨o :: rest, sent⟩
    simp only [List.headD_cons, List.tail_cons] at hstep
    by_cases hthr : o.throttled = true
    · -- a throttled answer: one request made, then the wait, then the rest of the script
      obtain ⟨e, he, hretry⟩ := (readOutcome_retryable_iff o).mpr hthr
      rw [he] at hstep
      obtain ⟨j, hj⟩ : ∃ j, min (spare + 1) (Http.leadingThrottled rest + 1) = j + 1 :=
        ⟨_, (Nat.succ_pred_eq_of_pos (by omega)).symm⟩
      have hk : min (spare + 1 + 1) (Http.leadingThrottled (o :: rest) + 1) = j + 1 + 1 := by
        rw [Http.leadingThrottled_cons_of_throttled rest hthr]
        omega
      rw [hk, Nat.add_sub_cancel]
      cases hd : delay attempt with
      | error x =>
        rw [retryFrom_succ_halt hstep hretry (idleWait_run_error hd _), firstHalt_succ_error hd]
        simp only [Option.elim, Nat.add_sub_cancel_left, List.drop_succ_cons, List.drop_zero,
          List.replicate_one]
      | ok d =>
        have ih := retryFrom_script request delay spare (attempt + 1) rest (sent ++ [request])
        rw [hj, Nat.add_sub_cancel] at ih
        rw [retryFrom_succ_retry hstep hretry (idleWait_run_ok hd _), ih, firstHalt_succ_ok hd]
        cases hh : firstHalt delay (attempt + 1) j with
        | none => simp [Option.elim, List.replicate_succ]
        | some jx =>
          obtain ⟨i, x⟩ := jx
          have hi := firstHalt_ge hh
          have hlen : i + 1 - attempt = i + 1 - (attempt + 1) + 1 := by omega
          simp only [Option.elim, hlen, List.drop_succ_cons, List.replicate_succ, List.append_assoc,
            List.singleton_append]
    · -- any other answer ends the fetch after one request
      have hnot : o.throttled = false := by simpa using hthr
      have hk : min (spare + 1 + 1) (Http.leadingThrottled (o :: rest) + 1) = 1 := by
        simp [Http.leadingThrottled_cons_of_not_throttled rest hnot]
      rw [hk]
      cases hro : readOutcome o with
      | ok a =>
        rw [hro] at hstep
        rw [retryFrom_succ_ok hstep]
        simp [hro, firstHalt_zero, Option.elim]
      | error e =>
        rw [hro] at hstep
        rw [retryFrom_succ_stop hstep (readOutcome_stops hnot hro)]
        simp [hro, firstHalt_zero, Option.elim]

/-- A fetch against a script of outcomes, with `m` attempts allowed, sends
`k = min (max m 1) (t + 1)` requests, `t` the number of throttled answers at the head of the
script, and answers what the last request got; a script that runs out fails every later request.
That holds when the waits after the first `k - 1` requests can all be computed; otherwise the
first of them that cannot stops the program, right after its request. -/
theorem fetch_attempts (client : VendorClient) (draws : Nat → Float) (request : Http.Request)
    (os : List Http.Outcome) (sent : List Http.Request) :
    let k := min (max client.retry.maxAttempts 1) (Http.leadingThrottled os + 1)
    (client.fetch Http.Script.send draws request).run.run ⟨os, sent⟩ =
      (firstHalt (fun i => client.retry.delayForAttempt (draws i) i) 0 (k - 1)).elim
        (.ok (readOutcome (os.getD (k - 1) (.error Http.exhausted))),
          ⟨os.drop k, sent ++ List.replicate k request⟩)
        (fun jx => (.error jx.2, ⟨os.drop (jx.1 + 1), sent ++ List.replicate (jx.1 + 1) request⟩)) := by
  intro k
  have hmax : Nat.max client.retry.maxAttempts 1 = max client.retry.maxAttempts 1 := rfl
  have hk : k = min (Nat.max client.retry.maxAttempts 1 - 1 + 1) (Http.leadingThrottled os + 1) := by
    simp only [k, hmax]
    omega
  rw [hk]
  exact retryFrom_script request (fun i => client.retry.delayForAttempt (draws i) i) _ 0 os sent

def throttlingAnswer : Http.Outcome := .ok ⟨200, "\x7b\"CommonResult\":\x7b\"ResultCode\":1101\x7d\x7d"⟩

/-- Sixty-four attempts with a backoff from four seconds doubling up to the longest duration,
against a vendor that throttles every request: the program stops after 63 requests, when the
wait after the 63rd is computed. -/
theorem fetch_halts_doubling_to_maximum :
    let r := (VendorClient.fetch { baseUrl := "", retry := ⟨64, .exponential (.ofSecs 4) 2.0 .maximum .zero⟩ }
      Http.Script.send (fun _ => 0.0) (.new .get "")).run.run ⟨List.replicate 64 throttlingAnswer, []⟩
    r.1 = .error Duration.secondsOutOfRange ∧ r.2.sent.length = 63 := by
  intro r
  have hthr : throttlingAnswer.throttled = true := by decide +kernel
  have hlead : Http.leadingThrottled (List.replicate 64 throttlingAnswer) = 64 := by
    simp [Http.leadingThrottled, hthr]
  have hrun := retryFrom_script (.new .get "")
    (fun i => RetryConfig.delayForAttempt ⟨64, .exponential (.ofSecs 4) 2.0 .maximum .zero⟩ 0.0 i) 63 0
    (List.replicate 64 throttlingAnswer) []
  have hk : min (63 + 1) (Http.leadingThrottled (List.replicate 64 throttlingAnswer) + 1) - 1 = 63 := by
    rw [hlead]
    rfl
  rw [hk, firstHalt_doubling_to_maximum] at hrun
  rw [show r = _ from hrun]
  exact ⟨rfl, rfl⟩

end VendorClient

end FleetTelemetry
