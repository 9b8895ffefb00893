import FleetTelemetry.Proofs.Dedup.Plan

/-!
# The forwarding rule of a device

The filter documents its decisions per device: an observation is forwarded when its device was
not seen before, when its status differs from the status of the device's last observation, or
when its status is quiet and its report time differs from the last observation's
(`DedupConfig.forwards`). The filter does not keep the history; it keeps two entries per device,
the status (written only when an observation is forwarded) and, per quiet status, the last report
time (written on every quiet observation).

`Remembers` says these entries agree with the history: the status entry holds the last status,
and for a quiet last status its entry holds the last report time. Every verdict keeps this and
decides by the rule (`verdict_step`); so from an empty store every session of `evaluate` and
`filter` calls forwards exactly what the rule forwards (`session_follows_rule`).
-/

namespace FleetTelemetry

/-! ### The rule -/

def lastReport (hist : List Observation) (device : String) : Option Observation :=
  (hist.filter (·.source == device)).getLast?

theorem lastReport_snoc (hist : List Observation) (o : Observation) (device : String) :
    lastReport (hist ++ [o]) device = if o.source = device then some o else lastReport hist device := by
  by_cases h : o.source = device <;> simp [lastReport, List.filter_append, h]

namespace DedupConfig

/-- Whether an observation that follows a history is forwarded: its device was not seen, or its
status differs from the last one (compared exactly), or its status is quiet and its report time
differs from the last one's. -/
def forwards (c : DedupConfig) (hist : List Observation) (o : Observation) : Bool :=
  match lastReport hist o.source with
  | none => true
  | some p => p.status != o.status || (c.isQuiet o.status && p.recordedAtIso != o.recordedAtIso)

/-- The observations of `os` that the rule forwards when they follow the history `hist`. -/
def forwardedAfter (c : DedupConfig) : List Observation → List Observation → List Observation
  | _, [] => []
  | hist, o :: os => (if c.forwards hist o then [o] else []) ++ c.forwardedAfter (hist ++ [o]) os

end DedupConfig

/-- A call on a filter: one observation evaluated, or a page filtered. -/
inductive DedupCall where
  | evaluate (o : Observation)
  | filter (os : List Observation)

def DedupCall.observations : DedupCall → List Observation
  | .evaluate o => [o]
  | .filter os => os

/-- What each call of a session forwards by the rule, the session following `hist`. -/
def DedupConfig.sessionForwards (c : DedupConfig) : List Observation → List DedupCall → List (List Observation)
  | _, [] => []
  | hist, call :: calls =>
    c.forwardedAfter hist call.observations :: c.sessionForwards (hist ++ call.observations) calls

namespace DedupFilter

variable {m : Type → Type} [Monad m]

def forwardedBy (f : DedupFilter m) : DedupCall → ExceptT StoreFault m (List Observation)
  | .evaluate o => do
    let d ← f.evaluate o
    pure (if d.isForward then [o] else [])
  | .filter os => f.filter os

end DedupFilter

/-! ### What a verdict leaves -/

theorem pullActionId_ne_quietActionId (status : String) : pullActionId ≠ quietActionId status := by
  intro h
  have heads := congrArg (fun s => s.toList.head?) h
  simp [pullActionId, quietActionId, quietActionPrefix, String.toList_append] at heads

namespace DedupFilter

variable {m : Type → Type} (f : DedupFilter m)

/-- The content agrees with a history: under each device the status of its last observation,
and, when that status is quiet, its report time under the status's quiet action. -/
def Remembers (r : StateKey → Option DeviceState) (hist : List Observation) : Prop :=
  ∀ device, (r ⟨f.integrationId, pullActionId, device⟩).map (·.status) =
      (lastReport hist device).map (·.status) ∧
    ∀ p, lastReport hist device = some p → f.config.isQuiet p.status = true →
      (r ⟨f.integrationId, quietActionId p.status, device⟩).bind (·.recordedAt) = some p.recordedAtIso

theorem written_other (r : StateKey → Option DeviceState) (ws : List StateWrite) (source : String)
    (hws : ∀ w ∈ ws, w.sourceId = source) (k : StateKey) (hk : k.sourceId ≠ source) :
    f.written r ws k = r k := by
  induction ws generalizing r with
  | nil => rfl
  | cons w ws ih =>
    have hw : k ≠ ⟨f.integrationId, w.actionId, w.sourceId⟩ := by
      intro h
      exact hk (by rw [h]; exact hws w (List.mem_cons_self ..))
    simp only [written, List.foldl_cons] at ih ⊢
    rw [ih _ (fun w' h' => hws w' (List.mem_cons_of_mem _ h')), Function.update_of_ne hw]

/-- A verdict leaves the status entry alone when it holds the observation's status already, and
writes that status otherwise. -/
theorem written_verdict_pull (r : StateKey → Option DeviceState) (o : Observation) :
    f.written r (f.verdict (f.seen [] r) o).2 ⟨f.integrationId, pullActionId, o.source⟩ =
      if (r ⟨f.integrationId, pullActionId, o.source⟩).map (·.status) = some o.status then
        r ⟨f.integrationId, pullActionId, o.source⟩
      else some { status := o.status } := by
  have hne := pullActionId_ne_quietActionId o.status
  rw [f.verdict_writes_eq, seen_nil]
  by_cases hs : (r ⟨f.integrationId, pullActionId, o.source⟩).map (·.status) = some o.status <;>
    by_cases hq : f.config.isQuiet o.status = true <;> simp [written, quietEntry, hs, hq, hne]

/-- Under any other action, a verdict writes the quiet entry of a quiet status and nothing else,
whatever it decides. -/
theorem written_verdict_quiet (r : StateKey → Option DeviceState) (o : Observation) {action : String}
    (ha : action ≠ pullActionId) :
    f.written r (f.verdict (f.seen [] r) o).2 ⟨f.integrationId, action, o.source⟩ =
      if f.config.isQuiet o.status = true ∧ quietActionId o.status = action then some (f.quietEntry o).state
      else r ⟨f.integrationId, action, o.source⟩ := by
  rw [f.verdict_writes_eq, seen_nil]
  by_cases hs : (r ⟨f.integrationId, pullActionId, o.source⟩).map (·.status) = some o.status <;>
    by_cases hq : f.config.isQuiet o.status = true <;> by_cases hk : quietActionId o.status = action <;>
    simp [written, quietEntry, eq_comm (a := action), hs, hq, hk, Ne.symm ha]

/-- After a verdict the status entry of the device holds the observation's status: written when
it is forwarded, already there when it is suppressed. -/
theorem verdict_status (r : StateKey → Option DeviceState) (o : Observation) :
    ((f.written r (f.verdict (f.seen [] r) o).2) ⟨f.integrationId, pullActionId, o.source⟩).map
      (·.status) = some o.status := by
  rw [f.written_verdict_pull]
  by_cases hs : (r ⟨f.integrationId, pullActionId, o.source⟩).map (·.status) = some o.status
  · rw [if_pos hs, hs]
  · rw [if_neg hs]
    rfl

/-- After a verdict on an observation with a quiet status, the status's quiet entry holds its
report time: every such observation refreshes it. -/
theorem verdict_quiet (r : StateKey → Option DeviceState) (o : Observation)
    (hq : f.config.isQuiet o.status = true) :
    ((f.written r (f.verdict (f.seen [] r) o).2) ⟨f.integrationId, quietActionId o.status, o.source⟩).bind
      (·.recordedAt) = some o.recordedAtIso := by
  rw [f.written_verdict_quiet r o (pullActionId_ne_quietActionId o.status).symm, if_pos ⟨hq, rfl⟩]
  rfl

theorem verdict_forwards (r : StateKey → Option DeviceState) (hist : List Observation)
    (hrem : f.Remembers r hist) (o : Observation) :
    (f.verdict (f.seen [] r) o).1.isForward = f.config.forwards hist o := by
  obtain ⟨hstatus, hquiet⟩ := hrem o.source
  cases hlast : lastReport hist o.source with
  | none =>
    have hl : r ⟨f.integrationId, pullActionId, o.source⟩ = none := by simpa [hlast] using hstatus
    simp [verdict, DedupConfig.forwards, hl, hlast, Decision.isForward]
  | some p =>
    obtain ⟨previous, hl, hps⟩ : ∃ previous, r ⟨f.integrationId, pullActionId, o.source⟩ = some previous ∧
        previous.status = p.status := by
      cases h : r ⟨f.integrationId, pullActionId, o.source⟩ <;> simp_all
    by_cases hs : p.status = o.status
    · by_cases hq : f.config.isQuiet o.status = true
      · -- the same quiet status: decided by the report time its quiet entry holds
        have hseen := hquiet p hlast (by rw [hs]; exact hq)
        rw [hs] at hseen
        cases ht : p.recordedAtIso == o.recordedAtIso <;>
          simp_all [verdict, DedupConfig.forwards, Decision.isForward]
      · simp [verdict, DedupConfig.forwards, hl, hlast, hps, hs, hq, Decision.isForward]
    · simp [verdict, DedupConfig.forwards, hl, hlast, hps, hs, Decision.isForward]

/-- A verdict on a content that remembers the history leaves a content that remembers the
history with the observation appended. -/
theorem verdict_remembers (r : StateKey → Option DeviceState) (hist : List Observation)
    (hrem : f.Remembers r hist) (o : Observation) :
    f.Remembers (f.written r (f.verdict (f.seen [] r) o).2) (hist ++ [o]) := by
  intro device
  by_cases hd : o.source = device
  · subst hd
    refine ⟨?_, ?_⟩
    · rw [f.verdict_status r o, lastReport_snoc, if_pos rfl]
      rfl
    · intro p hp hq
      rw [lastReport_snoc, if_pos rfl] at hp
      cases hp
      exact f.verdict_quiet r o hq
  · -- the writes are all for `o.source`, so the device's entries are as they were
    have hws : ∀ w ∈ (f.verdict (f.seen [] r) o).2, w.sourceId = o.source := by
      intro w hw
      rcases f.verdict_writes_cases _ o w hw with rfl | ⟨-, rfl⟩ <;> rfl
    have hframe : ∀ action, f.written r (f.verdict (f.seen [] r) o).2 ⟨f.integrationId, action, device⟩ =
        r ⟨f.integrationId, action, device⟩ :=
      fun action => f.written_other r _ o.source hws _ (Ne.symm hd)
    obtain ⟨hstatus, hquiet⟩ := hrem device
    refine ⟨?_, ?_⟩
    · rw [hframe, lastReport_snoc, if_neg hd]
      exact hstatus
    · intro p hp hq
      rw [lastReport_snoc, if_neg hd] at hp
      rw [hframe]
      exact hquiet p hp hq

/-- Evaluating observations one at a time on a content that remembers the history forwards what
the rule forwards, and leaves a content that remembers the longer history. -/
theorem verdicts_follow_rule (r : StateKey → Option DeviceState) (hist : List Observation)
    (hrem : f.Remembers r hist) (os : List Observation) :
    ((os.zip ((f.verdicts r os).map (·.1))).filter (·.2.isForward)).map (·.1) =
        f.config.forwardedAfter hist os ∧
      f.Remembers (f.written r ((f.verdicts r os).flatMap (·.2))) (hist ++ os) := by
  induction os generalizing r hist with
  | nil => exact ⟨rfl, by simpa [verdicts] using hrem⟩
  | cons o os ih =>
    obtain ⟨hkept, hnext⟩ := ih _ _ (f.verdict_remembers r hist hrem o)
    have hdecide := f.verdict_forwards r hist hrem o
    refine ⟨?_, ?_⟩
    · simp only [verdicts, List.map_cons, List.zip_cons_cons, List.filter_cons, hdecide,
        DedupConfig.forwardedAfter]
      cases f.config.forwards hist o <;> simp [hkept]
    · simpa [verdicts, f.written_append] using hnext

theorem verdicts_timed (r : StateKey → Option DeviceState) (os : List Observation) :
    ∀ w ∈ (f.verdicts r os).flatMap (·.2), f.Timed w := by
  induction os generalizing r with
  | nil => simp [verdicts]
  | cons o os ih =>
    intro w hw
    simp only [verdicts, List.flatMap_cons, List.mem_append] at hw
    rcases hw with hw | hw
    · exact f.verdict_timed _ o w hw
    · exact ih _ w hw

/-! ### Sessions from an empty store -/

section Session

variable {σ : Type} (f : DedupFilter (StateM σ)) {read : σ → StateKey → Option DeviceState}
variable (hr : Recalls f.store read f.config.quietPeriod)
include hr

/-- One call forwards what the rule forwards and leaves a content that remembers the history
with the call's observations appended. -/
theorem forwardedBy_run (call : DedupCall) (hist : List Observation) (s : σ)
    (hrem : f.Remembers (read s) hist) :
    ∃ s', (f.forwardedBy call).run.run s = (.ok (f.config.forwardedAfter hist call.observations), s') ∧
      f.Remembers (read s') (hist ++ call.observations) := by
  cases call with
  | evaluate o =>
    have hread := f.read_afterWrites hr s _ (f.verdict_timed (f.seen [] (read s)) o)
    refine ⟨f.afterWrites s (f.verdict (f.seen [] (read s)) o).2, ?_, ?_⟩
    · simp only [forwardedBy]
      rw [run_bind_ok (f.evaluate_run hr o s), f.verdict_forwards (read s) hist hrem o]
      simp only [DedupCall.observations, DedupConfig.forwardedAfter, List.append_nil]
      cases f.config.forwards hist o <;> rfl
    · rw [hread]
      exact f.verdict_remembers (read s) hist hrem o
  | filter os =>
    obtain ⟨hkept, hnext⟩ := f.verdicts_follow_rule (read s) hist hrem os
    refine ⟨f.afterWrites s ((f.verdicts (read s) os).flatMap (·.2)), ?_, ?_⟩
    · simp only [forwardedBy, DedupCall.observations]
      rw [f.filter_run hr os s, hkept]
    · rw [f.read_afterWrites hr s _ (f.verdicts_timed (read s) os)]
      exact hnext

/-- Starting from an empty store that only this filter writes and in which no entry expires,
every session of `evaluate` and `filter` calls forwards, call by call, exactly the observations
the rule forwards: an observation goes through when its device was not seen before, when its
status differs from the device's last one, or when its status is quiet and its report time
differs from the last one's. -/
theorem session_follows_rule (s : σ) (hempty : ∀ k, read s k = none) (calls : List DedupCall) :
    ((calls.mapM f.forwardedBy).run.run s).1 = .ok (f.config.sessionForwards [] calls) := by
  -- the invariant carried across calls: the content remembers every observation decided so far
  suffices h : ∀ (calls : List DedupCall) (hist : List Observation) (s : σ),
      f.Remembers (read s) hist →
        ((calls.mapM f.forwardedBy).run.run s).1 = .ok (f.config.sessionForwards hist calls) from
    h calls [] s (fun device => by simp [hempty, lastReport])
  intro calls
  induction calls with
  | nil => intro hist s _; rfl
  | cons call calls ih =>
    intro hist s hrem
    obtain ⟨s', hcall, hrem'⟩ := f.forwardedBy_run hr call hist s hrem
    simp only [List.mapM_cons]
    rw [run_bind_ok hcall]
    have hrest := ih (hist ++ call.observations) s' hrem'
    cases hout : (calls.mapM f.forwardedBy).run.run s' with
    | mk result s'' =>
      rw [hout] at hrest
      simp only at hrest
      subst hrest
      simp only [ExceptT.run_bind, StateT.run_bind, hout]
      rfl

end Session

end DedupFilter

theorem session_follows_rule_epoch :
    Recalls epochFilter.store (fun t k => t.get k ⟨0, 0⟩) epochFilter.config.quietPeriod ∧
      (∀ k, ({} : StateTable).get k ⟨0, 0⟩ = none) ∧
      (([.evaluate (statusReport "s1" "Off"), .filter [statusReport "s1" "Off", statusReport "s2" "Moving"],
          .evaluate (statusReport "s2" "Idle")].mapM epochFilter.forwardedBy).run.run {}).1 =
        .ok (epochFilter.config.sessionForwards [] [.evaluate (statusReport "s1" "Off"),
          .filter [statusReport "s1" "Off", statusReport "s2" "Moving"],
          .evaluate (statusReport "s2" "Idle")]) :=
  ⟨StateTable.store_recalls _ _ (by decide), fun _ => rfl,
    DedupFilter.session_follows_rule epochFilter (StateTable.store_recalls _ _ (by decide)) {}
      (fun _ => rfl) _⟩

end FleetTelemetry
