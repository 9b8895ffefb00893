import FleetTelemetry.Proofs.Dedup.Sequential

/-!
# Planning a page is evaluating it one observation at a time

`plan` decides a page without writing: later observations of a device are decided against the
writes owed by earlier ones, kept in `pending`. The writes are made later, batch by batch
(`commitBatch` over consecutive ranges of the forwarded observations) and then the trailing ones.

Over a store that recalls, the planned writes shadow the content exactly as the writes would:
what the filter sees after planning some observations is the content after their writes
(`seen_notes`). So planning answers `planned`, the plan as a function of the content, decided one
observation at a time (`plan_planned`): it forwards what evaluating the observations one at a
time forwards, and its writes, however they are split into consecutive ranges, are the writes of
that evaluation in the same order (`plan_run`, `commitRanges_run`). The main result,
`filter_refines_evaluate`, says that `filter`, and `plan` with any such commits, leave the world
exactly as evaluating one at a time does.
-/

namespace FleetTelemetry

namespace DedupFilter

variable {m : Type → Type} [Monad m]

/-- Commits the forwarded observations from `start` on in consecutive ranges of the given sizes. -/
def commitRanges (f : DedupFilter m) (p : DedupPlan) : Nat → List Nat → ExceptT StoreFault m Unit
  | _, [] => pure ()
  | start, k :: ks => do
    f.commitBatch p start (start + k)
    f.commitRanges p (start + k) ks

end DedupFilter

/-! ### Planned writes shadow the content -/

theorem Pending.lookup_filter_ne (p : Pending) (k k' : String × String) (h : k' ≠ k) :
    (p.filter (·.1 != k)).lookup k' = p.lookup k' := by
  induction p with
  | nil => rfl
  | cons e p ih =>
    obtain ⟨j, d⟩ := e
    by_cases hj : j = k
    · subst hj
      have hne : k' ≠ j := h
      simp only [List.filter_cons, bne_self_eq_false, Bool.false_eq_true, if_false, ih,
        lookup_cons_ite, if_neg hne]
    · have hj' : (j != k) = true := by simpa using hj
      simp only [List.filter_cons, hj', if_true, lookup_cons_ite, ih]

theorem Pending.lookup_note (p : Pending) (w : StateWrite) (k : String × String) :
    (p.note w).lookup k = if k = (w.actionId, w.sourceId) then some w.state else p.lookup k := by
  by_cases h : k = (w.actionId, w.sourceId)
  · simp [Pending.note, h]
  · simp only [Pending.note, lookup_cons_ite, if_neg h, Pending.lookup_filter_ne p _ k h]

def DedupPlan.andThen (p q : DedupPlan) : DedupPlan :=
  ⟨p.forwarded ++ q.forwarded, p.writes ++ q.writes, q.trailing⟩

namespace DedupFilter

variable {m : Type → Type} (f : DedupFilter m)

theorem seen_notes (ws : List StateWrite) (pending : Pending) (r r' : StateKey → Option DeviceState)
    (h : f.seen pending r = f.seen [] r') :
    f.seen (ws.foldl Pending.note pending) r = f.seen [] (f.written r' ws) := by
  induction ws generalizing pending r' with
  | nil => exact h
  | cons w ws ih =>
    apply ih
    funext a src
    have hsrc := congrFun (congrFun h a) src
    simp only [seen, Pending.lookup_note, List.lookup_nil, Option.none_or] at hsrc ⊢
    simp only [Function.update_apply, StateKey.mk.injEq, Prod.mk.injEq, true_and]
    by_cases hk : a = w.actionId ∧ src = w.sourceId
    · simp [hk]
    · simp only [hk, if_false, hsrc]

/-! ### The plan as a function of the content -/

/-- The plan of a page on the content `r`, the writes `owed` still waiting for the next forwarded
observation. -/
def planned (r : StateKey → Option DeviceState) (owed : List StateWrite) : List Observation → DedupPlan
  | [] => { trailing := owed }
  | o :: os =>
    let v := f.verdict (f.seen [] r) o
    if v.1.isForward then
      let rest := planned (f.written r v.2) [] os
      { rest with forwarded := o :: rest.forwarded, writes := (owed ++ v.2) :: rest.writes }
    else planned (f.written r v.2) (owed ++ v.2) os

theorem planned_writes_length (r : StateKey → Option DeviceState) (owed : List StateWrite)
    (os : List Observation) :
    (f.planned r owed os).writes.length = (f.planned r owed os).forwarded.length := by
  induction os generalizing r owed with
  | nil => rfl
  | cons o os ih =>
    simp only [planned]
    cases (f.verdict (f.seen [] r) o).1.isForward <;> simp [ih]

theorem planned_forwarded_verdicts (r : StateKey → Option DeviceState) (owed : List StateWrite)
    (os : List Observation) :
    (f.planned r owed os).forwarded =
      ((os.zip ((f.verdicts r os).map (·.1))).filter (·.2.isForward)).map (·.1) := by
  induction os generalizing r owed with
  | nil => rfl
  | cons o os ih =>
    simp only [planned, verdicts, List.map_cons, List.zip_cons_cons, List.filter_cons]
    cases (f.verdict (f.seen [] r) o).1.isForward <;> simp [ih]

theorem planned_writes_trailing (r : StateKey → Option DeviceState) (owed : List StateWrite)
    (os : List Observation) :
    (f.planned r owed os).writes.flatten ++ (f.planned r owed os).trailing =
      owed ++ (f.verdicts r os).flatMap (·.2) := by
  induction os generalizing r owed with
  | nil => simp [planned, verdicts]
  | cons o os ih =>
    simp only [planned, verdicts, List.flatMap_cons]
    cases (f.verdict (f.seen [] r) o).1.isForward
    · simp only [Bool.false_eq_true, if_false, ih, List.append_assoc]
    · simp only [if_true, List.flatten_cons, List.append_assoc, ih, List.nil_append]

/-! ### Runs over a store that recalls -/

section Recall

variable {σ : Type} (f : DedupFilter (StateM σ)) {read : σ → StateKey → Option DeviceState}
variable (hr : Recalls f.store read f.config.quietPeriod)
include hr

/-- Planning from a state of the loop in which the pending writes shadow the content as the
writes made so far would: the loop only reads, and it plans the rest of the page as `planned`
does on the content after those writes. The induction follows the page; the invariant is the
shadowing, which noting a verdict's writes keeps (`seen_notes`). -/
theorem planFrom_planned (os : List Observation) (plan : DedupPlan) (pending : Pending)
    (owed : List StateWrite) (s : σ)
    (hseen : f.seen pending (read s) = f.seen [] (f.written (read s) (plan.writes.flatten ++ owed))) :
    (f.planFrom plan pending owed os).run.run s =
      (.ok (plan.andThen (f.planned (f.written (read s) (plan.writes.flatten ++ owed)) owed os)), s) := by
  induction os generalizing plan pending owed with
  | nil =>
    simp only [planFrom, planned, DedupPlan.andThen, List.append_nil]
    rfl
  | cons o os ih =>
    have hdec : (f.decide o pending).run.run s =
        (.ok (f.verdict (f.seen [] (f.written (read s) (plan.writes.flatten ++ owed))) o), s) := by
      rw [f.decide_run hr, hseen]
    have hnotes := f.seen_notes (f.verdict (f.seen [] (f.written (read s)
      (plan.writes.flatten ++ owed))) o).2 pending (read s) _ hseen
    simp only [planFrom, planned]
    rw [run_bind_ok hdec]
    generalize f.verdict (f.seen [] (f.written (read s) (plan.writes.flatten ++ owed))) o = v at hnotes ⊢
    obtain ⟨d, ws⟩ := v
    cases hd : d.isForward
    · -- suppressed: its writes join those owed to the next forwarded observation
      have hseen' : f.seen (ws.foldl Pending.note pending) (read s) =
          f.seen [] (f.written (read s) (plan.writes.flatten ++ (owed ++ ws))) := by
        rw [hnotes]
        simp only [← List.append_assoc, f.written_append]
      simp only [Bool.false_eq_true, if_false]
      rw [ih plan _ (owed ++ ws) hseen']
      simp only [← List.append_assoc, f.written_append]
    · -- forwarded: the writes owed so far become its own
      have hseen' : f.seen (ws.foldl Pending.note pending) (read s) =
          f.seen [] (f.written (read s) ((plan.writes ++ [owed ++ ws]).flatten ++ [])) := by
        rw [hnotes]
        simp [f.written_append]
      simp only [if_true]
      rw [ih ⟨plan.forwarded ++ [o], plan.writes ++ [owed ++ ws], plan.trailing⟩ _ [] hseen']
      simp [DedupPlan.andThen, f.written_append]

theorem plan_planned (os : List Observation) (s : σ) :
    (f.plan os).run.run s = (.ok (f.planned (read s) [] os), s) := by
  have h := f.planFrom_planned hr os {} [] [] s (by simp)
  simpa [plan, DedupPlan.andThen] using h

/-- The plan of a page forwards what one-at-a-time evaluation forwards, one bundle of writes for
each, and its bundles and trailing writes are that evaluation's writes in order. -/
theorem plan_run (os : List Observation) (s : σ) :
    ∃ p, (f.plan os).run.run s = (.ok p, s) ∧
      p.forwarded = ((os.zip ((f.verdicts (read s) os).map (·.1))).filter (·.2.isForward)).map (·.1) ∧
      p.writes.flatten ++ p.trailing = (f.verdicts (read s) os).flatMap (·.2) ∧
      p.writes.length = p.forwarded.length := by
  refine ⟨_, f.plan_planned hr os s, f.planned_forwarded_verdicts _ _ os, ?_,
    f.planned_writes_length _ _ os⟩
  rw [f.planned_writes_trailing, List.nil_append]

theorem commitBatch_run (p : DedupPlan) (a b : Nat) (s : σ) :
    (f.commitBatch p a b).run.run s = (.ok (), f.afterWrites s (p.writesFor a b)) :=
  f.apply_run hr _ s

theorem commitRanges_run (p : DedupPlan) (start : Nat) (bs : List (List Observation)) (s : σ)
    (h : start + bs.flatten.length ≤ p.writes.length) :
    (f.commitRanges p start (bs.map List.length)).run.run s =
      (.ok (), f.afterWrites s ((p.writes.drop start).take bs.flatten.length).flatten) := by
  induction bs generalizing start s with
  | nil => rfl
  | cons b bs ih =>
    simp only [List.flatten_cons, List.length_append] at h
    have hfor : p.writesFor start (start + b.length) = ((p.writes.drop start).take b.length).flatten := by
      simp [DedupPlan.writesFor, show start + b.length ≤ p.writes.length by omega]
    simp only [List.map_cons, commitRanges]
    rw [run_bind_ok (f.commitBatch_run hr p start (start + b.length) s), ih (start + b.length) _ (by omega)]
    rw [← f.afterWrites_append, hfor, ← List.flatten_append, List.flatten_cons, List.length_append,
      List.take_add, List.drop_drop]

theorem commitTrailing_run (p : DedupPlan) (s : σ) :
    (f.commitTrailing p).run.run s = (.ok (), f.afterWrites s p.trailing) :=
  f.apply_run hr _ s

/-- `filter` commits the whole plan as one range: it answers what one-at-a-time evaluation
forwards and leaves the world after that evaluation's writes. -/
theorem filter_run (os : List Observation) (s : σ) :
    (f.filter os).run.run s =
      (.ok (((os.zip ((f.verdicts (read s) os).map (·.1))).filter (·.2.isForward)).map (·.1)),
        f.afterWrites s ((f.verdicts (read s) os).flatMap (·.2))) := by
  obtain ⟨p, hplan, hfwd, hwr, hlen⟩ := f.plan_run hr os s
  have hall : p.writesFor 0 p.len = p.writes.flatten := by
    simp [DedupPlan.writesFor, DedupPlan.len, ← hlen]
  simp only [filter]
  rw [run_bind_ok hplan, run_bind_ok (f.commitBatch_run hr p 0 p.len s), hall,
    run_bind_ok (f.commitTrailing_run hr p _), ← f.afterWrites_append, hwr, ← hfwd]
  rfl

omit hr in
/-- Over a store in which no entry expires while the filter runs, filtering a page answers the
observations that evaluating them one at a time forwards, in order, and leaves the world exactly
as that evaluation does. So does planning the page and committing it in any consecutive ranges
that cover the forwarded observations, then the trailing writes: the store receives the same
writes in the same order, each once. -/
theorem filter_refines_evaluate (hr : Recalls f.store read f.config.quietPeriod)
    (os : List Observation) (s : σ) :
    ∃ ds s', (os.mapM f.evaluate).run.run s = (.ok ds, s') ∧
      (f.filter os).run.run s = (.ok (((os.zip ds).filter (·.2.isForward)).map (·.1)), s') ∧
      ∀ batches : List (List Observation),
        batches.flatten = ((os.zip ds).filter (·.2.isForward)).map (·.1) →
        (do
          let p ← f.plan os
          f.commitRanges p 0 (batches.map List.length)
          f.commitTrailing p).run.run s = (.ok (), s') := by
  obtain ⟨p, hplan, hfwd, hwr, hlen⟩ := f.plan_run hr os s
  have hcount : ((os.zip ((f.verdicts (read s) os).map (·.1))).filter (·.2.isForward)).length =
      p.writes.length := by
    rw [hlen, hfwd, List.length_map]
  refine ⟨_, _, f.mapM_evaluate_run hr os s, f.filter_run hr os s, ?_⟩
  intro batches hbatches
  have hcover : batches.flatten.length = p.writes.length := by
    rw [hbatches, List.length_map, hcount]
  rw [run_bind_ok hplan, run_bind_ok (f.commitRanges_run hr p 0 batches s (by omega)),
    f.commitTrailing_run hr p, ← f.afterWrites_append, hcover, List.drop_zero, List.take_length, hwr]

end Recall

end DedupFilter

/-! ### The in-memory store at one instant -/

/-- A filter of integration `int-1` over the in-memory store, its clock at the epoch. -/
def epochFilter : DedupFilter (StateM StateTable) := ⟨StateTable.store ⟨0, 0⟩, "int-1", {}⟩

def statusReport (source status : String) : Observation :=
  ⟨source, "Vehicle " ++ source, subjectType, observationType, ⟨0, 0⟩, ⟨1.0, 2.0⟩,
    [("status", .str status)]⟩

theorem filter_refines_evaluate_epoch :
    Recalls epochFilter.store (fun t k => t.get k ⟨0, 0⟩) epochFilter.config.quietPeriod ∧
      ∃ ds s', (([statusReport "s1" "Moving", statusReport "s1" "Moving", statusReport "s1" "Off",
          statusReport "s1" "Off"].mapM epochFilter.evaluate).run.run {}) = (.ok ds, s') ∧
        (epochFilter.filter [statusReport "s1" "Moving", statusReport "s1" "Moving",
          statusReport "s1" "Off", statusReport "s1" "Off"]).run.run {} =
          (.ok ((([statusReport "s1" "Moving", statusReport "s1" "Moving", statusReport "s1" "Off",
            statusReport "s1" "Off"].zip ds).filter (·.2.isForward)).map (·.1)), s') ∧
        ∀ batches : List (List Observation),
          batches.flatten = (([statusReport "s1" "Moving", statusReport "s1" "Moving",
            statusReport "s1" "Off", statusReport "s1" "Off"].zip ds).filter (·.2.isForward)).map (·.1) →
          (do
            let p ← epochFilter.plan [statusReport "s1" "Moving", statusReport "s1" "Moving",
              statusReport "s1" "Off", statusReport "s1" "Off"]
            epochFilter.commitRanges p 0 (batches.map List.length)
            epochFilter.commitTrailing p).run.run {} = (.ok (), s') :=
  ⟨StateTable.store_recalls _ _ (by decide),
    DedupFilter.filter_refines_evaluate epochFilter (StateTable.store_recalls _ _ (by decide)) _ {}⟩

end FleetTelemetry
