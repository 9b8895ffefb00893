import FleetTelemetry.Proofs.Dedup.Bundles

/-!
# Calls that overlap

A filter serialises its store calls with a guard, but `filter` takes the guard three times: to
plan its page, to commit the forwarded observations, and to commit the trailing writes. Calls made
concurrently on one filter therefore run as an interleaving of atomic steps: an `evaluate` is one
step, a `filter` is three (`CallStage`, `DedupFilter.advance`), and a schedule names, step by
step, the call that moves (`DedupFilter.interleave`).

Such interleavings are not serial. When two filter calls both plan before either commits, each
decides its page on the content as it was before both, and the second one's writes, decided on
that content, are made over the first one's (`overlapping_filters_plan_alike`). A first-seen
observation given to both is then forwarded by both, while the same two calls one after another
forward it once (`overlapping_filters_forward_twice`).
-/

namespace FleetTelemetry

inductive CallStage where
  | start (call : DedupCall)
  | planned (p : DedupPlan)
  | committed (p : DedupPlan)
  | done (forwarded : List Observation)

namespace DedupFilter

variable {m : Type → Type} [Monad m]

def advance (f : DedupFilter m) : CallStage → ExceptT StoreFault m CallStage
  | .start (.evaluate o) => do
    let d ← f.evaluate o
    pure (.done (if d.isForward then [o] else []))
  | .start (.filter os) => CallStage.planned <$> f.plan os
  | .planned p => do
    f.commitBatch p 0 p.len
    pure (.committed p)
  | .committed p => do
    f.commitTrailing p
    pure (.done p.forwarded)
  | .done out => pure (.done out)

/-- Runs calls by a schedule: each entry names the call that makes its next step, and an entry
that names no call is skipped. -/
def interleave (f : DedupFilter m) : List CallStage → List Nat → ExceptT StoreFault m (List CallStage)
  | stages, [] => pure stages
  | stages, k :: ks =>
    match stages[k]? with
    | some st => do
      let st' ← f.advance st
      f.interleave (stages.set k st') ks
    | none => f.interleave stages ks

end DedupFilter

namespace DedupFilter

variable {m : Type → Type} (f : DedupFilter m)

/-! ### All the writes of a plan -/

/-- The bundles of a plan and its trailing writes are, in order, the writes of its page evaluated
one observation at a time after the owed ones. -/
theorem planned_writesFor_all (r : StateKey → Option DeviceState) (os : List Observation) :
    (f.planned r [] os).writesFor 0 (f.planned r [] os).len = (f.planned r [] os).writes.flatten := by
  unfold DedupPlan.writesFor DedupPlan.len
  rw [← f.planned_writes_length]
  simp

theorem planned_timed_all (r : StateKey → Option DeviceState) (os : List Observation) :
    ∀ w ∈ (f.planned r [] os).writes.flatten ++ (f.planned r [] os).trailing, f.Timed w := by
  rw [f.planned_writes_trailing, List.nil_append]
  exact f.verdicts_timed r os

/-! ### Steps over a store that recalls -/

section Recall

variable {σ : Type} (f : DedupFilter (StateM σ)) {read : σ → StateKey → Option DeviceState}
variable (hr : Recalls f.store read f.config.quietPeriod)
include hr

theorem advance_plan_run (os : List Observation) (s : σ) :
    (f.advance (.start (.filter os))).run.run s = (.ok (.planned (f.planned (read s) [] os)), s) := by
  simp only [advance, ExceptT.run_map, StateT.run_map]
  rw [show ((f.plan os).run.run s) = (.ok (f.planned (read s) [] os), s) from f.plan_planned hr os s]
  rfl

theorem advance_commit_run (p : DedupPlan) (s : σ) :
    (f.advance (.planned p)).run.run s = (.ok (.committed p), f.afterWrites s (p.writesFor 0 p.len)) := by
  simp only [advance]
  rw [run_bind_ok (f.commitBatch_run hr p 0 p.len s)]
  rfl

theorem advance_trailing_run (p : DedupPlan) (s : σ) :
    (f.advance (.committed p)).run.run s = (.ok (.done p.forwarded), f.afterWrites s p.trailing) := by
  simp only [advance]
  rw [run_bind_ok (f.commitTrailing_run hr p s)]
  rfl

omit hr in
theorem interleave_step {stages : List CallStage} {k : Nat} {st st' : CallStage} {s s' : σ}
    (ks : List Nat) (hk : stages[k]? = some st) (hst : (f.advance st).run.run s = (.ok st', s')) :
    (f.interleave stages (k :: ks)).run.run s = (f.interleave (stages.set k st') ks).run.run s' := by
  simp only [interleave, hk]
  exact run_bind_ok hst

/-- A page filtered alone forwards what evaluating it one observation at a time forwards and
leaves the content that evaluation leaves. -/
theorem filter_forwardedFrom_run (os : List Observation) (s : σ) :
    ∃ s', (f.filter os).run.run s = (.ok (f.forwardedFrom (read s) os), s') ∧
      read s' = f.after (read s) os := by
  have hrun : (f.filter os).run.run s = (.ok (f.forwardedFrom (read s) os),
      f.afterWrites (f.afterWrites s (f.planned (read s) [] os).writes.flatten)
        (f.planned (read s) [] os).trailing) := by
    simp only [filter]
    rw [run_bind_ok (f.plan_planned hr os s), run_bind_ok (f.commitBatch_run hr _ 0 _ s),
      run_bind_ok (f.commitTrailing_run hr _ _), f.planned_writesFor_all, f.planned_forwarded]
    rfl
  refine ⟨_, hrun, ?_⟩
  rw [← f.afterWrites_append, f.read_afterWrites hr s _ (f.planned_timed_all _ os),
    f.planned_writes_trailing, List.nil_append, f.after_eq_written]

/-- Two filter calls that both plan before either commits decide their pages on the content as
it was before both: each forwards what it would forward alone. The first one's writes are made,
then the second one's, decided on that same content, over them. -/
theorem overlapping_filters_plan_alike (os₁ os₂ : List Observation) (s : σ) :
    ∃ s', (f.interleave [.start (.filter os₁), .start (.filter os₂)] [0, 1, 0, 0, 1, 1]).run.run s =
        (.ok [.done (f.forwardedFrom (read s) os₁), .done (f.forwardedFrom (read s) os₂)], s') ∧
      read s' = f.written (f.after (read s) os₁) ((f.verdicts (read s) os₂).flatMap (·.2)) := by
  rw [f.interleave_step _ rfl (f.advance_plan_run hr os₁ s),
    f.interleave_step _ rfl (f.advance_plan_run hr os₂ s),
    f.interleave_step _ rfl (f.advance_commit_run hr _ s),
    f.interleave_step _ rfl (f.advance_trailing_run hr _ _),
    f.interleave_step _ rfl (f.advance_commit_run hr _ _),
    f.interleave_step _ rfl (f.advance_trailing_run hr _ _)]
  refine ⟨_, by rw [f.planned_forwarded, f.planned_forwarded]; rfl, ?_⟩
  rw [← f.afterWrites_append, ← f.afterWrites_append, ← f.afterWrites_append, f.planned_writesFor_all,
    f.planned_writesFor_all, ← List.append_assoc (f.planned (read s) [] os₁).writes.flatten,
    f.read_afterWrites hr s _ ?_, f.written_append, f.planned_writes_trailing, f.planned_writes_trailing,
    List.nil_append, List.nil_append, ← f.after_eq_written]
  intro w hw
  rcases List.mem_append.mp hw with hw | hw
  · exact f.planned_timed_all _ os₁ w hw
  · exact f.planned_timed_all _ os₂ w hw

/-- A first-seen observation given to two filter calls that both plan before either commits is
forwarded by both; the same two calls one after another forward it once. -/
theorem overlapping_filters_forward_twice (o : Observation) (s : σ)
    (hnew : read s ⟨f.integrationId, pullActionId, o.source⟩ = none) :
    ((f.interleave [.start (.filter [o]), .start (.filter [o])] [0, 1, 0, 0, 1, 1]).run.run s).1 =
        .ok [.done [o], .done [o]] ∧
      (([DedupCall.filter [o], .filter [o]].mapM f.forwardedBy).run.run s).1 = .ok [[o], []] := by
  have hfirst : f.forwardedFrom (read s) [o] = [o] := by
    simp [forwardedFrom, verdict, hnew, Decision.isForward]
  obtain ⟨s', hinterleaved, -⟩ := f.overlapping_filters_plan_alike hr [o] [o] s
  refine ⟨by rw [hinterleaved, hfirst], ?_⟩
  -- one after another, the second call finds the first one's writes
  obtain ⟨s₁, hcall₁, hread₁⟩ := f.filter_forwardedFrom_run hr [o] s
  obtain ⟨s₂, hcall₂, -⟩ := f.filter_forwardedFrom_run hr [o] s₁
  have hsecond : f.forwardedFrom (read s₁) [o] = [] := by
    rw [hread₁]
    exact f.forwardedFrom_replay_distinct _ [o] (by simp)
  simp only [List.mapM_cons, List.mapM_nil, forwardedBy, bind_assoc, pure_bind]
  rw [run_bind_ok hcall₁, run_bind_ok hcall₂, hfirst, hsecond]
  rfl

end Recall

end DedupFilter

end FleetTelemetry
