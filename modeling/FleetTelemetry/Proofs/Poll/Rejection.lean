import FleetTelemetry.Proofs.Poll.Redelivery

/-!
# What a rejected batch leaves behind

A cycle whose sink rejects a batch stops there. Before it, the batches were delivered one by one
and each was followed by the writes it owes; after it, nothing is written. The writes owed by the
first forwarded observations are the writes of the page evaluated up to the last of them
(`plan_prefix`), including the quiet refreshes of the suppressed observations among them, and
none of what follows.

So a rejected cycle leaves the device states that evaluating its page one observation at a time,
up to and including the last delivered observation, leaves
(`rejected_cycle_keeps_delivered_prefix`). A write owed by an observation that was not delivered,
its own or the quiet refresh of a suppressed observation just before it, is never made: the next
cycle decides those observations afresh.
-/

namespace FleetTelemetry

variable {σ : Type}

/-! ### Programs that are never stopped by the sink -/

section SinkFree

variable {α γ : Type} {x : CycleM (StateM σ) α}

/-- A program of a cycle that never ends with a fault of the sink. -/
def SinkFree (x : CycleM (StateM σ) α) : Prop :=
  ∀ s s' e, x.run.run.run s ≠ (.ok (.error (.sink e)), s')

theorem SinkFree.pure (a : α) : SinkFree (Pure.pure a : CycleM (StateM σ) α) := by
  intro s s' e h
  rw [cycle_pure_run] at h
  cases (Prod.mk.inj h).1

theorem SinkFree.bind {f : α → CycleM (StateM σ) γ} (hx : SinkFree x) (hf : ∀ a, SinkFree (f a)) :
    SinkFree (x >>= f) := by
  intro s s' e h
  rcases cycle_bind_fault_inv h with hfirst | ⟨a, s₁, -, hrest⟩
  · exact hx s s' e hfirst
  · exact hf a s₁ s' e hrest

theorem SinkFree.map (g : α → γ) (hx : SinkFree x) : SinkFree (g <$> x) := by
  rw [map_eq_pure_bind]
  exact hx.bind fun a => SinkFree.pure (g a)

theorem SinkFree.step {ε : Type} (y : StateM σ (Except ε α)) {wrap : ε → PollFault}
    (hwrap : ∀ e e', wrap e ≠ .sink e') : SinkFree (PollCycle.step y wrap) := by
  intro s s' e h
  rw [step_run] at h
  cases hy : (y.run s).1 with
  | error e₀ =>
    rw [hy] at h
    exact hwrap e₀ e (Except.error.inj (Except.ok.inj (Prod.mk.inj h).1))
  | ok a =>
    rw [hy] at h
    cases (Prod.mk.inj h).1

theorem SinkFree.haltingStep {ε : Type} (y : ExceptT Halt (StateM σ) (Except ε α)) {wrap : ε → PollFault}
    (hwrap : ∀ e e', wrap e ≠ .sink e') : SinkFree (PollCycle.haltingStep y wrap) := by
  intro s s' e h
  rw [haltingStep_run] at h
  rcases hy : (y.run.run s).1 with x | e₀ | a
  · rw [hy] at h
    cases (Prod.mk.inj h).1
  · rw [hy] at h
    exact hwrap e₀ e (Except.error.inj (Except.ok.inj (Prod.mk.inj h).1))
  · rw [hy] at h
    cases (Prod.mk.inj h).1

theorem SinkFree.pureHalt (y : Except Halt α) :
    SinkFree (PollCycle.pureHalt y : CycleM (StateM σ) α) := by
  intro s s' e h
  rw [pureHalt_run] at h
  cases y <;> cases (Prod.mk.inj h).1

theorem SinkFree.pureFault {ε : Type} (y : Except ε α) {wrap : ε → PollFault}
    (hwrap : ∀ e e', wrap e ≠ .sink e') :
    SinkFree (PollCycle.pureFault (y.mapError wrap) : CycleM (StateM σ) α) := by
  intro s s' e h
  rw [pureFault_run] at h
  cases y with
  | error e₀ => exact hwrap e₀ e (Except.error.inj (Except.ok.inj (Prod.mk.inj h).1))
  | ok a => cases (Prod.mk.inj h).1

end SinkFree

namespace PollCycle

variable {c : PollCycle (StateM σ)} {read : σ → StateKey → Option DeviceState}
  {sent : σ → List (List Observation)}

/-- The first steps of a cycle fail only with a fault of the configuration, a store, the vendor
or the conversion, never of the sink. -/
theorem intake_sinkFree (now : Time.Stamp) : SinkFree (c.intake now) := by
  unfold intake
  refine (SinkFree.pureFault _ fun _ _ h => by cases h).bind fun offset => ?_
  refine ((SinkFree.step _ fun _ _ h => by cases h).map _).bind fun previous => ?_
  refine (SinkFree.pureHalt _).bind fun window => ?_
  refine (SinkFree.pureHalt _).bind fun request => ?_
  refine (SinkFree.haltingStep _ fun _ _ h => by cases h).bind fun fetched => ?_
  refine (SinkFree.pureHalt _).bind fun converted => ?_
  exact (SinkFree.pureFault _ fun _ _ h => by cases h).bind fun observations => SinkFree.pure _

theorem run_sink_intake {now : Time.Stamp} {s₀ s₁ : σ} {e : SinkFault}
    (hrun : (c.run now).run.run.run s₀ = (.ok (.error (.sink e)), s₁)) :
    ∃ i t, (c.intake now).run.run.run s₀ = (.ok (.ok i), t) := by
  unfold run at hrun
  rcases cycle_bind_fault_inv hrun with hintake | ⟨i, t, hi, -⟩
  · exact absurd hintake (intake_sinkFree now s₀ s₁ e)
  · exact ⟨i, t, hi⟩

end PollCycle

/-! ### The batches of a list -/

theorem chunksOfSucc_ne_nil {α : Type} (k : Nat) (xs : List α) : ∀ b ∈ chunksOfSucc k xs, b ≠ [] := by
  induction xs using chunksOfSucc.induct k with
  | case1 => simp [chunksOfSucc]
  | case2 x xs ih =>
    intro b hb
    rw [chunksOfSucc, List.mem_cons] at hb
    rcases hb with rfl | hb
    · simp
    · exact ih b hb

theorem mul_lt_length_of_lt_batches {α : Type} {size b : Nat} {xs : List α} (hsize : 0 < size)
    (hb : b < (batches size xs).length) : b * size < xs.length := by
  have hnext : ((batches size xs).take (b + 1)).flatten =
      ((batches size xs).take b).flatten ++ (batches size xs)[b] := by
    rw [List.take_add_one, List.getElem?_eq_getElem hb, Option.toList_some, List.flatten_append,
      List.flatten_singleton]
  have hlong : (xs.take (b * size)).length < (xs.take ((b + 1) * size)).length := by
    rw [← batches_take_flatten size b xs hsize, ← batches_take_flatten size (b + 1) xs hsize, hnext,
      List.length_append]
    have hne := chunksOfSucc_ne_nil (size - 1) xs _ (List.getElem_mem hb)
    have hpos : 0 < ((batches size xs)[b]).length := List.length_pos_iff.mpr hne
    omega
  rw [List.length_take, List.length_take] at hlong
  omega

/-! ### Evaluating one observation at a time -/

namespace DedupFilter

variable (f : DedupFilter (StateM σ)) {read : σ → StateKey → Option DeviceState}

theorem read_mapM_evaluate (hr : Recalls f.store read f.config.quietPeriod)
    (os : List Observation) (s : σ) : read ((os.mapM f.evaluate).run.run s).2 = f.after (read s) os := by
  rw [f.mapM_evaluate_run hr os s, f.read_afterWrites hr s _ (f.verdicts_timed (read s) os),
    f.after_eq_written]

end DedupFilter

/-! ### A rejected cycle -/

namespace PollCycle

variable {c : PollCycle (StateM σ)} {read : σ → StateKey → Option DeviceState}
  {sent : σ → List (List Observation)}

/-- Let the sink stop a cycle in a watched world in which no store call fails and no entry
expires. The sink took the first `b` batches of what the page forwards and rejected the next one.
The device states the cycle leaves are those that evaluating its page one observation at a time,
from the states it started with, leaves after the shortest prefix `P` that forwards those
batches: up to and including the `b * batchSize`-th forwarded observation, none when `b = 0`.
No write owed by an observation after `P` is made. -/
theorem rejected_cycle_keeps_delivered_prefix (hw : c.Watched read sent) (hsize : 0 < c.batchSize)
    {now : Time.Stamp} {s₀ s₁ : σ} {e : SinkFault}
    (hrun : (c.run now).run.run.run s₀ = (.ok (.error (.sink e)), s₁)) :
    ∃ (i : Intake) (t : σ) (b : Nat) (P S : List Observation),
      (c.intake now).run.run.run s₀ = (.ok (.ok i), t) ∧
      sent s₁ = sent s₀ ++
        (batches c.batchSize (c.filter.forwardedFrom (read s₀) i.observations)).take b ∧
      b < (batches c.batchSize (c.filter.forwardedFrom (read s₀) i.observations)).length ∧
      i.observations = P ++ S ∧
      c.filter.forwardedFrom (read s₀) P =
        (c.filter.forwardedFrom (read s₀) i.observations).take (b * c.batchSize) ∧
      (c.filter.forwardedFrom (read s₀) P).length = b * c.batchSize ∧
      (∀ n < P.length, (c.filter.forwardedFrom (read s₀) (P.take n)).length < b * c.batchSize) ∧
      read s₁ = read ((P.mapM c.filter.evaluate).run.run s₀).2 := by
  obtain ⟨i, t, hi⟩ := run_sink_intake hrun
  obtain ⟨hreadt, hsentt⟩ := hw.intake_keeps hi
  -- the plan is the page decided one observation at a time on the states the cycle started with
  have hplan := c.filter.plan_planned hw.recalls i.observations t
  rw [hreadt] at hplan
  have hfwd := c.filter.planned_forwarded (read s₀) [] i.observations
  have hlen := c.filter.planned_writes_length (read s₀) [] i.observations
  obtain ⟨b, -, hsent, hread, hout⟩ := deliver_run hw _
    (c.filter.planned_timed _ [] _ (by simp)) _ 0 0 0 t s₁ _ (batches_fit hlen)
    (deliverPlan_sink_inv hw (run_sink_inv hi hplan hrun))
  have hb : b < (batches c.batchSize (c.filter.planned (read s₀) [] i.observations).forwarded).length := by
    rcases hout with ⟨-, counts, hok⟩ | ⟨hlt, -⟩
    · cases hok
    · exact hlt
  rw [hfwd] at hb hsent
  have hmore := mul_lt_length_of_lt_batches hsize hb
  have hdelivered : ((batches c.batchSize (c.filter.forwardedFrom (read s₀) i.observations)).take b).flatten.length =
      b * c.batchSize := by
    rw [batches_take_flatten _ _ _ hsize, List.length_take]
    omega
  obtain ⟨P, S, hsplit, hleading, hmin, hwritten, -⟩ :=
    c.filter.plan_prefix (read s₀) i.observations (b * c.batchSize)
  rw [hfwd] at hleading
  have hcount : (c.filter.forwardedFrom (read s₀) P).length = b * c.batchSize := by
    rw [hleading, List.length_take]
    omega
  refine ⟨i, t, b, P, S, hi, by rw [hsent, hsentt], hb, hsplit, hleading, hcount, hmin, ?_⟩
  rw [hread, List.drop_zero, hfwd, hdelivered, hreadt, hwritten,
    c.filter.read_mapM_evaluate hw.recalls]

end PollCycle

/-- In `RetryWorld` the sink rejects the second of two one-observation batches: the first cycle
leaves the states of its first observation evaluated alone. -/
theorem rejected_world_keeps_first_truck :
    ∃ e, 0 < RetryWorld.cycle.batchSize ∧
      (RetryWorld.cycle.run RetryWorld.now).run.run.run {} = (.ok (.error (.sink e)), RetryWorld.first.2) ∧
      ∃ (i : PollCycle.Intake) (t : RetryWorld) (b : Nat) (P S : List Observation),
        (RetryWorld.cycle.intake RetryWorld.now).run.run.run {} = (.ok (.ok i), t) ∧
        RetryWorld.first.2.accepted = [] ++
          (batches RetryWorld.cycle.batchSize
            (RetryWorld.cycle.filter.forwardedFrom (RetryWorld.read {}) i.observations)).take b ∧
        b < (batches RetryWorld.cycle.batchSize
          (RetryWorld.cycle.filter.forwardedFrom (RetryWorld.read {}) i.observations)).length ∧
        i.observations = P ++ S ∧
        RetryWorld.cycle.filter.forwardedFrom (RetryWorld.read {}) P =
          (RetryWorld.cycle.filter.forwardedFrom (RetryWorld.read {}) i.observations).take
            (b * RetryWorld.cycle.batchSize) ∧
        (RetryWorld.cycle.filter.forwardedFrom (RetryWorld.read {}) P).length =
          b * RetryWorld.cycle.batchSize ∧
        (∀ n < P.length, (RetryWorld.cycle.filter.forwardedFrom (RetryWorld.read {}) (P.take n)).length <
          b * RetryWorld.cycle.batchSize) ∧
        RetryWorld.read RetryWorld.first.2 =
          RetryWorld.read ((P.mapM RetryWorld.cycle.filter.evaluate).run.run {}).2 := by
  obtain ⟨e, -, -, -, hfirst, -, -, -, -⟩ := RetryWorld.outcomes
  have hrun : (RetryWorld.cycle.run RetryWorld.now).run.run.run {} =
      (.ok (.error (.sink e)), RetryWorld.first.2) := hfirst
  exact ⟨e, by decide, hrun,
    PollCycle.rejected_cycle_keeps_delivered_prefix RetryWorld.watched (by decide) hrun⟩

end FleetTelemetry
