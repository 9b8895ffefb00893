import FleetTelemetry.Poll.Cycle
import FleetTelemetry.Proofs.Store.Recall

/-!
# What the steps of a cycle leave alone

The results about cycles are stated for a world `σ` changed in the state monad. `Keeps v x`
says that every run of `x` leaves the view `v` of the world as it found it. It is closed under
the monad's operations, so a phase of a cycle keeps a view as soon as the parts it calls do: the
filter's actions when the device-state store keeps it, the vendor's retried fetch when its
transport does, and the first steps, the planning and the delivery of a cycle when the parts
each of them calls do.

The run lemmas take a cycle's program apart at a bind: what follows runs only when what precedes
succeeded, and a halt or a fault is passed on with the world in which it happened.
-/

namespace FleetTelemetry

/-! ### Programs that keep a view -/

section Keeps

variable {σ β α γ ε : Type} {v : σ → β}

/-- Every run of `x` leaves the view `v` of the world as it found it. -/
def Keeps (v : σ → β) (x : StateM σ α) : Prop := ∀ s, v (x.run s).2 = v s

theorem Keeps.pure (a : α) : Keeps v (Pure.pure a : StateM σ α) := fun _ => rfl

theorem Keeps.bind {x : StateM σ α} {f : α → StateM σ γ} (hx : Keeps v x)
    (hf : ∀ a, Keeps v (f a)) : Keeps v (x >>= f) := by
  intro s
  rw [StateT.run_bind]
  exact (hf _ _).trans (hx s)

theorem Keeps.of_run {x : StateM σ α} {a : α} {s s' : σ} (hx : Keeps v x) (h : x.run s = (a, s')) :
    v s' = v s := by
  have hs := hx s
  rwa [h] at hs

theorem Keeps.map {x : StateM σ α} (g : α → γ) (hx : Keeps v x) : Keeps v (g <$> x) := by
  intro s
  rw [StateT.run_map]
  exact hx s

theorem Keeps.except_bind {x : ExceptT ε (StateM σ) α} {f : α → ExceptT ε (StateM σ) γ}
    (hx : Keeps v x.run) (hf : ∀ a, Keeps v (f a).run) : Keeps v (x >>= f).run := by
  rw [ExceptT.run_bind]
  refine hx.bind fun r => ?_
  cases r with
  | ok a => exact hf a
  | error e => exact Keeps.pure _

theorem Keeps.cycle_bind {x : CycleM (StateM σ) α} {f : α → CycleM (StateM σ) γ}
    (hx : Keeps v x.run.run) (hf : ∀ a, Keeps v (f a).run.run) : Keeps v (x >>= f).run.run := by
  rw [ExceptT.run_bind]
  refine Keeps.except_bind hx fun r => ?_
  cases r with
  | ok a => exact hf a
  | error e => exact fun _ => rfl

theorem Keeps.cycle_pure (a : α) : Keeps v (Pure.pure a : CycleM (StateM σ) α).run.run :=
  fun _ => rfl

theorem Keeps.cycle_map {x : CycleM (StateM σ) α} (g : α → γ) (hx : Keeps v x.run.run) :
    Keeps v (g <$> x).run.run := by
  rw [map_eq_pure_bind]
  exact hx.cycle_bind fun _ => Keeps.cycle_pure _

theorem Keeps.step {x : StateM σ (Except ε α)} (hx : Keeps v x) (wrap : ε → PollFault) :
    Keeps v (PollCycle.step x wrap).run.run :=
  hx.map _

theorem Keeps.pureHalt (x : Except Halt α) : Keeps v (PollCycle.pureHalt x : CycleM (StateM σ) α).run.run := by
  intro s
  cases x <;> rfl

theorem Keeps.pureFault (x : Except PollFault α) :
    Keeps v (PollCycle.pureFault x : CycleM (StateM σ) α).run.run :=
  fun _ => rfl

theorem Keeps.dedupStep {x : ExceptT StoreFault (StateM σ) α} (hx : Keeps v x.run) :
    Keeps v (PollCycle.dedupStep x).run.run :=
  Keeps.step hx _

theorem PollCycle.haltingStep_run_eq (x : ExceptT Halt (StateM σ) (Except ε α)) (wrap : ε → PollFault) :
    (PollCycle.haltingStep x wrap).run.run = Except.map (fun r => r.mapError wrap) <$> x.run :=
  ExceptT.run_map _ _

theorem Keeps.haltingStep {x : ExceptT Halt (StateM σ) (Except ε α)} (hx : Keeps v x.run)
    (wrap : ε → PollFault) : Keeps v (PollCycle.haltingStep x wrap).run.run := by
  rw [PollCycle.haltingStep_run_eq]
  exact hx.map _

theorem Keeps.retryFrom {op : Nat → ExceptT Halt (StateM σ) (Except ε α)} (hop : ∀ n, Keeps v (op n).run)
    {pause : Nat → ExceptT Halt (StateM σ) Unit} (hpause : ∀ n, Keeps v (pause n).run) (retry : ε → Bool) :
    ∀ attempt spare, Keeps v (FleetTelemetry.retryFrom op retry pause attempt spare).run
  | attempt, 0 => hop attempt
  | attempt, spare + 1 => by
    refine Keeps.except_bind (hop attempt) fun r => ?_
    cases r with
    | ok a => exact Keeps.pure _
    | error e =>
      dsimp only
      split
      · exact Keeps.except_bind (hpause attempt) fun _ => Keeps.retryFrom hop hpause retry (attempt + 1) spare
      · exact Keeps.pure _

theorem RetryConfig.keeps_wait (c : RetryConfig) (draw : Float) (a : Nat) :
    Keeps v (ExceptT.mk (pure (c.delayForAttempt draw a)) >>= fun _ => ExceptT.lift (pure ()) :
      ExceptT Halt (StateM σ) Unit).run :=
  Keeps.except_bind (Keeps.pure _) fun _ => (Keeps.pure _).map _

theorem VendorClient.keeps_fetch (client : VendorClient) {send : Http.Request → StateM σ Http.Outcome}
    (hsend : ∀ r, Keeps v (send r)) (draws : Nat → Float) (request : Http.Request) :
    Keeps v (client.fetch send draws request).run :=
  Keeps.retryFrom (fun _ => ((hsend request).map _).map _)
    (fun a => client.retry.keeps_wait (draws a) a) _ 0 _

end Keeps

/-! ### The filter's actions -/

namespace DedupFilter

variable {σ β : Type} {v : σ → β} (f : DedupFilter (StateM σ))

theorem keeps_lookup (hget : ∀ k, Keeps v (f.store.get k)) (pending : Pending) (action source : String) :
    Keeps v (f.lookup pending action source).run := by
  unfold lookup
  cases pending.lookup (action, source) with
  | some d => exact Keeps.pure _
  | none => exact hget _

theorem keeps_decide (hget : ∀ k, Keeps v (f.store.get k)) (o : Observation) (pending : Pending) :
    Keeps v (f.decide o pending).run := by
  unfold decide
  refine Keeps.except_bind (f.keeps_lookup hget _ _ _) fun stored => ?_
  cases stored with
  | none => exact Keeps.pure _
  | some previous =>
    dsimp only
    split
    · exact Keeps.pure _
    · split
      · exact Keeps.except_bind (f.keeps_lookup hget _ _ _) fun _ => Keeps.pure _
      · exact Keeps.pure _

theorem keeps_apply (hset : ∀ k d t, Keeps v (f.store.set k d t)) :
    ∀ ws, Keeps v (f.apply ws).run
  | [] => Keeps.pure _
  | _ :: ws => Keeps.except_bind (hset _ _ _) fun _ => keeps_apply hset ws

theorem keeps_planFrom (hget : ∀ k, Keeps v (f.store.get k)) (os : List Observation) :
    ∀ plan pending owed, Keeps v (f.planFrom plan pending owed os).run := by
  induction os with
  | nil => exact fun _ _ _ => Keeps.pure _
  | cons o os ih =>
    intro plan pending owed
    refine Keeps.except_bind (f.keeps_decide hget o pending) fun verdict => ?_
    obtain ⟨d, ws⟩ := verdict
    dsimp only
    split
    · exact ih _ _ _
    · exact ih _ _ _

theorem keeps_plan (hget : ∀ k, Keeps v (f.store.get k)) (os : List Observation) :
    Keeps v (f.plan os).run :=
  f.keeps_planFrom hget os _ _ _

end DedupFilter

/-! ### The phases of a cycle -/

namespace PollCycle

variable {σ β : Type} {v : σ → β} (c : PollCycle (StateM σ))

theorem keeps_intake (hsend : ∀ r, Keeps v (c.send r))
    (hget : ∀ i a, Keeps v (c.checkpoints.get i a)) (now : Time.Stamp) :
    Keeps v (c.intake now).run.run := by
  unfold intake
  refine (Keeps.pureFault _).cycle_bind fun offset => ?_
  refine ((Keeps.step (hget _ _) _).cycle_map _).cycle_bind fun previous => ?_
  refine (Keeps.pureHalt _).cycle_bind fun window => ?_
  refine (Keeps.pureHalt _).cycle_bind fun request => ?_
  refine (Keeps.haltingStep (c.vendor.keeps_fetch hsend c.draws request) _).cycle_bind fun fetched => ?_
  refine (Keeps.pureHalt _).cycle_bind fun converted => ?_
  exact (Keeps.pureFault _).cycle_bind fun _ => Keeps.cycle_pure _

theorem keeps_deliver (hsink : ∀ os, Keeps v (c.sink.send os))
    (hset : ∀ k d t, Keeps v (c.states.set k d t)) (plan : DedupPlan) :
    ∀ bs delivered extracted sent, Keeps v (c.deliver plan bs delivered extracted sent).run.run
  | [], _, _, _ => Keeps.cycle_pure _
  | b :: bs, delivered, _, _ =>
    (Keeps.step (hsink b) _).cycle_bind fun _ =>
      (Keeps.dedupStep (c.filter.keeps_apply hset _)).cycle_bind fun _ =>
        keeps_deliver hsink hset plan bs (delivered + b.length) _ _

theorem keeps_deliverPlan (hsink : ∀ os, Keeps v (c.sink.send os))
    (hset : ∀ k d t, Keeps v (c.states.set k d t)) (plan : DedupPlan) :
    Keeps v (c.deliverPlan plan).run.run := by
  unfold deliverPlan
  refine (c.keeps_deliver hsink hset plan _ 0 0 0).cycle_bind fun counts => ?_
  exact (Keeps.dedupStep (c.filter.keeps_apply hset _)).cycle_bind fun _ => Keeps.cycle_pure _

end PollCycle

/-! ### Running a cycle's program -/

section Run

variable {σ α γ ε : Type} {x : CycleM (StateM σ) α} {f : α → CycleM (StateM σ) γ} {s s' : σ}

@[simp] theorem step_run (y : StateM σ (Except ε α)) (wrap : ε → PollFault) (s : σ) :
    (PollCycle.step y wrap).run.run.run s = (.ok ((y.run s).1.mapError wrap), (y.run s).2) := rfl

@[simp] theorem haltingStep_run (y : ExceptT Halt (StateM σ) (Except ε α)) (wrap : ε → PollFault) (s : σ) :
    (PollCycle.haltingStep y wrap).run.run.run s =
      ((y.run.run s).1.map fun r => r.mapError wrap, (y.run.run s).2) := by
  rw [PollCycle.haltingStep_run_eq, StateT.run_map]
  rfl

@[simp] theorem pureFault_run (y : Except PollFault α) (s : σ) :
    (PollCycle.pureFault y : CycleM (StateM σ) α).run.run.run s = (.ok y, s) := rfl

@[simp] theorem pureHalt_run (y : Except Halt α) (s : σ) :
    (PollCycle.pureHalt y : CycleM (StateM σ) α).run.run.run s = (y.map .ok, s) := by
  cases y <;> rfl

@[simp] theorem cycle_pure_run (a : α) (s : σ) :
    (pure a : CycleM (StateM σ) α).run.run.run s = (.ok (.ok a), s) := rfl

theorem cycle_bind_ok {a : α} (h : x.run.run.run s = (.ok (.ok a), s')) :
    (x >>= f).run.run.run s = (f a).run.run.run s' := by
  rw [ExceptT.run_bind, run_bind_ok h]

theorem cycle_bind_fault {e : PollFault} (h : x.run.run.run s = (.ok (.error e), s')) :
    (x >>= f).run.run.run s = (.ok (.error e), s') := by
  rw [ExceptT.run_bind, run_bind_ok h]
  rfl

theorem cycle_bind_halt {e : Halt} (h : x.run.run.run s = (.error e, s')) :
    (x >>= f).run.run.run s = (.error e, s') := by
  rw [ExceptT.run_bind, run_bind_error h]

/-- A bind either ran its second part after the first succeeded, or ended where the first one
failed, with an outcome that is not a success. -/
theorem cycle_bind_inv {r : Except Halt (Except PollFault γ)}
    (h : (x >>= f).run.run.run s = (r, s')) :
    (∃ a s₁, x.run.run.run s = (.ok (.ok a), s₁) ∧ (f a).run.run.run s₁ = (r, s')) ∨
      ((∀ b, r ≠ .ok (.ok b)) ∧ (x.run.run.run s).2 = s') := by
  rcases hx : x.run.run.run s with ⟨rx, s₁⟩
  rcases rx with e | e | a
  · rw [cycle_bind_halt hx, Prod.mk.injEq] at h
    obtain ⟨rfl, rfl⟩ := h
    exact .inr ⟨(fun _ h => nomatch h), rfl⟩
  · rw [cycle_bind_fault hx, Prod.mk.injEq] at h
    obtain ⟨rfl, rfl⟩ := h
    exact .inr ⟨(fun _ h => nomatch h), rfl⟩
  · exact .inl ⟨a, s₁, rfl, (cycle_bind_ok hx).symm.trans h⟩

theorem cycle_bind_ok_inv {b : γ} (h : (x >>= f).run.run.run s = (.ok (.ok b), s')) :
    ∃ a s₁, x.run.run.run s = (.ok (.ok a), s₁) ∧ (f a).run.run.run s₁ = (.ok (.ok b), s') := by
  rcases cycle_bind_inv h with hok | ⟨hne, -⟩
  · exact hok
  · exact absurd rfl (hne b)

/-- A bind that ends with a fault got it from its first part, or ran its second part after the
first succeeded and got it there. -/
theorem cycle_bind_fault_inv {e : PollFault} (h : (x >>= f).run.run.run s = (.ok (.error e), s')) :
    x.run.run.run s = (.ok (.error e), s') ∨
      ∃ a s₁, x.run.run.run s = (.ok (.ok a), s₁) ∧ (f a).run.run.run s₁ = (.ok (.error e), s') := by
  rcases hx : x.run.run.run s with ⟨rx, s₁⟩
  rcases rx with e' | e' | a
  · rw [cycle_bind_halt hx] at h
    cases h
  · rw [cycle_bind_fault hx, Prod.mk.injEq] at h
    obtain ⟨he, rfl⟩ := h
    cases he
    exact .inl rfl
  · exact .inr ⟨a, s₁, rfl, (cycle_bind_ok hx).symm.trans h⟩

theorem dedupStep_ok {y : ExceptT StoreFault (StateM σ) α} {a : α} (h : y.run.run s = (.ok a, s')) :
    (PollCycle.dedupStep y).run.run.run s = (.ok (.ok a), s') := by
  simp only [PollCycle.dedupStep, step_run, h]
  rfl

theorem Except.eq_ok_of_mapError {ε' : Type} {f : ε → ε'} {x : Except ε α} {a : α}
    (h : x.mapError f = .ok a) : x = .ok a := by
  cases x with
  | error e => cases h
  | ok b =>
    cases h
    rfl

theorem step_ok_inv {y : StateM σ (Except ε α)} {wrap : ε → PollFault} {a : α}
    (h : (PollCycle.step y wrap).run.run.run s = (.ok (.ok a), s')) : y.run s = (.ok a, s') := by
  rw [step_run] at h
  rcases hy : y.run s with ⟨r, s₁⟩
  rw [hy] at h
  obtain ⟨hr, rfl⟩ := Prod.mk.inj h
  have hok : r = .ok a := Except.eq_ok_of_mapError (Except.ok.inj hr)
  rw [hok]

theorem haltingStep_ok_inv {y : ExceptT Halt (StateM σ) (Except ε α)} {wrap : ε → PollFault} {a : α}
    (h : (PollCycle.haltingStep y wrap).run.run.run s = (.ok (.ok a), s')) :
    y.run.run s = (.ok (.ok a), s') := by
  rw [haltingStep_run] at h
  rcases hy : y.run.run s with ⟨r, s₁⟩
  rw [hy] at h
  obtain ⟨hr, rfl⟩ := Prod.mk.inj h
  cases r with
  | error e => cases hr
  | ok r => rw [Except.eq_ok_of_mapError (Except.ok.inj hr)]

theorem pureFault_ok_inv {y : Except PollFault α} {a : α}
    (h : (PollCycle.pureFault y : CycleM (StateM σ) α).run.run.run s = (.ok (.ok a), s')) :
    y = .ok a ∧ s' = s := by
  obtain ⟨hy, rfl⟩ := Prod.mk.inj h
  exact ⟨Except.ok.inj hy, rfl⟩

theorem pureHalt_ok_inv {y : Except Halt α} {a : α}
    (h : (PollCycle.pureHalt y : CycleM (StateM σ) α).run.run.run s = (.ok (.ok a), s')) :
    y = .ok a ∧ s' = s := by
  rw [pureHalt_run] at h
  obtain ⟨hy, rfl⟩ := Prod.mk.inj h
  cases y with
  | error e => simp [Except.map] at hy
  | ok b =>
    simp only [Except.map, Except.ok.injEq] at hy
    exact ⟨congrArg _ hy, rfl⟩

theorem cycle_pure_ok_inv {b a : α} (h : (pure b : CycleM (StateM σ) α).run.run.run s = (.ok (.ok a), s')) :
    a = b ∧ s' = s := by
  obtain ⟨hb, rfl⟩ := Prod.mk.inj h
  simp only [Except.ok.injEq] at hb
  exact ⟨hb.symm, rfl⟩

end Run

/-! ### Programs that keep a view when they fail -/

section Failure

variable {σ β α γ : Type} {v : σ → β} {x : CycleM (StateM σ) α}

/-- Every run of `x` that does not succeed leaves the view `v` as it found it. -/
def KeepsOnFailure (v : σ → β) (x : CycleM (StateM σ) α) : Prop :=
  ∀ s, (∀ a, (x.run.run.run s).1 ≠ .ok (.ok a)) → v (x.run.run.run s).2 = v s

theorem Keeps.onFailure (hx : Keeps v x.run.run) : KeepsOnFailure v x := fun s _ => hx s

theorem KeepsOnFailure.bind {f : α → CycleM (StateM σ) γ} (hx : Keeps v x.run.run)
    (hf : ∀ a, KeepsOnFailure v (f a)) : KeepsOnFailure v (x >>= f) := by
  intro s hfail
  have hs := hx s
  rcases hrun : x.run.run.run s with ⟨rx, s₁⟩
  rw [hrun] at hs
  rcases rx with e | e | a
  · rw [cycle_bind_halt hrun]
    exact hs
  · rw [cycle_bind_fault hrun]
    exact hs
  · rw [cycle_bind_ok hrun] at hfail ⊢
    exact (hf a s₁ hfail).trans hs

theorem KeepsOnFailure.bind_pure (hx : KeepsOnFailure v x) (g : α → γ) :
    KeepsOnFailure v (x >>= fun a => pure (g a)) := by
  intro s hfail
  have hs := hx s
  rcases hrun : x.run.run.run s with ⟨rx, s₁⟩
  rw [hrun] at hs
  rcases rx with e | e | a
  · rw [cycle_bind_halt hrun]
    exact hs fun _ h => nomatch h
  · rw [cycle_bind_fault hrun]
    exact hs fun _ h => nomatch h
  · rw [cycle_bind_ok hrun] at hfail
    exact absurd rfl (hfail (g a))

end Failure

end FleetTelemetry
