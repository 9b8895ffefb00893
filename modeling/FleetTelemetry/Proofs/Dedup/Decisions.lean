import FleetTelemetry.Proofs.Dedup.Bundles

/-!
# A plan bundles the decisions over its page

`plan` decides the observations of a page one after another, each against the writes owed by the
ones before it (`DedupFilter.decisions`), and bundles what it decided: each forwarded observation
takes the writes owed since the previous forward, its own last, and what follows the last forward
is owed as trailing writes (`DedupPlan.bundle`). `plan_eq_bundle` says so in every monad, for
every store.

The shape of a bundled plan is `DedupPlan.Bundles`, stated with `List.splitOnP`: cut at its
forwarded observations, a page falls into runs of suppressed ones; bundle `i` holds the writes of
run `i` and then those of the `i`-th forwarded observation, and the last run is trailing. A
suppressed observation owes at most the refresh of its quiet report time
(`decide_run_suppressed`), so the writes in front of a bundle are quiet refreshes only.
`plan_bundles_decisions` gathers this for the plan a run of `plan` returns, with the writes due
for a range of forwarded observations.
-/

namespace FleetTelemetry

namespace DedupFilter

variable {m : Type → Type} [Monad m]

/-- The decisions taken over a page, in order: each observation decided against the writes owed
by the observations before it. -/
def decisions (f : DedupFilter m) (pending : Pending) :
    List Observation → ExceptT StoreFault m (List (Decision × List StateWrite))
  | [] => pure []
  | o :: os => do
    let v ← f.decide o pending
    let vs ← f.decisions (v.2.foldl Pending.note pending) os
    pure (v :: vs)

end DedupFilter

namespace DedupPlan

/-- The plan bundling decided observations, the writes `owed` still waiting for the next forward:
each forwarded observation takes the writes owed since the previous one, its own last; the writes
after the last one are trailing. -/
def bundle (owed : List StateWrite) : List (Observation × Decision × List StateWrite) → DedupPlan
  | [] => { trailing := owed }
  | x :: ds =>
    if x.2.1.isForward then
      let rest := bundle [] ds
      { rest with forwarded := x.1 :: rest.forwarded, writes := (owed ++ x.2.2) :: rest.writes }
    else bundle (owed ++ x.2.2) ds

/-- How a plan bundles the decisions `ds` taken over its page, in order: it forwards the forwarded
observations; the writes it owes for each are those of the observations suppressed since the
previous forward and then its own; its trailing writes are those of the observations after the
last forward. -/
structure Bundles (p : DedupPlan) (ds : List (Observation × Decision × List StateWrite)) : Prop where
  forwarded : p.forwarded = (ds.filter (·.2.1.isForward)).map (·.1)
  writes : p.writes = List.zipWith (fun run x => run.flatMap (·.2.2) ++ x.2.2)
    (ds.splitOnP (·.2.1.isForward)) (ds.filter (·.2.1.isForward))
  trailing : p.trailing = ((ds.splitOnP (·.2.1.isForward)).getLastD []).flatMap (·.2.2)

section Bundle

variable (owed : List StateWrite) (ds : List (Observation × Decision × List StateWrite))

theorem bundle_writes_length : (bundle owed ds).writes.length = (bundle owed ds).forwarded.length := by
  induction ds generalizing owed with
  | nil => rfl
  | cons x ds ih =>
    simp only [bundle]
    cases x.2.1.isForward <;> simp [ih]

theorem bundle_flatten :
    (bundle owed ds).writes.flatten ++ (bundle owed ds).trailing = owed ++ ds.flatMap (·.2.2) := by
  induction ds generalizing owed with
  | nil => simp [bundle]
  | cons x ds ih =>
    simp only [bundle]
    cases x.2.1.isForward <;> simp [ih]

/-- The invariant of the bundling: the writes owed are those of the decisions `acc` since the
last forward, and `splitOnPPrepend` keeps `acc` in front of the first run. -/
theorem bundle_runs (acc : List (Observation × Decision × List StateWrite)) :
    (bundle (acc.flatMap (·.2.2)) ds).forwarded = (ds.filter (·.2.1.isForward)).map (·.1) ∧
      (bundle (acc.flatMap (·.2.2)) ds).writes =
        List.zipWith (fun run x => run.flatMap (·.2.2) ++ x.2.2)
          (ds.splitOnPPrepend (·.2.1.isForward) acc.reverse) (ds.filter (·.2.1.isForward)) ∧
      (bundle (acc.flatMap (·.2.2)) ds).trailing =
        ((ds.splitOnPPrepend (·.2.1.isForward) acc.reverse).getLastD []).flatMap (·.2.2) := by
  induction ds generalizing acc with
  | nil => simp [bundle]
  | cons x ds ih =>
    cases hx : x.2.1.isForward
    · -- suppressed: it joins the run owed to the next forward
      have hacc : acc.flatMap (·.2.2) ++ x.2.2 = (acc ++ [x]).flatMap (·.2.2) := by simp
      simp only [bundle, hx, Bool.false_eq_true, if_false, hacc, List.filter_cons,
        List.splitOnPPrepend_cons_eq_if]
      simpa using ih (acc ++ [x])
    · -- forwarded: it closes the run
      obtain ⟨hf, hw, ht⟩ := ih []
      simp only [List.flatMap_nil, List.reverse_nil] at hf hw ht
      -- the runs after it are never none, so the trailing run is still the last one
      obtain ⟨r, rs, hrs⟩ := List.exists_cons_of_ne_nil (List.splitOnP_ne_nil (·.2.1.isForward) ds)
      simp [bundle, hx, List.splitOnPPrepend_cons_eq_if, hf, hw, ht, hrs]

theorem bundle_bundles : (bundle [] ds).Bundles ds := by
  obtain ⟨hf, hw, ht⟩ := bundle_runs ds []
  exact ⟨hf, hw, ht⟩

end Bundle

theorem take_drop_eq_map_range' {α : Type} (l : List α) (d : α) :
    ∀ (a k : Nat), a + k ≤ l.length → (l.drop a).take k = (List.range' a k).map (l.getD · d)
  | _, 0, _ => rfl
  | a, k + 1, h => by
    have ha : a < l.length := by omega
    rw [List.drop_eq_getElem_cons ha, List.take_succ_cons, List.range'_succ, List.map_cons,
      take_drop_eq_map_range' l d (a + 1) k (by omega), List.getElem_eq_getD d]

/-- In range, the writes due for the forwarded observations `a` to `b - 1` are their bundles, one
after another. -/
theorem writesFor_eq (p : DedupPlan) {a b : Nat} (hab : a ≤ b) (hb : b ≤ p.writes.length) :
    p.writesFor a b = (List.range' a (b - a)).flatMap (p.writes.getD · []) := by
  rw [writesFor, if_pos ⟨hab, hb⟩, take_drop_eq_map_range' p.writes [] a (b - a) (by omega),
    List.flatMap_def]

end DedupPlan

/-! ### Planning is deciding, then bundling -/

namespace DedupFilter

variable {m : Type → Type} [Monad m] [LawfulMonad m] (f : DedupFilter m)

theorem planFrom_eq_bundle (os : List Observation) (plan : DedupPlan) (pending : Pending)
    (owed : List StateWrite) :
    f.planFrom plan pending owed os =
      (fun vs => plan.andThen (DedupPlan.bundle owed (os.zip vs))) <$> f.decisions pending os := by
  induction os generalizing plan pending owed with
  | nil => simp [planFrom, decisions, DedupPlan.bundle, DedupPlan.andThen]
  | cons o os ih =>
    simp only [planFrom, decisions, map_bind, map_pure]
    congr 1
    funext v
    obtain ⟨d, ws⟩ := v
    cases hd : d.isForward
    · simp [ih, hd, DedupPlan.bundle]
    · simp [ih, hd, DedupPlan.bundle, DedupPlan.andThen]

/-- In every monad and over every store, planning a page decides its observations and bundles the
decisions. -/
theorem plan_eq_bundle (os : List Observation) :
    f.plan os = (fun vs => DedupPlan.bundle [] (os.zip vs)) <$> f.decisions [] os := by
  simp [plan, f.planFrom_eq_bundle, DedupPlan.andThen]

end DedupFilter

/-! ### Runs over any store -/

section Run

variable {σ ε α β : Type}

theorem run_bind_ok_inv {x : ExceptT ε (StateM σ) α} {g : α → ExceptT ε (StateM σ) β} {s s' : σ}
    {b : β} (h : (x >>= g).run.run s = (.ok b, s')) :
    ∃ a s₁, x.run.run s = (.ok a, s₁) ∧ (g a).run.run s₁ = (.ok b, s') := by
  rcases hx : x.run.run s with ⟨_ | a, s₁⟩
  · rw [run_bind_error hx] at h
    cases h
  · exact ⟨a, s₁, rfl, (run_bind_ok hx).symm.trans h⟩

theorem run_pure_ok_inv {a b : α} {s s' : σ}
    (h : (pure a : ExceptT ε (StateM σ) α).run.run s = (.ok b, s')) : a = b ∧ s = s' := by
  rw [run_pure_run] at h
  obtain ⟨hb, hs⟩ := Prod.mk.inj h
  exact ⟨Except.ok.inj hb, hs⟩

theorem run_map_ok_inv {x : ExceptT ε (StateM σ) α} {g : α → β} {s s' : σ} {b : β}
    (h : (g <$> x).run.run s = (.ok b, s')) : ∃ a, x.run.run s = (.ok a, s') ∧ g a = b := by
  rw [← bind_pure_comp] at h
  obtain ⟨a, s₁, hx, hg⟩ := run_bind_ok_inv h
  obtain ⟨hb, rfl⟩ := run_pure_ok_inv hg
  exact ⟨a, hx, hb⟩

end Run

namespace DedupFilter

variable {σ : Type} (f : DedupFilter (StateM σ))

/-- A suppressed observation owes at most the refresh of its quiet report time, whatever the store
answers. -/
theorem decide_run_suppressed {o : Observation} {pending : Pending} {s s' : σ}
    {v : Decision × List StateWrite} (h : (f.decide o pending).run.run s = (.ok v, s'))
    (hd : v.1.isForward = false) : ∀ w ∈ v.2, w = f.quietEntry o := by
  unfold decide at h
  obtain ⟨stored, s₁, -, h⟩ := run_bind_ok_inv h
  cases stored with
  | none =>
    obtain ⟨rfl, -⟩ := run_pure_ok_inv h
    cases hd
  | some previous =>
    dsimp only at h
    by_cases hs : (previous.status != o.status) = true
    · rw [if_pos hs] at h
      obtain ⟨rfl, -⟩ := run_pure_ok_inv h
      cases hd
    · rw [if_neg hs] at h
      by_cases hq : f.config.isQuiet o.status = true
      · -- an unchanged quiet status refreshes its report time, forwarded or not
        rw [if_pos hq] at h
        obtain ⟨seen, s₂, -, h⟩ := run_bind_ok_inv h
        obtain ⟨rfl, -⟩ := run_pure_ok_inv h
        simp
      · rw [if_neg hq] at h
        obtain ⟨rfl, -⟩ := run_pure_ok_inv h
        simp

theorem decisions_run_inv {pending : Pending} {os : List Observation} {s s' : σ}
    {vs : List (Decision × List StateWrite)} (h : (f.decisions pending os).run.run s = (.ok vs, s')) :
    vs.length = os.length ∧
      ∀ x ∈ os.zip vs, x.2.1.isForward = false → ∀ w ∈ x.2.2, w = f.quietEntry x.1 := by
  induction os generalizing pending s vs with
  | nil =>
    obtain ⟨rfl, -⟩ := run_pure_ok_inv h
    simp
  | cons o os ih =>
    obtain ⟨v, s₁, hv, h⟩ := run_bind_ok_inv h
    obtain ⟨rest, s₂, hrest, h⟩ := run_bind_ok_inv h
    obtain ⟨rfl, rfl⟩ := run_pure_ok_inv h
    obtain ⟨hlen, hquiet⟩ := ih hrest
    refine ⟨by simp [hlen], ?_⟩
    intro x hx
    rcases List.mem_cons.mp hx with rfl | hx
    · exact f.decide_run_suppressed hv
    · exact hquiet x hx

/-- Over every store, the plan a run of `plan` returns is read off the decisions taken over the
page, one per observation: one bundle of writes per forwarded observation; the bundles and the
trailing writes, in order, are the writes of the decisions in input order; each bundle holds the
quiet refreshes of the observations suppressed since the previous forward and then the writes of
its forwarded observation; and the writes due for the forwarded observations `a` to `b - 1` are
their bundles, one after another. -/
theorem plan_bundles_decisions (os : List Observation) (s : σ) {p : DedupPlan} {s' : σ}
    (h : (f.plan os).run.run s = (.ok p, s')) :
    ∃ vs, (f.decisions [] os).run.run s = (.ok vs, s') ∧ vs.length = os.length ∧
      p.writes.length = p.forwarded.length ∧
      p.writes.flatten ++ p.trailing = vs.flatMap (·.2) ∧
      p.Bundles (os.zip vs) ∧
      (∀ x ∈ os.zip vs, x.2.1.isForward = false → ∀ w ∈ x.2.2, w = f.quietEntry x.1) ∧
      ∀ a b, a ≤ b → b ≤ p.len → p.writesFor a b = (List.range' a (b - a)).flatMap (p.writes.getD · []) := by
  rw [plan_eq_bundle] at h
  obtain ⟨vs, hvs, rfl⟩ := run_map_ok_inv h
  obtain ⟨hlen, hquiet⟩ := f.decisions_run_inv hvs
  have hzip : (os.zip vs).map (·.2) = vs := List.map_snd_zip (by omega)
  refine ⟨vs, hvs, hlen, DedupPlan.bundle_writes_length _ _, ?_, DedupPlan.bundle_bundles _, hquiet, ?_⟩
  · rw [DedupPlan.bundle_flatten, List.nil_append]
    conv => rhs; rw [← hzip]
    rw [List.flatMap_map]
  · intro a b hab hb
    rw [DedupPlan.len, ← DedupPlan.bundle_writes_length] at hb
    exact DedupPlan.writesFor_eq _ hab hb

end DedupFilter

/-- A parked truck and a moving one, each reporting again with nothing new, and the parked one a
third time. -/
def idlePage : List Observation :=
  [statusReport "s1" "Off", statusReport "s1" "Off", statusReport "s2" "Moving",
    statusReport "s2" "Moving", statusReport "s1" "Off"]

theorem plan_bundles_decisions_epoch :
    ∃ p s', (epochFilter.plan idlePage).run.run {} = (.ok p, s') ∧
      ∃ vs, (epochFilter.decisions [] idlePage).run.run {} = (.ok vs, s') ∧
        vs.length = idlePage.length ∧
        p.writes.length = p.forwarded.length ∧
        p.writes.flatten ++ p.trailing = vs.flatMap (·.2) ∧
        p.Bundles (idlePage.zip vs) ∧
        (∀ x ∈ idlePage.zip vs, x.2.1.isForward = false → ∀ w ∈ x.2.2, w = epochFilter.quietEntry x.1) ∧
        ∀ a b, a ≤ b → b ≤ p.len →
          p.writesFor a b = (List.range' a (b - a)).flatMap (p.writes.getD · []) :=
  ⟨_, _, epochFilter.plan_planned (StateTable.store_recalls _ _ (by decide)) idlePage {},
    DedupFilter.plan_bundles_decisions epochFilter idlePage {}
      (epochFilter.plan_planned (StateTable.store_recalls _ _ (by decide)) idlePage {})⟩

end FleetTelemetry
