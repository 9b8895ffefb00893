import FleetTelemetry.Proofs.Dedup.Replay
import Mathlib.Data.List.Induction

/-!
# What filtering a page leaves in the store

A verdict on an observation writes at most two entries of its device: the status entry, when the
observation is forwarded, and the entry of its quiet action, when its status is quiet
(`Touches`). So filtering a page changes nothing outside the entries its observations touch
(`after_untouched`).

What it leaves there depends only on the page's last observations, whatever was decided before
them. The status entry of a device keeps what it held when every observation of the device in
the page carries that status (`Settled`), and otherwise holds the status of the device's last
observation (`after_pull`). The entry of a quiet action holds the status and report time of the
last quiet observation of the device kept under that action (`after_quiet`). Filtering the page
a second time therefore leaves every entry as the first pass left it (`after_after`); only the
quiet entries are written again, with a new time to live.
-/

namespace FleetTelemetry

/-- The last observation of a device in a page whose status is quiet and kept under `action`. -/
def DedupConfig.lastQuietReport (c : DedupConfig) (L : List Observation) (device action : String) :
    Option Observation :=
  (L.filter fun o => o.source == device && c.isQuiet o.status && quietActionId o.status == action).getLast?

theorem DedupConfig.lastQuietReport_snoc (c : DedupConfig) (L : List Observation) (o : Observation)
    (device action : String) :
    c.lastQuietReport (L ++ [o]) device action =
      if o.source = device ∧ c.isQuiet o.status = true ∧ quietActionId o.status = action then some o
      else c.lastQuietReport L device action := by
  by_cases h : o.source = device ∧ c.isQuiet o.status = true ∧ quietActionId o.status = action
  · obtain ⟨h₁, h₂, h₃⟩ := h
    simp [lastQuietReport, List.filter_append, h₁, h₂, h₃]
  · rw [if_neg h]
    have hf : (o.source == device && c.isQuiet o.status && quietActionId o.status == action) = false := by
      simpa [Bool.and_eq_true, and_assoc] using h
    simp [lastQuietReport, List.filter_append, hf]

theorem lastReport_mem {L : List Observation} {device : String} {o : Observation}
    (h : lastReport L device = some o) : o ∈ L ∧ o.source = device := by
  have hmem := List.mem_of_getLast? h
  simp only [List.mem_filter, beq_iff_eq] at hmem
  exact hmem

namespace DedupFilter

variable {m : Type → Type} (f : DedupFilter m)

/-- The entries a verdict on `o` may write: the status entry of its device and, for a quiet
status, the entry of the status's quiet action. -/
def Touches (o : Observation) (k : StateKey) : Prop :=
  k = ⟨f.integrationId, pullActionId, o.source⟩ ∨
    (f.config.isQuiet o.status = true ∧ k = ⟨f.integrationId, quietActionId o.status, o.source⟩)

theorem quietActionId_of_lastQuietReport {L : List Observation} {device action : String} {o : Observation}
    (h : f.config.lastQuietReport L device action = some o) : quietActionId o.status = action := by
  have hmem := List.mem_of_getLast? h
  simp only [List.mem_filter, Bool.and_eq_true, beq_iff_eq] at hmem
  exact hmem.2.2

/-! ### One verdict -/

theorem verdict_writes_source (look : String → String → Option DeviceState) (o : Observation) :
    ∀ w ∈ (f.verdict look o).2, w.sourceId = o.source := by
  intro w hw
  rcases f.verdict_writes_cases look o w hw with rfl | ⟨-, rfl⟩ <;> rfl

theorem written_of_untouched (r : StateKey → Option DeviceState) (ws : List StateWrite) (k : StateKey)
    (hk : ∀ w ∈ ws, (⟨f.integrationId, w.actionId, w.sourceId⟩ : StateKey) ≠ k) : f.written r ws k = r k := by
  induction ws generalizing r with
  | nil => rfl
  | cons w ws ih =>
    simp only [written, List.foldl_cons] at ih ⊢
    rw [ih _ (fun w' h' => hk w' (List.mem_cons_of_mem _ h')),
      Function.update_of_ne (Ne.symm (hk w List.mem_cons_self))]

theorem written_verdict_other (r : StateKey → Option DeviceState) (o : Observation) {device : String}
    (hd : o.source ≠ device) (integration action : String) :
    f.written r (f.verdict (f.seen [] r) o).2 ⟨integration, action, device⟩ = r ⟨integration, action, device⟩ :=
  f.written_other r _ o.source (f.verdict_writes_source _ o) _ (Ne.symm hd)

/-! ### A page, observation after observation -/

theorem after_snoc (r : StateKey → Option DeviceState) (L : List Observation) (o : Observation) :
    f.after r (L ++ [o]) = f.written (f.after r L) (f.verdict (f.seen [] (f.after r L)) o).2 := by
  rw [after_append]
  rfl

theorem after_untouched (r : StateKey → Option DeviceState) (L : List Observation) (k : StateKey)
    (hk : ∀ o ∈ L, ¬ f.Touches o k) : f.after r L k = r k := by
  induction L using List.reverseRecOn with
  | nil => rfl
  | append_singleton L o ih =>
    have hwrites : ∀ w ∈ (f.verdict (f.seen [] (f.after r L)) o).2,
        (⟨f.integrationId, w.actionId, w.sourceId⟩ : StateKey) ≠ k := by
      intro w hw hkey
      apply hk o (List.mem_append_right _ (List.mem_singleton_self o))
      rcases f.verdict_writes_cases _ o w hw with rfl | ⟨hq, rfl⟩
      · exact .inl hkey.symm
      · exact .inr ⟨hq, hkey.symm⟩
    rw [after_snoc, f.written_of_untouched _ _ k hwrites,
      ih fun o' h' => hk o' (List.mem_append_left _ h')]

/-- Every observation of the device in the page carries the status the content holds for it, so
the page never changes the device's status. -/
def Settled (r : StateKey → Option DeviceState) (L : List Observation) (device : String) : Prop :=
  ∀ o ∈ L, o.source = device → (r ⟨f.integrationId, pullActionId, device⟩).map (·.status) = some o.status

theorem settled_snoc (r : StateKey → Option DeviceState) (L : List Observation) (o : Observation)
    (device : String) :
    f.Settled r (L ++ [o]) device ↔ f.Settled r L device ∧
      (o.source = device → (r ⟨f.integrationId, pullActionId, device⟩).map (·.status) = some o.status) := by
  simp only [Settled, List.forall_mem_append, List.forall_mem_singleton]

/-- The status entry of a device after a page: as it was when the page never changes the
device's status, else the status of the device's last observation. -/
theorem after_pull (r : StateKey → Option DeviceState) (L : List Observation) (device : String) :
    (f.Settled r L device →
      f.after r L ⟨f.integrationId, pullActionId, device⟩ = r ⟨f.integrationId, pullActionId, device⟩) ∧
    (¬ f.Settled r L device → ∃ o, lastReport L device = some o ∧
      f.after r L ⟨f.integrationId, pullActionId, device⟩ = some { status := o.status }) := by
  induction L using List.reverseRecOn with
  | nil => exact ⟨fun _ => rfl, fun h => absurd (fun o ho => absurd ho List.not_mem_nil) h⟩
  | append_singleton L o ih =>
    obtain ⟨ihs, ihn⟩ := ih
    rw [after_snoc, lastReport_snoc, settled_snoc]
    by_cases hsrc : o.source = device
    · subst hsrc
      rw [f.written_verdict_pull, if_pos rfl]
      refine ⟨fun ⟨hs, ho⟩ => ?_, fun hns => ⟨o, rfl, ?_⟩⟩
      · rw [ihs hs, if_pos (ho rfl)]
      · split
        · next hsame =>
          -- the entry holds `o`'s status already: the page changed it before, so it holds the
          -- status alone
          by_cases hs : f.Settled r L o.source
          · rw [ihs hs] at hsame
            exact absurd ⟨hs, fun _ => hsame⟩ hns
          · obtain ⟨o', -, h'⟩ := ihn hs
            rw [h'] at hsame ⊢
            simp only [Option.map_some, Option.some.injEq] at hsame
            rw [hsame]
        · rfl
    · rw [f.written_verdict_other _ o hsrc, if_neg hsrc]
      exact ⟨fun ⟨hs, _⟩ => ihs hs, fun hns => ihn fun hs => hns ⟨hs, fun h => absurd h hsrc⟩⟩

theorem after_pull_status (r : StateKey → Option DeviceState) (L : List Observation) (device : String)
    (o : Observation) (hlast : lastReport L device = some o) :
    (f.after r L ⟨f.integrationId, pullActionId, device⟩).map (·.status) = some o.status := by
  by_cases hs : f.Settled r L device
  · obtain ⟨hmem, hsrc⟩ := lastReport_mem hlast
    rw [(f.after_pull r L device).1 hs]
    exact hs o hmem hsrc
  · obtain ⟨o', hlast', h⟩ := (f.after_pull r L device).2 hs
    rw [hlast, Option.some.injEq] at hlast'
    rw [h, hlast']
    rfl

/-- The entry of a quiet action after a page: the quiet entry of the device's last observation
kept under it, or as it was when there is none. -/
theorem after_quiet (r : StateKey → Option DeviceState) (L : List Observation) {action : String}
    (ha : action ≠ pullActionId) (device : String) :
    f.after r L ⟨f.integrationId, action, device⟩ =
      ((f.config.lastQuietReport L device action).map fun o => (f.quietEntry o).state).or
        (r ⟨f.integrationId, action, device⟩) := by
  induction L using List.reverseRecOn with
  | nil => rfl
  | append_singleton L o ih =>
    rw [after_snoc, DedupConfig.lastQuietReport_snoc]
    by_cases hsrc : o.source = device
    · subst hsrc
      rw [f.written_verdict_quiet _ o ha, ih]
      by_cases hq : f.config.isQuiet o.status = true ∧ quietActionId o.status = action
      · rw [if_pos hq, if_pos ⟨rfl, hq⟩]
        rfl
      · rw [if_neg hq, if_neg fun h => hq h.2]
    · rw [f.written_verdict_other _ o hsrc, ih, if_neg fun h => hsrc h.1]

theorem after_after (r : StateKey → Option DeviceState) (L : List Observation) :
    f.after (f.after r L) L = f.after r L := by
  funext k
  obtain ⟨integration, action, device⟩ := k
  by_cases hi : integration = f.integrationId
  · subst hi
    by_cases ha : action = pullActionId
    · subst ha
      -- a device the page never changes keeps its entry both times; any other ends both times
      -- with the status of its last observation
      by_cases hs : f.Settled r L device
      · have hkept := (f.after_pull r L device).1 hs
        have hs' : f.Settled (f.after r L) L device := by
          intro o ho hsrc
          rw [hkept]
          exact hs o ho hsrc
        rw [(f.after_pull _ L device).1 hs']
      · obtain ⟨o, hlast, hfirst⟩ := (f.after_pull r L device).2 hs
        by_cases hs' : f.Settled (f.after r L) L device
        · rw [(f.after_pull _ L device).1 hs']
        · obtain ⟨o', hlast', hsecond⟩ := (f.after_pull _ L device).2 hs'
          rw [hlast, Option.some.injEq] at hlast'
          rw [hsecond, hfirst, hlast']
    · rw [f.after_quiet _ L ha, f.after_quiet r L ha]
      cases f.config.lastQuietReport L device action <;> rfl
  · -- the entries of other integrations are not touched
    refine f.after_untouched _ L _ fun o _ ht => ?_
    rcases ht with h | ⟨-, h⟩ <;> exact hi (congrArg StateKey.integrationId h)

theorem verdicts_writes_cases (r : StateKey → Option DeviceState) (L : List Observation) :
    ∀ w ∈ (f.verdicts r L).flatMap (·.2),
      (∃ o ∈ L, w = ⟨pullActionId, o.source, { status := o.status }, none⟩) ∨
        ∃ o ∈ L, f.config.isQuiet o.status = true ∧ w = f.quietEntry o := by
  induction L generalizing r with
  | nil => simp [verdicts]
  | cons o L ih =>
    intro w hw
    simp only [verdicts, List.flatMap_cons, List.mem_append] at hw
    rcases hw with hw | hw
    · rcases f.verdict_writes_cases _ o w hw with rfl | ⟨hq, rfl⟩
      · exact .inl ⟨o, List.mem_cons_self, rfl⟩
      · exact .inr ⟨o, List.mem_cons_self, hq, rfl⟩
    · rcases ih _ w hw with ⟨o', ho', h⟩ | ⟨o', ho', hq, h⟩
      · exact .inl ⟨o', List.mem_cons_of_mem _ ho', h⟩
      · exact .inr ⟨o', List.mem_cons_of_mem _ ho', hq, h⟩

/-! ### Filtering a page over a store that recalls -/

section Filter

variable {σ : Type} (f : DedupFilter (StateM σ)) {read : σ → StateKey → Option DeviceState}

/-- Over a store in which no entry expires and that no one else writes, filtering a page makes
writes of two kinds only: the status of one of its observations with no time to live, and the
quiet entry of one of its quiet observations, with the quiet period as time to live. Only the
entries its observations touch change. Afterwards the status entry of each device of the page
holds the status of its last observation, and the entry of a quiet action holds the status and
report time of the device's last quiet observation kept under it. Filtering the page again
leaves every entry as it is. -/
theorem filter_leaves_last_reports (hr : Recalls f.store read f.config.quietPeriod)
    (L : List Observation) (s : σ) :
    ∃ (forwarded : List Observation) (ws : List StateWrite),
      (f.filter L).run.run s = (.ok forwarded, f.afterWrites s ws) ∧
      (∀ w ∈ ws, (∃ o ∈ L, w = ⟨pullActionId, o.source, { status := o.status }, none⟩) ∨
        ∃ o ∈ L, f.config.isQuiet o.status = true ∧ w = f.quietEntry o) ∧
      (∀ k, read (f.afterWrites s ws) k ≠ read s k → ∃ o ∈ L, f.Touches o k) ∧
      (∀ device o, lastReport L device = some o →
        (read (f.afterWrites s ws) ⟨f.integrationId, pullActionId, device⟩).map (·.status) =
          some o.status) ∧
      (∀ device action o, f.config.lastQuietReport L device action = some o →
        read (f.afterWrites s ws) ⟨f.integrationId, action, device⟩ = some (f.quietEntry o).state) ∧
      read ((f.filter L).run.run (f.afterWrites s ws)).2 = read (f.afterWrites s ws) := by
  have hleft : ∀ s, read (f.afterWrites s ((f.verdicts (read s) L).flatMap (·.2))) = f.after (read s) L :=
    fun s => by rw [f.read_afterWrites hr s _ (f.verdicts_timed _ L), ← f.after_eq_written]
  refine ⟨_, _, f.filter_run hr L s, f.verdicts_writes_cases _ L, ?_, ?_, ?_, ?_⟩
  · intro k hk
    rw [hleft] at hk
    by_contra hnone
    exact hk (f.after_untouched _ L k fun o ho ht => hnone ⟨o, ho, ht⟩)
  · intro device o hlast
    rw [hleft]
    exact f.after_pull_status _ L device o hlast
  · intro device action o hlast
    have ha : action ≠ pullActionId := by
      rw [← f.quietActionId_of_lastQuietReport hlast]
      exact Ne.symm (pullActionId_ne_quietActionId o.status)
    rw [hleft, f.after_quiet _ L ha, hlast]
    rfl
  · rw [f.filter_run hr L, hleft, hleft, f.after_after]

end Filter

end DedupFilter

def parkedPage : List Observation :=
  [statusReport "s1" "Off", statusReport "s1" "Moving", statusReport "s1" "Off"]

theorem filter_leaves_last_reports_parked :
    Recalls epochFilter.store (fun t k => t.get k ⟨0, 0⟩) epochFilter.config.quietPeriod ∧
      ∃ (forwarded : List Observation) (ws : List StateWrite),
        (epochFilter.filter parkedPage).run.run {} = (.ok forwarded, epochFilter.afterWrites {} ws) ∧
        (∀ w ∈ ws, (∃ o ∈ parkedPage, w = ⟨pullActionId, o.source, { status := o.status }, none⟩) ∨
          ∃ o ∈ parkedPage, epochFilter.config.isQuiet o.status = true ∧ w = epochFilter.quietEntry o) ∧
        (∀ k, (epochFilter.afterWrites {} ws).get k ⟨0, 0⟩ ≠ ({} : StateTable).get k ⟨0, 0⟩ →
          ∃ o ∈ parkedPage, epochFilter.Touches o k) ∧
        (∀ device o, lastReport parkedPage device = some o →
          ((epochFilter.afterWrites {} ws).get ⟨epochFilter.integrationId, pullActionId, device⟩ ⟨0, 0⟩).map
            (·.status) = some o.status) ∧
        (∀ device action o, epochFilter.config.lastQuietReport parkedPage device action = some o →
          (epochFilter.afterWrites {} ws).get ⟨epochFilter.integrationId, action, device⟩ ⟨0, 0⟩ =
            some (epochFilter.quietEntry o).state) ∧
        (fun k => ((epochFilter.filter parkedPage).run.run (epochFilter.afterWrites {} ws)).2.get k ⟨0, 0⟩) =
          fun k => (epochFilter.afterWrites {} ws).get k ⟨0, 0⟩ :=
  ⟨StateTable.store_recalls _ _ (by decide),
    DedupFilter.filter_leaves_last_reports epochFilter (StateTable.store_recalls _ _ (by decide)) _ {}⟩

end FleetTelemetry
