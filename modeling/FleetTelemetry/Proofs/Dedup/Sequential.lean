import FleetTelemetry.Dedup
import FleetTelemetry.Proofs.Store.Recall

/-!
# The filter over a store that recalls

Over a store that recalls (`Recalls`), every step of the filter is a pure function of what it
reads. `verdict` is the decision of `decide` on what the filter sees; what it sees is the planned
writes first and the store's content after them (`seen`). Evaluating observations one at a time
is then `verdicts`: each verdict is taken on the content the writes of the earlier ones left
(`written`).

The main results are the run lemmas: `decide` reads and writes nothing, `apply` makes its writes
in order, and `mapM evaluate` answers the decisions of `verdicts` and leaves the world that
their writes, made one after another, leave.
-/

namespace FleetTelemetry

namespace DedupFilter

variable {m : Type → Type} (f : DedupFilter m)

/-! ### Verdicts on what the filter sees -/

/-- The verdict of `decide` when the state of a device under an action is `look action device`. -/
def verdict (look : String → String → Option DeviceState) (o : Observation) :
    Decision × List StateWrite :=
  let main : StateWrite := ⟨pullActionId, o.source, { status := o.status }, none⟩
  let forwardWith (reason : ForwardReason) : Decision × List StateWrite :=
    (.forward reason, if f.config.isQuiet o.status then [main, f.quietEntry o] else [main])
  match look pullActionId o.source with
  | none => forwardWith .firstSeen
  | some previous =>
    if previous.status != o.status then forwardWith .statusChanged
    else if f.config.isQuiet o.status then
      (match (look (quietActionId o.status) o.source).bind (·.recordedAt) with
        | some t => if t == o.recordedAtIso then .suppress .quietPeriodDuplicate
                    else .forward .quietPeriodNewTimestamp
        | none => .forward .quietPeriodNewTimestamp, [f.quietEntry o])
    else (.suppress .statusUnchanged, [])

/-- What the filter sees under an action: a planned state first, else the content. -/
def seen (pending : Pending) (read : StateKey → Option DeviceState) (action source : String) :
    Option DeviceState :=
  (pending.lookup (action, source)).or (read ⟨f.integrationId, action, source⟩)

/-- The content after the filter's writes, made in order. -/
def written (read : StateKey → Option DeviceState) (ws : List StateWrite) :
    StateKey → Option DeviceState :=
  ws.foldl (fun r w => Function.update r ⟨f.integrationId, w.actionId, w.sourceId⟩ (some w.state))
    read

/-- Evaluating observations one at a time: each verdict, taken on the content the writes of the
earlier ones left. -/
def verdicts (read : StateKey → Option DeviceState) : List Observation → List (Decision × List StateWrite)
  | [] => []
  | o :: os =>
    let v := f.verdict (f.seen [] read) o
    v :: verdicts (f.written read v.2) os

/-- A write the store is asked to recall: with no time to live or with the quiet period. -/
def Timed (w : StateWrite) : Prop := w.ttl = none ∨ w.ttl = some f.config.quietPeriod

@[simp] theorem seen_nil (read : StateKey → Option DeviceState) (action source : String) :
    f.seen [] read action source = read ⟨f.integrationId, action, source⟩ := rfl

@[simp] theorem written_nil (read : StateKey → Option DeviceState) : f.written read [] = read := rfl

theorem written_append (read : StateKey → Option DeviceState) (ws ws' : List StateWrite) :
    f.written read (ws ++ ws') = f.written (f.written read ws) ws' := by
  simp only [written, List.foldl_append]

/-- What a verdict writes, whatever it decides: the device's status unless that status is stored
already, then the quiet entry of a quiet status. -/
theorem verdict_writes_eq (look : String → String → Option DeviceState) (o : Observation) :
    (f.verdict look o).2 =
      (if (look pullActionId o.source).map (·.status) = some o.status then []
        else [⟨pullActionId, o.source, { status := o.status }, none⟩]) ++
      (if f.config.isQuiet o.status then [f.quietEntry o] else []) := by
  cases hl : look pullActionId o.source with
  | none => by_cases hq : f.config.isQuiet o.status = true <;> simp [verdict, hl, hq]
  | some previous =>
    by_cases hs : previous.status = o.status <;> by_cases hq : f.config.isQuiet o.status = true <;>
      simp [verdict, hl, hs, hq]

theorem verdict_writes_cases (look : String → String → Option DeviceState) (o : Observation) :
    ∀ w ∈ (f.verdict look o).2, w = ⟨pullActionId, o.source, { status := o.status }, none⟩ ∨
      (f.config.isQuiet o.status = true ∧ w = f.quietEntry o) := by
  intro w hw
  rw [f.verdict_writes_eq] at hw
  rcases List.mem_append.mp hw with hw | hw
  · by_cases hs : (look pullActionId o.source).map (·.status) = some o.status
    · simp [hs] at hw
    · simp only [hs, if_false, List.mem_singleton] at hw
      exact .inl hw
  · by_cases hq : f.config.isQuiet o.status = true
    · simp only [hq, if_true, List.mem_singleton] at hw
      exact .inr ⟨hq, hw⟩
    · simp [hq] at hw

theorem verdict_timed (look : String → String → Option DeviceState) (o : Observation) :
    ∀ w ∈ (f.verdict look o).2, f.Timed w := by
  intro w hw
  rcases f.verdict_writes_cases look o w hw with rfl | ⟨-, rfl⟩
  · exact .inl rfl
  · exact .inr rfl

/-! ### Runs over a store that recalls -/

section Recall

variable {σ : Type} (f : DedupFilter (StateM σ)) {read : σ → StateKey → Option DeviceState}

/-- The world after the filter's writes, made one after another. -/
def afterWrites (s : σ) (ws : List StateWrite) : σ :=
  ws.foldl (fun s w => ((f.store.set ⟨f.integrationId, w.actionId, w.sourceId⟩ w.state w.ttl).run s).2) s

theorem afterWrites_append (s : σ) (ws ws' : List StateWrite) :
    f.afterWrites s (ws ++ ws') = f.afterWrites (f.afterWrites s ws) ws' := by
  simp only [afterWrites, List.foldl_append]

variable (hr : Recalls f.store read f.config.quietPeriod)
include hr

theorem lookup_run (pending : Pending) (action source : String) (s : σ) :
    (f.lookup pending action source).run.run s = (.ok (f.seen pending (read s) action source), s) := by
  unfold lookup seen
  cases pending.lookup (action, source) with
  | some d => rfl
  | none => exact hr.get_run _ s

theorem decide_run (o : Observation) (pending : Pending) (s : σ) :
    (f.decide o pending).run.run s = (.ok (f.verdict (f.seen pending (read s)) o), s) := by
  unfold decide verdict
  rw [run_bind_ok (f.lookup_run hr pending pullActionId o.source s)]
  cases f.seen pending (read s) pullActionId o.source with
  | none => rfl
  | some previous =>
    dsimp only
    split
    · rfl
    · split
      · rw [run_bind_ok (f.lookup_run hr pending _ o.source s)]
        rfl
      · rfl

theorem apply_run (ws : List StateWrite) (s : σ) :
    (f.apply ws).run.run s = (.ok (), f.afterWrites s ws) := by
  induction ws generalizing s with
  | nil => rfl
  | cons w ws ih =>
    have hset := hr.set_ok ⟨f.integrationId, w.actionId, w.sourceId⟩ w.state w.ttl s
    have hcall : (call (f.store.set ⟨f.integrationId, w.actionId, w.sourceId⟩ w.state w.ttl)).run.run s =
        (.ok (), ((f.store.set ⟨f.integrationId, w.actionId, w.sourceId⟩ w.state w.ttl).run s).2) :=
      Prod.ext hset rfl
    simp only [apply]
    rw [run_bind_ok hcall, ih]
    rfl

theorem read_afterWrites (s : σ) (ws : List StateWrite) (hw : ∀ w ∈ ws, f.Timed w) :
    read (f.afterWrites s ws) = f.written (read s) ws := by
  induction ws generalizing s with
  | nil => rfl
  | cons w ws ih =>
    have hhead := hr.read_set ⟨f.integrationId, w.actionId, w.sourceId⟩ w.state w.ttl s
      (hw w (List.mem_cons_self ..))
    have htail := ih (((f.store.set ⟨f.integrationId, w.actionId, w.sourceId⟩ w.state w.ttl).run s).2)
      (fun w' h' => hw w' (List.mem_cons_of_mem _ h'))
    simp only [afterWrites, written, List.foldl_cons] at htail hhead ⊢
    rw [htail, hhead]

theorem evaluate_run (o : Observation) (s : σ) :
    (f.evaluate o).run.run s =
      (.ok (f.verdict (f.seen [] (read s)) o).1, f.afterWrites s (f.verdict (f.seen [] (read s)) o).2) := by
  unfold evaluate
  rw [run_bind_ok (f.decide_run hr o [] s)]
  dsimp only
  rw [run_bind_ok (f.apply_run hr _ s)]
  rfl

/-- Evaluating observations one at a time answers the decisions of `verdicts` and leaves the
world after all their writes, in order. -/
theorem mapM_evaluate_run (os : List Observation) (s : σ) :
    (os.mapM f.evaluate).run.run s =
      (.ok ((f.verdicts (read s) os).map (·.1)), f.afterWrites s ((f.verdicts (read s) os).flatMap (·.2))) := by
  induction os generalizing s with
  | nil => rfl
  | cons o os ih =>
    have hread := f.read_afterWrites hr s _ (f.verdict_timed (f.seen [] (read s)) o)
    simp only [List.mapM_cons]
    rw [run_bind_ok (f.evaluate_run hr o s), run_bind_ok (ih _), hread]
    simp only [verdicts, List.map_cons, List.flatMap_cons, f.afterWrites_append]
    rfl

end Recall

end DedupFilter

end FleetTelemetry
