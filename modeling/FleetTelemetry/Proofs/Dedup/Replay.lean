import FleetTelemetry.Proofs.Dedup.Rule

/-!
# Evaluating a page again

A cycle that fails after some of its batches were delivered has written the states those batches
made due; the next cycle is given the same page again and evaluates the delivered observations a
second time. This module says what that second evaluation does.

A verdict reads little of the content: the status under the pull action and the report time
under a quiet action (`sight`). What an observation's verdict leaves in sight does not depend on
what it decides: its status under the pull action, and under its quiet action its report time
when its status is quiet (`sight_verdict`). Evaluating observations is therefore, as far as later
verdicts can tell, a sequence of assignments (`sight_after`), and assigning the same sequence
twice is assigning it once. So the content after evaluating a prefix twice looks to every later
verdict like the content after evaluating it once (`forwardedFrom_replay`): the rest of the page
is decided as before. When no device occurs twice in the prefix, its second evaluation forwards
nothing (`forwardedFrom_replay_distinct`): each of its observations finds its own status and
report time already in sight.
-/

namespace FleetTelemetry

/-! ### Assignments -/

section Assign

variable {α β : Type} [DecidableEq α]

/-- The function after the assignments `as`, made in order. -/
def assign (v : α → β) (as : List (α × β)) : α → β :=
  as.foldl (fun v a => Function.update v a.1 a.2) v

theorem assign_append (v : α → β) (as bs : List (α × β)) :
    assign v (as ++ bs) = assign (assign v as) bs := by
  simp only [assign, List.foldl_append]

theorem assign_of_not_mem (v : α → β) (as : List (α × β)) (k : α) (hk : k ∉ as.map Prod.fst) :
    assign v as k = v k := by
  induction as generalizing v with
  | nil => rfl
  | cons a as ih =>
    simp only [List.map_cons, List.mem_cons, not_or] at hk
    simp only [assign, List.foldl_cons] at ih ⊢
    rw [ih _ hk.2, Function.update_of_ne hk.1]

theorem assign_congr (v v' : α → β) (as : List (α × β)) (h : ∀ k ∉ as.map Prod.fst, v k = v' k) :
    assign v as = assign v' as := by
  induction as generalizing v v' with
  | nil => exact funext fun k => h k (by simp)
  | cons a as ih =>
    apply ih
    intro k hk
    by_cases hka : k = a.1
    · subst hka
      simp
    · have hout : k ∉ (a :: as).map Prod.fst := by simp [hka, hk]
      simp only [Function.update_of_ne hka, h k hout]

theorem assign_assign (v : α → β) (as : List (α × β)) : assign (assign v as) as = assign v as :=
  assign_congr _ _ as fun k hk => assign_of_not_mem v as k hk

end Assign

/-! ### What verdicts see -/

/-- What a verdict reads of an entry: under the pull action the status, under any other action
the report time. -/
def sightOf (action : String) (d : Option DeviceState) : Option String :=
  if action = pullActionId then d.map (·.status) else d.bind (·.recordedAt)

def sight (r : StateKey → Option DeviceState) (k : StateKey) : Option String := sightOf k.actionId (r k)

theorem sight_update (r : StateKey → Option DeviceState) (k : StateKey) (d : DeviceState) :
    sight (Function.update r k (some d)) = Function.update (sight r) k (sightOf k.actionId (some d)) := by
  funext k'
  by_cases h : k' = k
  · subst h
    simp [sight]
  · simp [sight, Function.update_of_ne h]

namespace DedupFilter

variable {m : Type → Type} (f : DedupFilter m)

/-- The content after evaluating observations one at a time. -/
def after (r : StateKey → Option DeviceState) : List Observation → StateKey → Option DeviceState
  | [] => r
  | o :: os => after (f.written r (f.verdict (f.seen [] r) o).2) os

/-- The observations that evaluating `os` one at a time on the content `r` forwards. -/
def forwardedFrom (r : StateKey → Option DeviceState) : List Observation → List Observation
  | [] => []
  | o :: os =>
    (if (f.verdict (f.seen [] r) o).1.isForward then [o] else []) ++
      forwardedFrom (f.written r (f.verdict (f.seen [] r) o).2) os

def sightWrites (o : Observation) : List (StateKey × Option String) :=
  (⟨f.integrationId, pullActionId, o.source⟩, some o.status) ::
    if f.config.isQuiet o.status then
      [(⟨f.integrationId, quietActionId o.status, o.source⟩, some o.recordedAtIso)]
    else []

theorem after_append (r : StateKey → Option DeviceState) (xs ys : List Observation) :
    f.after r (xs ++ ys) = f.after (f.after r xs) ys := by
  induction xs generalizing r with
  | nil => rfl
  | cons o xs ih => exact ih _

theorem forwardedFrom_append (r : StateKey → Option DeviceState) (xs ys : List Observation) :
    f.forwardedFrom r (xs ++ ys) = f.forwardedFrom r xs ++ f.forwardedFrom (f.after r xs) ys := by
  induction xs generalizing r with
  | nil => rfl
  | cons o xs ih =>
    simp only [List.cons_append, forwardedFrom, after, ih, List.append_assoc]

theorem after_eq_written (r : StateKey → Option DeviceState) (os : List Observation) :
    f.after r os = f.written r ((f.verdicts r os).flatMap (·.2)) := by
  induction os generalizing r with
  | nil => rfl
  | cons o os ih =>
    simp only [after, verdicts, List.flatMap_cons, f.written_append, ih]

theorem sight_written (r : StateKey → Option DeviceState) (ws : List StateWrite) :
    sight (f.written r ws) =
      assign (sight r) (ws.map fun w => (⟨f.integrationId, w.actionId, w.sourceId⟩,
        sightOf w.actionId (some w.state))) := by
  induction ws generalizing r with
  | nil => rfl
  | cons w ws ih =>
    simp only [written, List.foldl_cons] at ih ⊢
    rw [ih, sight_update]
    rfl

/-- Whatever a verdict decides, it leaves the observation's status in sight under the pull action
and, for a quiet status, its report time under the status's quiet action: when it suppresses, the
status is already there. -/
theorem sight_verdict (r : StateKey → Option DeviceState) (o : Observation) :
    sight (f.written r (f.verdict (f.seen [] r) o).2) = assign (sight r) (f.sightWrites o) := by
  have hne := pullActionId_ne_quietActionId o.status
  rw [sight_written, f.verdict_writes_eq, seen_nil]
  by_cases hs : (r ⟨f.integrationId, pullActionId, o.source⟩).map (·.status) = some o.status
  · -- suppressed or refreshed: the status in sight is the observation's already
    have hsee : sight r ⟨f.integrationId, pullActionId, o.source⟩ = some o.status := by
      simpa [sight, sightOf] using hs
    by_cases hq : f.config.isQuiet o.status = true <;>
      simp [sightWrites, quietEntry, sightOf, assign, hs, hq, hne.symm, ← hsee, Function.update_eq_self]
  · by_cases hq : f.config.isQuiet o.status = true <;>
      simp [sightWrites, quietEntry, sightOf, assign, hs, hq, hne.symm]

theorem sight_after (r : StateKey → Option DeviceState) (os : List Observation) :
    sight (f.after r os) = assign (sight r) (os.flatMap f.sightWrites) := by
  induction os generalizing r with
  | nil => rfl
  | cons o os ih =>
    rw [after, ih, sight_verdict, List.flatMap_cons, assign_append]

theorem verdict_congr {r r' : StateKey → Option DeviceState} (h : sight r = sight r') (o : Observation) :
    f.verdict (f.seen [] r) o = f.verdict (f.seen [] r') o := by
  have hne := pullActionId_ne_quietActionId o.status
  have hpull : (r ⟨f.integrationId, pullActionId, o.source⟩).map (·.status) =
      (r' ⟨f.integrationId, pullActionId, o.source⟩).map (·.status) := by
    simpa [sight, sightOf] using congrFun h ⟨f.integrationId, pullActionId, o.source⟩
  have hquiet : (r ⟨f.integrationId, quietActionId o.status, o.source⟩).bind (·.recordedAt) =
      (r' ⟨f.integrationId, quietActionId o.status, o.source⟩).bind (·.recordedAt) := by
    simpa [sight, sightOf, hne.symm] using congrFun h ⟨f.integrationId, quietActionId o.status, o.source⟩
  simp only [verdict, seen_nil]
  rw [hquiet]
  cases hl : r ⟨f.integrationId, pullActionId, o.source⟩ <;>
    cases hl' : r' ⟨f.integrationId, pullActionId, o.source⟩ <;> simp only [hl, hl'] at hpull
  · rfl
  · simp at hpull
  · simp at hpull
  · simp only [Option.map_some, Option.some.injEq] at hpull
    simp only [hpull]

theorem forwardedFrom_congr {r r' : StateKey → Option DeviceState} (h : sight r = sight r')
    (os : List Observation) : f.forwardedFrom r os = f.forwardedFrom r' os := by
  induction os generalizing r r' with
  | nil => rfl
  | cons o os ih =>
    have hv := f.verdict_congr h o
    have hnext : sight (f.written r (f.verdict (f.seen [] r) o).2) =
        sight (f.written r' (f.verdict (f.seen [] r') o).2) := by
      rw [sight_verdict, sight_verdict, h]
    simp only [forwardedFrom]
    rw [ih hnext, hv]

/-! ### A prefix evaluated twice -/

theorem sight_after_after (r : StateKey → Option DeviceState) (P : List Observation) :
    sight (f.after (f.after r P) P) = sight (f.after r P) := by
  rw [sight_after, sight_after, assign_assign]

/-- After a prefix was evaluated, evaluating the page from the start again decides the rest of
the page as it was decided after the prefix. -/
theorem forwardedFrom_replay (r : StateKey → Option DeviceState) (P S : List Observation) :
    f.forwardedFrom (f.after r P) (P ++ S) =
      f.forwardedFrom (f.after r P) P ++ f.forwardedFrom (f.after r P) S := by
  rw [forwardedFrom_append, f.forwardedFrom_congr (f.sight_after_after r P)]

theorem sightWrites_source (o : Observation) : ∀ a ∈ f.sightWrites o, a.1.sourceId = o.source := by
  intro a ha
  by_cases hq : f.config.isQuiet o.status = true <;> simp [sightWrites, hq] at ha <;>
    rcases ha with rfl | rfl <;> rfl

theorem not_mem_sightWrites {o o' : Observation} (hsrc : o.source ≠ o'.source)
    {a : StateKey × Option String} (ha : a ∈ f.sightWrites o') : a.1 ∉ (f.sightWrites o).map Prod.fst := by
  intro hin
  obtain ⟨b, hb, hba⟩ := List.mem_map.mp hin
  exact hsrc (by rw [← f.sightWrites_source o b hb, hba, f.sightWrites_source o' a ha])

theorem assign_sightWrites (v : StateKey → Option String) (o : Observation) :
    ∀ a ∈ f.sightWrites o, assign v (f.sightWrites o) a.1 = a.2 := by
  have hne := pullActionId_ne_quietActionId o.status
  intro a ha
  by_cases hq : f.config.isQuiet o.status = true <;> simp [sightWrites, hq] at ha
  · rcases ha with rfl | rfl <;> simp [sightWrites, assign, hq, hne]
  · subst ha
    simp [sightWrites, assign, hq]

/-- A content in which an observation's status and report time are already in sight makes its
verdict a suppression. -/
theorem verdict_suppressed (r : StateKey → Option DeviceState) (o : Observation)
    (hsee : ∀ a ∈ f.sightWrites o, sight r a.1 = a.2) :
    (f.verdict (f.seen [] r) o).1.isForward = false := by
  have hne := pullActionId_ne_quietActionId o.status
  have hpull := hsee _ List.mem_cons_self
  obtain ⟨previous, hl, hs⟩ : ∃ previous, r ⟨f.integrationId, pullActionId, o.source⟩ = some previous ∧
      previous.status = o.status := by
    cases h : r ⟨f.integrationId, pullActionId, o.source⟩ <;> simp_all [sight, sightOf]
  by_cases hq : f.config.isQuiet o.status = true
  · have htime : (r ⟨f.integrationId, quietActionId o.status, o.source⟩).bind (·.recordedAt) =
        some o.recordedAtIso := by
      simpa [sight, sightOf, hne.symm] using
        hsee (⟨f.integrationId, quietActionId o.status, o.source⟩, some o.recordedAtIso) (by simp [sightWrites, hq])
    simp [verdict, hl, hs, hq, htime, Decision.isForward]
  · simp [verdict, hl, hs, hq, Decision.isForward]

/-- Observations of distinct devices whose status and report time are in sight are all
suppressed: suppressing one of them changes nothing another one reads. -/
theorem forwardedFrom_nil_of_sight (os : List Observation) (hnodup : (os.map (·.source)).Nodup)
    (r : StateKey → Option DeviceState) (hsee : ∀ o ∈ os, ∀ a ∈ f.sightWrites o, sight r a.1 = a.2) :
    f.forwardedFrom r os = [] := by
  induction os generalizing r with
  | nil => rfl
  | cons o os ih =>
    simp only [List.map_cons, List.nodup_cons, List.mem_map, not_exists, not_and] at hnodup
    have hnext : ∀ o' ∈ os, ∀ a ∈ f.sightWrites o',
        sight (f.written r (f.verdict (f.seen [] r) o).2) a.1 = a.2 := by
      intro o' ho' a ha
      have hout : a.1 ∉ (f.sightWrites o).map Prod.fst :=
        f.not_mem_sightWrites (fun hsrc => hnodup.1 o' ho' hsrc.symm) ha
      rw [sight_verdict, assign_of_not_mem _ _ _ hout]
      exact hsee o' (List.mem_cons_of_mem _ ho') a ha
    simp only [forwardedFrom, f.verdict_suppressed r o (hsee o List.mem_cons_self), Bool.false_eq_true,
      if_false, List.nil_append, ih hnodup.2 _ hnext]

/-- After observations of distinct devices are evaluated, the status and report time of each
one are in sight. -/
theorem after_sight (os : List Observation) (hnodup : (os.map (·.source)).Nodup)
    (r : StateKey → Option DeviceState) : ∀ o ∈ os, ∀ a ∈ f.sightWrites o, sight (f.after r os) a.1 = a.2 := by
  induction os generalizing r with
  | nil => intro o ho; cases ho
  | cons o os ih =>
    simp only [List.map_cons, List.nodup_cons, List.mem_map, not_exists, not_and] at hnodup
    intro o' ho' a ha
    rcases List.mem_cons.mp ho' with rfl | ho'
    · -- the later observations are of other devices and leave this one's places alone
      have hout : a.1 ∉ (os.flatMap f.sightWrites).map Prod.fst := by
        intro hin
        obtain ⟨b, hb, hba⟩ := List.mem_map.mp hin
        obtain ⟨o'', ho'', hb''⟩ := List.mem_flatMap.mp hb
        exact f.not_mem_sightWrites (hnodup.1 o'' ho'') ha (List.mem_map.mpr ⟨b, hb'', hba⟩)
      rw [after, sight_after, assign_of_not_mem _ _ _ hout, sight_verdict]
      exact f.assign_sightWrites _ o' a ha
    · exact ih hnodup.2 _ o' ho' a ha

theorem forwardedFrom_replay_distinct (r : StateKey → Option DeviceState) (P : List Observation)
    (hnodup : (P.map (·.source)).Nodup) : f.forwardedFrom (f.after r P) P = [] :=
  f.forwardedFrom_nil_of_sight P hnodup _ (f.after_sight P hnodup r)

end DedupFilter

end FleetTelemetry
