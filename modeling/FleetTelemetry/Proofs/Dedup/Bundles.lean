import FleetTelemetry.Proofs.Dedup.Replay

/-!
# The bundles of a plan

A plan cuts its page into runs, each ending with a forwarded observation, and bundles the writes
of a run with its forwarded observation; what follows the last forwarded observation is owed as
trailing writes. Over a store that recalls, `plan` answers `planned`, that plan as a function of
the content (`plan_planned`); the lemmas here are about `planned`.

`plan_prefix` is what a cycle relies on when it commits batch after batch: the first `j` bundles
are the writes of the shortest prefix of the page that forwards the first `j` forwarded
observations, and the rest of the plan forwards what the rest of the page forwards after that
prefix was evaluated.
-/

namespace FleetTelemetry

namespace DedupFilter

variable {m : Type → Type} (f : DedupFilter m)

theorem planned_forwarded (r : StateKey → Option DeviceState) (owed : List StateWrite)
    (os : List Observation) : (f.planned r owed os).forwarded = f.forwardedFrom r os := by
  induction os generalizing r owed with
  | nil => rfl
  | cons o os ih =>
    simp only [planned, forwardedFrom]
    cases (f.verdict (f.seen [] r) o).1.isForward <;> simp [ih]

theorem planned_timed (r : StateKey → Option DeviceState) (owed : List StateWrite)
    (os : List Observation) (howed : ∀ w ∈ owed, f.Timed w) :
    ∀ w ∈ (f.planned r owed os).writes.flatten, f.Timed w := by
  induction os generalizing r owed with
  | nil => simp [planned]
  | cons o os ih =>
    have hnew : ∀ w ∈ owed ++ (f.verdict (f.seen [] r) o).2, f.Timed w := by
      intro w hw
      rcases List.mem_append.mp hw with hw | hw
      · exact howed w hw
      · exact f.verdict_timed _ o w hw
    simp only [planned]
    cases hd : (f.verdict (f.seen [] r) o).1.isForward
    · simp only [Bool.false_eq_true, if_false]
      exact ih _ _ hnew
    · intro w hw
      simp only [if_true, List.flatten_cons] at hw
      rcases List.mem_append.mp hw with hw | hw
      · exact hnew w hw
      · exact ih _ [] (by simp) w hw

/-- The first `j` bundles of a plan are the writes owed at the start and those of the shortest
prefix of the page that forwards the plan's first `j` observations. -/
theorem planned_prefix (r : StateKey → Option DeviceState) (owed : List StateWrite)
    (os : List Observation) (j : Nat) (hj : j ≤ (f.planned r owed os).forwarded.length) :
    ∃ P S, os = P ++ S ∧ f.forwardedFrom r P = (f.planned r owed os).forwarded.take j ∧
      (∀ n < P.length, (f.forwardedFrom r (P.take n)).length < j) ∧
      ((f.planned r owed os).writes.take j).flatten =
        if j = 0 then [] else owed ++ (f.verdicts r P).flatMap (·.2) := by
  induction os generalizing r owed j with
  | nil =>
    have hj0 : j = 0 := by simpa [planned] using hj
    subst hj0
    exact ⟨[], [], rfl, rfl, by simp, by simp⟩
  | cons o os ih =>
    cases j with
    | zero => exact ⟨[], o :: os, rfl, by simp [forwardedFrom], by simp, by simp⟩
    | succ k =>
      simp only [planned] at hj ⊢
      cases hd : (f.verdict (f.seen [] r) o).1.isForward
      · -- suppressed: its writes join those owed to the next forwarded observation
        simp only [hd, Bool.false_eq_true, if_false] at hj ⊢
        obtain ⟨P, S, rfl, hfwd, hmin, hwrites⟩ := ih _ _ (k + 1) hj
        refine ⟨o :: P, S, rfl, by simp [forwardedFrom, hd, hfwd], ?_, ?_⟩
        · intro n hn
          cases n with
          | zero => simp [forwardedFrom]
          | succ n =>
            have hn' : n < P.length := by simpa using hn
            simpa [forwardedFrom, hd] using hmin n hn'
        · simp [hwrites, verdicts]
      · -- forwarded: it closes the first bundle
        simp only [hd, if_true, List.length_cons] at hj ⊢
        obtain ⟨P, S, rfl, hfwd, hmin, hwrites⟩ :=
          ih (f.written r (f.verdict (f.seen [] r) o).2) [] k (by omega)
        have hP : k = 0 → P = [] := by
          intro hk
          subst hk
          cases P with
          | nil => rfl
          | cons _ _ => exact absurd (hmin 0 (by simp)) (by simp)
        refine ⟨o :: P, S, rfl, by simp [forwardedFrom, hd, hfwd], ?_, ?_⟩
        · intro n hn
          cases n with
          | zero => simp [forwardedFrom]
          | succ n =>
            have hn' : n < P.length := by simpa using hn
            have hlt := hmin n hn'
            simp [forwardedFrom, hd]
            omega
        · by_cases hk : k = 0
          · simp [hk, hP hk, verdicts]
          · simp [hk, hwrites, verdicts]

/-- The first `j` bundles of the plan of a page are the writes of the shortest prefix that
forwards the plan's first `j` observations (all of them when `j` is larger); the rest of the plan
forwards what the rest of the page forwards after that prefix. -/
theorem plan_prefix (r : StateKey → Option DeviceState) (os : List Observation) (j : Nat) :
    ∃ P S, os = P ++ S ∧ f.forwardedFrom r P = (f.planned r [] os).forwarded.take j ∧
      (∀ n < P.length, (f.forwardedFrom r (P.take n)).length < j) ∧
      f.written r ((f.planned r [] os).writes.take j).flatten = f.after r P ∧
      (f.planned r [] os).forwarded.drop j = f.forwardedFrom (f.after r P) S := by
  -- past the last forwarded observation, `j` counts as all of them
  have hwrites_take : (f.planned r [] os).writes.take j =
      (f.planned r [] os).writes.take (min j (f.planned r [] os).forwarded.length) := by
    rw [List.take_eq_take_min, f.planned_writes_length]
  rw [hwrites_take, List.take_eq_take_min, List.drop_eq_drop_min]
  have hk := Nat.min_le_left j (f.planned r [] os).forwarded.length
  generalize hkdef : min j (f.planned r [] os).forwarded.length = k at hk ⊢
  have hk' : k ≤ (f.planned r [] os).forwarded.length := by
    rw [← hkdef]
    exact Nat.min_le_right _ _
  obtain ⟨P, S, hsplit, hfwd, hmin, hwrites⟩ := f.planned_prefix r [] os k hk'
  refine ⟨P, S, hsplit, hfwd, fun n hn => Nat.lt_of_lt_of_le (hmin n hn) hk, ?_, ?_⟩
  · rw [hwrites, after_eq_written]
    by_cases hk0 : k = 0
    · -- no bundle: the prefix is empty
      have hP : P = [] := by
        cases P with
        | nil => rfl
        | cons _ _ => exact absurd (hmin 0 (by simp)) (by simp [hk0])
      simp [hk0, hP, verdicts]
    · simp [hk0]
  · have hlen : (f.forwardedFrom r P).length = k := by
      rw [hfwd, List.length_take]
      omega
    rw [f.planned_forwarded, hsplit, forwardedFrom_append, List.drop_left' hlen]

end DedupFilter

end FleetTelemetry
