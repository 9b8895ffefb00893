import FleetTelemetry.Proofs.Poll.Rejection

/-!
# How a cycle cuts its plan into batches

A cycle hands the forwarded observations of its plan to the sink in batches of its batch size
and, after each accepted batch, commits the writes that batch owes. The loop keeps the start of
the next batch in a counter beside the batches, and the range it commits is rebuilt from that
counter. A drift between the two would drop or repeat state writes without any error, since a
range that does not lie inside the plan owes nothing.

There is no drift. With `n` observations forwarded and a batch size `size`, batch `i` is the
slice of the range `[i * size, min n ((i + 1) * size))` (`batches_eq_extract`), and the loop is
the same program as one that, range after range, sends the slice and then commits the range
(`deliver_eq_sendRanges`). The ranges are `⌈n / size⌉` consecutive pieces of `0..n`
(`batchRanges_cover`); every slice but the last is `size` long; and the ranges together commit
each planned write once (`batchRanges_writesFor`).

Run in a world `σ`, a cycle whose batch size `withBatchSize` accepted therefore delivers by
these ranges (`PollCycle.DeliversByRanges`): a run that succeeds sent every slice and committed
every range before the trailing writes and the checkpoint, and reports `⌈n / size⌉` batches;
a run the sink stopped at batch `b` sent and committed exactly the ranges before `b`.
-/

namespace FleetTelemetry

/-! ### The ranges of the batches -/

/-- The range of forwarded observations that batch `i` holds, out of `n`, by `size`. -/
def batchRange (size n i : Nat) : Nat × Nat := (i * size, min n ((i + 1) * size))

/-- The ranges of the batches of `n` forwarded observations by `size`, one per batch that
starts below `n`: `⌈n / size⌉` of them. -/
def batchRanges (size n : Nat) : List (Nat × Nat) :=
  (List.range ((n + size - 1) / size)).map (batchRange size n)

section Ranges

variable {size n : Nat}

theorem lt_batchCount_iff (hsize : 0 < size) (j : Nat) : j < (n + size - 1) / size ↔ j * size < n := by
  rw [← Nat.add_one_le_iff, Nat.le_div_iff_mul_le hsize, Nat.add_mul, Nat.one_mul]
  omega

theorem le_mul_of_batchCount_le (hsize : 0 < size) {j : Nat} (hj : (n + size - 1) / size ≤ j) :
    n ≤ j * size :=
  Nat.not_lt.mp fun h => Nat.not_lt.mpr hj ((lt_batchCount_iff hsize j).mpr h)

theorem mem_batchRanges {r : Nat × Nat} :
    r ∈ batchRanges size n ↔ ∃ i < (n + size - 1) / size, batchRange size n i = r := by
  simp [batchRanges]

theorem batchRange_lt (hsize : 0 < size) {i : Nat} (hi : i < (n + size - 1) / size) :
    (batchRange size n i).1 < (batchRange size n i).2 ∧ (batchRange size n i).2 ≤ n := by
  have h := (lt_batchCount_iff hsize i).mp hi
  simp only [batchRange, Nat.add_one_mul]
  omega

/-- The ranges cut `0..n` into consecutive pieces: read in order, they hold every index below
`n` once. -/
theorem batchRanges_cover (hsize : 0 < size) :
    (batchRanges size n).flatMap (fun r => List.range' r.1 (r.2 - r.1)) = List.range n := by
  -- from batch `j` on, by induction on the number of batches left
  have h : ∀ len j, j + len = (n + size - 1) / size →
      ((List.range' j len).map (batchRange size n)).flatMap (fun r => List.range' r.1 (r.2 - r.1)) =
        List.range' (min n (j * size)) (n - j * size) := by
    intro len
    induction len with
    | zero =>
      intro j hj
      rw [Nat.sub_eq_zero_of_le (le_mul_of_batchCount_le hsize (by omega))]
      rfl
    | succ len ih =>
      intro j hj
      have hlt := (lt_batchCount_iff (n := n) hsize j).mp (by omega)
      have hsucc := Nat.add_one_mul j size
      have hlen : n - j * size = (min n ((j + 1) * size) - j * size) + (n - (j + 1) * size) := by
        omega
      rw [List.range'_succ, List.map_cons, List.flatMap_cons, ih (j + 1) (by omega),
        Nat.min_eq_right (Nat.le_of_lt hlt), hlen, ← List.range'_append, batchRange]
      congr 2
      omega
  simpa [batchRanges, List.range_eq_range'] using h _ 0 (Nat.zero_add _)

/-! ### The batches are the slices at the ranges -/

theorem batches_drop {α : Type} (hsize : 0 < size) (xs : List α) (j : Nat) (hj : j * size < xs.length) :
    batches size (xs.drop (j * size)) =
      xs.extract (j * size) (min xs.length ((j + 1) * size)) :: batches size (xs.drop ((j + 1) * size)) := by
  obtain ⟨y, ys, hys⟩ := List.exists_cons_of_length_pos (l := xs.drop (j * size)) (by simp; omega)
  have hk : size - 1 + 1 = size := Nat.sub_add_cancel hsize
  have htake : (xs.drop (j * size)).take size = xs.extract (j * size) (min xs.length ((j + 1) * size)) := by
    rw [List.extract_eq_take_drop, List.take_eq_take_iff, List.length_drop, Nat.add_one_mul]
    omega
  rw [batches, hys, chunksOfSucc, hk, ← hys, htake, List.drop_drop, batches, Nat.add_one_mul]

theorem batches_drop_of_le {α : Type} (xs : List α) (j : Nat) (hj : xs.length ≤ j * size) :
    batches size (xs.drop (j * size)) = [] := by
  rw [List.drop_eq_nil_of_le hj, batches, chunksOfSucc]

theorem batches_eq_extract {α : Type} (hsize : 0 < size) (xs : List α) :
    batches size xs = (batchRanges size xs.length).map fun r => xs.extract r.1 r.2 := by
  have h : ∀ len j, j + len = (xs.length + size - 1) / size →
      batches size (xs.drop (j * size)) =
        ((List.range' j len).map (batchRange size xs.length)).map fun r => xs.extract r.1 r.2 := by
    intro len
    induction len with
    | zero =>
      intro j hj
      rw [batches_drop_of_le xs j (le_mul_of_batchCount_le hsize (by omega))]
      rfl
    | succ len ih =>
      intro j hj
      rw [batches_drop hsize xs j ((lt_batchCount_iff hsize j).mp (by omega)), ih (j + 1) (by omega),
        List.range'_succ]
      rfl
  simpa [batchRanges, List.range_eq_range'] using h _ 0 (Nat.zero_add _)

theorem extract_batchRange_length {α : Type} (hsize : 0 < size) (xs : List α) {i : Nat}
    (hi : i < (xs.length + size - 1) / size) :
    (xs.extract (batchRange size xs.length i).1 (batchRange size xs.length i).2).length =
      if i + 1 = (xs.length + size - 1) / size then
        xs.length - ((xs.length + size - 1) / size - 1) * size
      else size := by
  have hlt := (lt_batchCount_iff hsize i).mp hi
  have hsucc := Nat.add_one_mul i size
  rw [List.extract_eq_take_drop, List.length_take, List.length_drop, batchRange]
  split
  · -- the last batch runs to the end of the list
    next hlast =>
    have hend : xs.length ≤ (i + 1) * size := le_mul_of_batchCount_le hsize (by omega)
    rw [show (xs.length + size - 1) / size - 1 = i by omega]
    omega
  · have hfull : (i + 1) * size < xs.length := (lt_batchCount_iff hsize (i + 1)).mp (by omega)
    omega

theorem batchRanges_writesFor (hsize : 0 < size) (p : DedupPlan) (hlen : p.writes.length = p.len) :
    ((batchRanges size p.len).map fun r => p.writesFor r.1 r.2).flatten = p.writes.flatten := by
  have hin : ∀ r ∈ batchRanges size p.len, p.writesFor r.1 r.2 = (p.writes.extract r.1 r.2).flatten := by
    intro r hr
    obtain ⟨i, hi, rfl⟩ := mem_batchRanges.mp hr
    have h := batchRange_lt hsize hi
    rw [DedupPlan.writesFor, if_pos ⟨Nat.le_of_lt h.1, hlen ▸ h.2⟩, List.extract_eq_take_drop]
  have hbundles : (batchRanges size p.len).map (fun r => (p.writes.extract r.1 r.2).flatten) =
      ((batchRanges size p.len).map fun r => p.writes.extract r.1 r.2).map List.flatten := by
    rw [List.map_map]
    rfl
  rw [List.map_congr_left hin, hbundles, ← List.flatten_flatten, ← hlen, ← batches_eq_extract hsize,
    batches_flatten]

end Ranges

/-- How ranges cut the forwarded observations of a plan into batches of `size`. There are
`⌈n / size⌉` of them for `n` observations, range `i` being `[i * size, min n ((i + 1) * size))`.
They cut `0..n` into consecutive pieces, so they are disjoint, lie within it and cover it; their
slices are the forwarded observations in order, each `size` long but the last; and the writes
they commit are the plan's writes, each once. -/
structure DedupPlan.CutBy (p : DedupPlan) (size : Nat) (rs : List (Nat × Nat)) : Prop where
  length_eq : rs.length = (p.len + size - 1) / size
  getElem_eq (i : Nat) (hi : i < rs.length) : rs[i] = (i * size, min p.len ((i + 1) * size))
  cover : rs.flatMap (fun r => List.range' r.1 (r.2 - r.1)) = List.range p.len
  slices : (rs.map fun r => p.forwarded.extract r.1 r.2).flatten = p.forwarded
  slice_length (i : Nat) (hi : i < rs.length) :
    (p.forwarded.extract rs[i].1 rs[i].2).length =
      if i + 1 = rs.length then p.len - (rs.length - 1) * size else size
  writes (hlen : p.writes.length = p.len) :
    (rs.map fun r => p.writesFor r.1 r.2).flatten = p.writes.flatten

theorem batchRanges_cutBy {size : Nat} (hsize : 0 < size) (p : DedupPlan) :
    p.CutBy size (batchRanges size p.len) where
  length_eq := by simp [batchRanges]
  getElem_eq i hi := by simp [batchRanges, batchRange]
  cover := batchRanges_cover hsize
  slices := by
    rw [DedupPlan.len, ← batches_eq_extract hsize, batches_flatten]
  slice_length i hi := by
    have hcount : (batchRanges size p.len).length = (p.forwarded.length + size - 1) / size := by
      simp [batchRanges, DedupPlan.len]
    have hi' : i < (p.forwarded.length + size - 1) / size := hcount ▸ hi
    have hrange : (batchRanges size p.len)[i] = batchRange size p.forwarded.length i := by
      simp [batchRanges, DedupPlan.len]
    rw [hrange, extract_batchRange_length hsize _ hi', hcount, DedupPlan.len]
  writes hlen := batchRanges_writesFor hsize p hlen

/-! ### The loop, range by range -/

namespace PollCycle

variable {m : Type → Type} [Monad m]

/-- Delivery range by range: for each range, the slice of the forwarded observations is sent and,
once the sink accepted it, the range is committed. Answers what the sink accepted each time. -/
def sendRanges (c : PollCycle m) (p : DedupPlan) : List (Nat × Nat) → CycleM m (List (List Json))
  | [] => pure []
  | r :: rs => do
    let accepted ← step (c.sink.send (p.forwarded.extract r.1 r.2)) .sink
    dedupStep (c.filter.commitBatch p r.1 r.2)
    let rest ← c.sendRanges p rs
    pure (accepted :: rest)

variable [LawfulMonad m]

/-- The loop from batch `j` on, its counter at the start of batch `j`, sends the slices of the
remaining ranges and commits them, adding up what the sink accepted and counting the ranges. -/
theorem deliver_from (c : PollCycle m) (p : DedupPlan) (hsize : 0 < c.batchSize) :
    ∀ (len j extracted sent : Nat), j + len = (p.len + c.batchSize - 1) / c.batchSize →
      c.deliver p (batches c.batchSize (p.forwarded.drop (j * c.batchSize))) (min p.len (j * c.batchSize))
          extracted sent =
        (fun accepted : List (List Json) => (extracted + accepted.flatten.length, sent + len)) <$>
          c.sendRanges p ((List.range' j len).map (batchRange c.batchSize p.len)) := by
  simp only [DedupPlan.len]
  intro len
  induction len with
  | zero =>
    intro j extracted sent hj
    have hend : p.forwarded.length ≤ j * c.batchSize := le_mul_of_batchCount_le hsize (by omega)
    rw [batches_drop_of_le _ _ hend, List.range'_zero, List.map_nil, sendRanges, deliver, map_pure]
    rfl
  | succ len ih =>
    intro j extracted sent hj
    have hlt : j * c.batchSize < p.forwarded.length := (lt_batchCount_iff hsize j).mp (by omega)
    have hnext : j * c.batchSize + (p.forwarded.extract (j * c.batchSize)
        (min p.forwarded.length ((j + 1) * c.batchSize))).length =
          min p.forwarded.length ((j + 1) * c.batchSize) := by
      rw [List.extract_eq_take_drop, List.length_take, List.length_drop, Nat.add_one_mul]
      omega
    have ih' := fun extracted sent => ih (j + 1) extracted sent (by omega)
    rw [batches_drop hsize _ j hlt, List.range'_succ, List.map_cons, sendRanges, deliver,
      Nat.min_eq_right (Nat.le_of_lt hlt), hnext]
    simp only [ih', batchRange, map_eq_pure_bind, bind_assoc, pure_bind,
      List.flatten_cons, List.length_append, Nat.add_assoc, Nat.add_comm 1 len]

theorem deliver_eq_sendRanges (c : PollCycle m) (p : DedupPlan) (hsize : 0 < c.batchSize) :
    c.deliver p (batches c.batchSize p.forwarded) 0 0 0 =
      (fun accepted : List (List Json) =>
          (accepted.flatten.length, (p.len + c.batchSize - 1) / c.batchSize)) <$>
        c.sendRanges p (batchRanges c.batchSize p.len) := by
  have h := c.deliver_from p hsize _ 0 0 0 (Nat.zero_add _)
  simp only [Nat.zero_mul, List.drop_zero, Nat.min_zero, Nat.zero_add] at h
  rw [h, batchRanges, List.range_eq_range']

theorem deliverPlan_eq_sendRanges (c : PollCycle m) (p : DedupPlan) (hsize : 0 < c.batchSize) :
    c.deliverPlan p = (do
      let accepted ← c.sendRanges p (batchRanges c.batchSize p.len)
      dedupStep (c.filter.commitTrailing p)
      pure (accepted.flatten.length, (p.len + c.batchSize - 1) / c.batchSize)) := by
  rw [deliverPlan, deliver_eq_sendRanges c p hsize, bind_map_left]

/-- A cycle, written with its batch loop range by range: it reports `⌈n / size⌉` batches for
the `n` observations its plan forwards, and the total of what the sink accepted. -/
theorem run_eq_sendRanges (c : PollCycle m) (hsize : 0 < c.batchSize) (now : Time.Stamp) :
    c.run now = (do
      let i ← c.intake now
      let plan ← dedupStep (c.filter.plan i.observations)
      let accepted ← c.sendRanges plan (batchRanges c.batchSize plan.len)
      dedupStep (c.filter.commitTrailing plan)
      let checkpoint ← c.advance i.previous i.fetched.maxGmtUpdateTime
      pure { window := i.window, recordsReceived := i.fetched.records.length,
             observationsConverted := i.observations.length, observationsForwarded := plan.len,
             observationsExtracted := accepted.flatten.length,
             batchesSent := (plan.len + c.batchSize - 1) / c.batchSize, checkpoint }) := by
  simp only [run, deliverPlan_eq_sendRanges c _ hsize, bind_assoc, pure_bind]

end PollCycle

/-! ### Runs -/

section Runs

variable {σ α ε : Type}

theorem step_fault_inv {y : StateM σ (Except ε α)} {wrap : ε → PollFault} {f : PollFault} {s s' : σ}
    (h : (PollCycle.step y wrap).run.run.run s = (.ok (.error f), s')) :
    ∃ e, y.run s = (.error e, s') ∧ wrap e = f := by
  rw [step_run] at h
  rcases hy : y.run s with ⟨r, s₁⟩
  rw [hy] at h
  obtain ⟨hr, rfl⟩ := Prod.mk.inj h
  cases r with
  | error e => exact ⟨e, rfl, Except.error.inj (Except.ok.inj hr)⟩
  | ok a => cases hr

theorem SinkFree.dedupStep (x : ExceptT StoreFault (StateM σ) α) : SinkFree (PollCycle.dedupStep x) :=
  SinkFree.step _ fun _ _ h => by cases h

end Runs

namespace PollCycle

variable {σ : Type} {c : PollCycle (StateM σ)} {p : DedupPlan}

/-- A delivery by ranges that the sink stopped sent and committed the ranges before the rejected
one, and the rejection is the last thing it did. -/
theorem sendRanges_sink_inv : ∀ (rs : List (Nat × Nat)) {s s' : σ} {e : SinkFault},
    (c.sendRanges p rs).run.run.run s = (.ok (.error (.sink e)), s') →
      ∃ (b : Nat) (hb : b < rs.length) (accepted : List (List Json)) (s₁ : σ),
        (c.sendRanges p (rs.take b)).run.run.run s = (.ok (.ok accepted), s₁) ∧
        (c.sink.send (p.forwarded.extract rs[b].1 rs[b].2)).run s₁ = (.error e, s')
  | [], s, s', e, h => by
    rw [sendRanges, cycle_pure_run] at h
    cases (Prod.mk.inj h).1
  | r :: rs, s, s', e, h => by
    rw [sendRanges] at h
    rcases cycle_bind_fault_inv h with hsend | ⟨accepted, s₁, hsend, hrest⟩
    · -- the sink rejected the first slice
      obtain ⟨e', hrun, he'⟩ := step_fault_inv hsend
      cases he'
      exact ⟨0, Nat.succ_pos _, [], s, rfl, hrun⟩
    · rcases cycle_bind_fault_inv hrest with hcommit | ⟨u, s₂, hcommit, hmore⟩
      · exact absurd hcommit (SinkFree.dedupStep _ s₁ s' e)
      rcases cycle_bind_fault_inv hmore with hrs | ⟨rest, s₃, -, hpure⟩
      · obtain ⟨b, hb, acc, s₄, hfirst, hfail⟩ := sendRanges_sink_inv rs hrs
        refine ⟨b + 1, Nat.succ_lt_succ hb, accepted :: acc, s₄, ?_, hfail⟩
        rw [List.take_succ_cons, sendRanges, cycle_bind_ok hsend, cycle_bind_ok hcommit,
          cycle_bind_ok hfirst, cycle_pure_run]
      · exact absurd hpure (SinkFree.pure _ s₃ s' e)

variable (hsize : 0 < c.batchSize)
include hsize

/-- A run that succeeded went through the first steps, the plan, the delivery of every range and
the trailing writes before the checkpoint step, and reports what it delivered. -/
theorem run_ok_by_ranges {now : Time.Stamp} {s s' : σ} {report : CycleReport}
    (h : (c.run now).run.run.run s = (.ok (.ok report), s')) :
    ∃ (i : Intake) (t : σ) (p : DedupPlan) (t₁ : σ) (accepted : List (List Json)) (t₂ t₃ : σ),
      (c.intake now).run.run.run s = (.ok (.ok i), t) ∧
      (c.filter.plan i.observations).run.run t = (.ok p, t₁) ∧
      (c.sendRanges p (batchRanges c.batchSize p.len)).run.run.run t₁ = (.ok (.ok accepted), t₂) ∧
      (c.filter.commitTrailing p).run.run t₂ = (.ok (), t₃) ∧
      (c.advance i.previous i.fetched.maxGmtUpdateTime).run.run.run t₃ = (.ok (.ok report.checkpoint), s') ∧
      report.observationsForwarded = p.len ∧
      report.batchesSent = (p.len + c.batchSize - 1) / c.batchSize ∧
      report.observationsExtracted = accepted.flatten.length ∧
      (p.len = 0 → accepted = [] ∧ t₂ = t₁) := by
  rw [run_eq_sendRanges c hsize] at h
  obtain ⟨i, t, hi, h⟩ := cycle_bind_ok_inv h
  obtain ⟨p, t₁, hplan, h⟩ := cycle_bind_ok_inv h
  obtain ⟨accepted, t₂, hsend, h⟩ := cycle_bind_ok_inv h
  obtain ⟨u, t₃, htrail, h⟩ := cycle_bind_ok_inv h
  obtain ⟨cp, t₄, hadvance, hpure⟩ := cycle_bind_ok_inv h
  obtain ⟨rfl, rfl⟩ := cycle_pure_ok_inv hpure
  refine ⟨i, t, p, t₁, accepted, t₂, t₃, hi, step_ok_inv hplan, hsend, step_ok_inv htrail, hadvance,
    rfl, rfl, rfl, ?_⟩
  intro hempty
  have hnone : batchRanges c.batchSize p.len = [] := by
    rw [← List.length_eq_zero_iff, (batchRanges_cutBy hsize p).length_eq, hempty, Nat.zero_add]
    exact Nat.div_eq_of_lt (Nat.sub_lt hsize Nat.one_pos)
  rw [hnone, sendRanges, cycle_pure_run] at hsend
  obtain ⟨hacc, rfl⟩ := Prod.mk.inj hsend
  exact ⟨(Except.ok.inj (Except.ok.inj hacc)).symm, rfl⟩

/-- A run the sink stopped planned its page, sent and committed the ranges of the batches before
the rejected one, and ended with the rejection. -/
theorem run_sink_by_ranges {now : Time.Stamp} {s s' : σ} {e : SinkFault}
    (h : (c.run now).run.run.run s = (.ok (.error (.sink e)), s')) :
    ∃ (i : Intake) (t : σ) (p : DedupPlan) (t₁ : σ) (b : Nat) (accepted : List (List Json)) (t₂ : σ),
      (c.intake now).run.run.run s = (.ok (.ok i), t) ∧
      (c.filter.plan i.observations).run.run t = (.ok p, t₁) ∧
      b < (p.len + c.batchSize - 1) / c.batchSize ∧
      (c.sendRanges p ((batchRanges c.batchSize p.len).take b)).run.run.run t₁ = (.ok (.ok accepted), t₂) ∧
      (c.sink.send (p.forwarded.extract (b * c.batchSize) (min p.len ((b + 1) * c.batchSize)))).run t₂ =
        (.error e, s') := by
  rw [run_eq_sendRanges c hsize] at h
  rcases cycle_bind_fault_inv h with hi | ⟨i, t, hi, h⟩
  · exact absurd hi (intake_sinkFree now s s' e)
  rcases cycle_bind_fault_inv h with hplan | ⟨p, t₁, hplan, h⟩
  · exact absurd hplan (SinkFree.dedupStep _ t s' e)
  rcases cycle_bind_fault_inv h with hsend | ⟨accepted, t₂, -, h⟩
  · obtain ⟨b, hb, accepted, t₂, hfirst, hfail⟩ := sendRanges_sink_inv _ hsend
    have hcount := (batchRanges_cutBy hsize p).length_eq
    rw [(batchRanges_cutBy hsize p).getElem_eq b hb] at hfail
    exact ⟨i, t, p, t₁, b, accepted, t₂, hi, step_ok_inv hplan, hcount ▸ hb, hfirst, hfail⟩
  exfalso
  rcases cycle_bind_fault_inv h with htrail | ⟨u, t₃, -, h⟩
  · exact SinkFree.dedupStep _ t₂ s' e htrail
  rcases cycle_bind_fault_inv h with hadvance | ⟨cp, t₄, -, hpure⟩
  · obtain ⟨e', he'⟩ := advance_fault_inv hadvance
    cases he'
  · exact SinkFree.pure _ t₄ s' e hpure

end PollCycle

/-! ### Cycles deliver by ranges -/

/-- A cycle delivers every plan by the ranges of its batches of `size`. The ranges cut each plan
as `DedupPlan.CutBy` says. A run that succeeded took in a page, planned it, sent the slice of each
range and then committed the range, committed the trailing writes and only then moved the
checkpoint; it reports the `n` forwarded observations, `⌈n / size⌉` batches and the total of what
the sink accepted, and with nothing forwarded it sent nothing. A run the sink stopped at batch `b`
had sent and committed exactly the ranges of the batches before `b`, and made no write after the
rejection. -/
structure PollCycle.DeliversByRanges {σ : Type} (c : PollCycle (StateM σ)) (size : Nat) : Prop where
  cut (p : DedupPlan) : p.CutBy size (batchRanges size p.len)
  run_ok (now : Time.Stamp) (s s' : σ) (report : CycleReport) :
    (c.run now).run.run.run s = (.ok (.ok report), s') →
      ∃ (i : PollCycle.Intake) (t : σ) (p : DedupPlan) (t₁ : σ) (accepted : List (List Json)) (t₂ t₃ : σ),
        (c.intake now).run.run.run s = (.ok (.ok i), t) ∧
        (c.filter.plan i.observations).run.run t = (.ok p, t₁) ∧
        (c.sendRanges p (batchRanges size p.len)).run.run.run t₁ = (.ok (.ok accepted), t₂) ∧
        (c.filter.commitTrailing p).run.run t₂ = (.ok (), t₃) ∧
        (c.advance i.previous i.fetched.maxGmtUpdateTime).run.run.run t₃ =
          (.ok (.ok report.checkpoint), s') ∧
        report.observationsForwarded = p.len ∧
        report.batchesSent = (p.len + size - 1) / size ∧
        report.observationsExtracted = accepted.flatten.length ∧
        (p.len = 0 → accepted = [] ∧ t₂ = t₁)
  run_sink (now : Time.Stamp) (s s' : σ) (e : SinkFault) :
    (c.run now).run.run.run s = (.ok (.error (.sink e)), s') →
      ∃ (i : PollCycle.Intake) (t : σ) (p : DedupPlan) (t₁ : σ) (b : Nat) (accepted : List (List Json))
        (t₂ : σ),
        (c.intake now).run.run.run s = (.ok (.ok i), t) ∧
        (c.filter.plan i.observations).run.run t = (.ok p, t₁) ∧
        b < (p.len + size - 1) / size ∧
        (c.sendRanges p ((batchRanges size p.len).take b)).run.run.run t₁ = (.ok (.ok accepted), t₂) ∧
        (c.sink.send (p.forwarded.extract (b * size) (min p.len ((b + 1) * size)))).run t₂ = (.error e, s')

theorem PollCycle.withBatchSize_ok {m : Type → Type} {c₀ c : PollCycle m} {size : Nat}
    (hc : c₀.withBatchSize size = .ok c) : c.batchSize = size ∧ 0 < size := by
  unfold PollCycle.withBatchSize at hc
  split at hc
  · cases hc
  · next hzero =>
    cases hc
    exact ⟨rfl, Nat.pos_of_ne_zero hzero⟩

/-- A cycle whose batch size `withBatchSize` accepted delivers by the ranges of its batches. -/
theorem PollCycle.withBatchSize_delivers_by_ranges {σ : Type} {c₀ c : PollCycle (StateM σ)} {size : Nat}
    (hc : c₀.withBatchSize size = .ok c) : c.DeliversByRanges size := by
  obtain ⟨rfl, hsize⟩ := PollCycle.withBatchSize_ok hc
  exact ⟨batchRanges_cutBy hsize, fun _ _ _ _ h => PollCycle.run_ok_by_ranges hsize h,
    fun _ _ _ _ h => PollCycle.run_sink_by_ranges hsize h⟩

/-- The cycle of `RetryWorld` sending two observations a batch delivers by ranges. -/
theorem retry_world_delivers_in_pairs :
    RetryWorld.cycle.withBatchSize 2 = .ok { RetryWorld.cycle with batchSize := 2 } ∧
      PollCycle.DeliversByRanges { RetryWorld.cycle with batchSize := 2 } 2 :=
  ⟨rfl, PollCycle.withBatchSize_delivers_by_ranges rfl⟩

end FleetTelemetry
