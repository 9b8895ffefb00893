import FleetTelemetry.Proofs.Poll.Checkpoint
import FleetTelemetry.Proofs.Dedup.Bundles
import FleetTelemetry.Proofs.Retry.Schedule
import Mathlib.Data.Prod.Basic

/-!
# Delivering again after a failed batch

When the sink rejects a batch, the cycle stops: the batches before it were delivered and their
writes committed, the checkpoint stays, and the next cycle is given the same page again. This
module says what that next cycle delivers.

The world `σ` here is watched (`PollCycle.Watched`): the device-state store holds `read` and
recalls it, the sink records in `sent` the batches it accepts, and no part changes what another
holds. A delivery is then described by how many batches went out (`deliver_run`): those batches
are logged and the writes they owe are made, nothing else. The first cycle committed the first
bundles of its plan, which are the writes of the page up to its last delivered observation
(`plan_prefix`); the second cycle evaluates that prefix again, which changes nothing later
verdicts see, and then decides the rest of the page as the first cycle did (`forwardedFrom_replay`).
So the second cycle delivers, after some observations of the prefix, exactly what the first one
planned and did not deliver (`retry_delivers_undelivered`); when no device occurs twice in the
prefix it delivers exactly that.
-/

namespace FleetTelemetry

/-! ### Batches -/

theorem chunksOfSucc_take_flatten {α : Type} (k b : Nat) (xs : List α) :
    ((chunksOfSucc k xs).take b).flatten = xs.take (b * (k + 1)) := by
  induction b generalizing xs with
  | zero => simp
  | succ b ih =>
    cases xs with
    | nil => simp [chunksOfSucc]
    | cons x xs =>
      rw [chunksOfSucc, List.take_succ_cons, List.flatten_cons, ih, ← List.take_add,
        Nat.succ_mul, Nat.add_comm]

theorem chunksOfSucc_flatten {α : Type} (k : Nat) (xs : List α) : (chunksOfSucc k xs).flatten = xs := by
  induction xs using chunksOfSucc.induct k with
  | case1 => simp [chunksOfSucc]
  | case2 x xs ih => rw [chunksOfSucc, List.flatten_cons, ih, List.take_append_drop]

theorem batches_take_flatten {α : Type} (size b : Nat) (xs : List α) (hsize : 0 < size) :
    ((batches size xs).take b).flatten = xs.take (b * size) := by
  rw [batches, chunksOfSucc_take_flatten, Nat.sub_add_cancel hsize]

theorem batches_flatten {α : Type} (size : Nat) (xs : List α) : (batches size xs).flatten = xs :=
  chunksOfSucc_flatten _ xs

/-! ### Watched worlds -/

variable {σ : Type}

/-- A sink that records in `sent` every batch it accepts, and nothing else. -/
structure Sink.Logs (sink : Sink (StateM σ)) (sent : σ → List (List Observation)) : Prop where
  send_ok (os : List Observation) (s : σ) (accepted : List Json) :
    ((sink.send os).run s).1 = .ok accepted → sent ((sink.send os).run s).2 = sent s ++ [os]
  send_error (os : List Observation) (s : σ) (e : SinkFault) :
    ((sink.send os).run s).1 = .error e → sent ((sink.send os).run s).2 = sent s

/-- A world in which a cycle's device-state store recalls its content `read`, its sink records
the batches it accepts in `sent`, and no part of the cycle changes what another part holds. -/
structure PollCycle.Watched (c : PollCycle (StateM σ)) (read : σ → StateKey → Option DeviceState)
    (sent : σ → List (List Observation)) : Prop where
  recalls : Recalls c.filter.store read c.filter.config.quietPeriod
  logs : c.sink.Logs sent
  send_read (r : Http.Request) : Keeps read (c.send r)
  send_sent (r : Http.Request) : Keeps sent (c.send r)
  get_read (i a : String) : Keeps read (c.checkpoints.get i a)
  get_sent (i a : String) : Keeps sent (c.checkpoints.get i a)
  set_read (i a : String) (cp : Checkpoint) : Keeps read (c.checkpoints.set i a cp)
  set_sent (i a : String) (cp : Checkpoint) : Keeps sent (c.checkpoints.set i a cp)
  sink_read (os : List Observation) : Keeps read (c.sink.send os)
  states_get_sent (k : StateKey) : Keeps sent (c.states.get k)
  states_set_sent (k : StateKey) (d : DeviceState) (t : Option Duration) : Keeps sent (c.states.set k d t)

theorem PollCycle.Watched.intake_keeps {c : PollCycle (StateM σ)} {read : σ → StateKey → Option DeviceState}
    {sent : σ → List (List Observation)} (hw : c.Watched read sent) {now : Time.Stamp} {s t : σ}
    {i : PollCycle.Intake} (hi : (c.intake now).run.run.run s = (.ok (.ok i), t)) :
    read t = read s ∧ sent t = sent s :=
  ⟨Keeps.of_run (c.keeps_intake hw.send_read hw.get_read now) hi,
    Keeps.of_run (c.keeps_intake hw.send_sent hw.get_sent now) hi⟩

theorem DedupPlan.writesFor_subset (p : DedupPlan) (a b : Nat) :
    ∀ w ∈ p.writesFor a b, w ∈ p.writes.flatten := by
  intro w hw
  unfold DedupPlan.writesFor at hw
  split at hw
  · obtain ⟨l, hl, hwl⟩ := List.mem_flatten.mp hw
    exact List.mem_flatten.mpr ⟨l, List.mem_of_mem_drop (List.mem_of_mem_take hl), hwl⟩
  · cases hw

namespace PollCycle

variable {c : PollCycle (StateM σ)} {read : σ → StateKey → Option DeviceState}
  {sent : σ → List (List Observation)}

theorem Watched.sent_afterWrites (hw : c.Watched read sent) (s : σ) (ws : List StateWrite) :
    sent (c.filter.afterWrites s ws) = sent s := by
  induction ws generalizing s with
  | nil => rfl
  | cons w ws ih =>
    simp only [DedupFilter.afterWrites, List.foldl_cons] at ih ⊢
    rw [ih]
    exact hw.states_set_sent _ _ _ s

/-- A delivery from the forwarded observation `start` on sent some first `b` batches: the sink
logged them and the writes they owe were made, and nothing else. Either every batch went out and
the delivery succeeded, or the sink rejected batch `b`. -/
theorem deliver_run (hw : c.Watched read sent) (p : DedupPlan)
    (htimed : ∀ w ∈ p.writes.flatten, c.filter.Timed w) :
    ∀ (bs : List (List Observation)) (start extracted count : Nat) (s s' : σ)
      (r : Except Halt (Except PollFault (Nat × Nat))),
      start + bs.flatten.length ≤ p.writes.length →
      (c.deliver p bs start extracted count).run.run.run s = (r, s') →
      ∃ b ≤ bs.length, sent s' = sent s ++ bs.take b ∧
        read s' = c.filter.written (read s) ((p.writes.drop start).take (bs.take b).flatten.length).flatten ∧
        ((b = bs.length ∧ ∃ counts, r = .ok (.ok counts)) ∨
          (b < bs.length ∧ ∃ e, r = .ok (.error (.sink e)))) := by
  intro bs
  induction bs with
  | nil =>
    intro start extracted count s s' r _ hrun
    obtain ⟨rfl, rfl⟩ := Prod.mk.inj hrun
    exact ⟨0, Nat.le_refl _, by simp, by simp [DedupFilter.written], .inl ⟨rfl, _, rfl⟩⟩
  | cons batch bs ih =>
    intro start extracted count s s' r hfit hrun
    simp only [List.flatten_cons, List.length_append] at hfit
    simp only [deliver] at hrun
    rcases hsink : (c.sink.send batch).run s with ⟨res, s₁⟩
    have hread₁ : read s₁ = read s := Keeps.of_run (hw.sink_read batch) hsink
    cases res with
    | error e =>
      have hstep : (step (c.sink.send batch) .sink).run.run.run s = (.ok (.error (.sink e)), s₁) := by
        rw [step_run, hsink]
        rfl
      rw [cycle_bind_fault hstep] at hrun
      obtain ⟨rfl, rfl⟩ := Prod.mk.inj hrun
      have hsent₁ : sent s₁ = sent s := by
        have h := hw.logs.send_error batch s e (by rw [hsink])
        rwa [hsink] at h
      exact ⟨0, Nat.zero_le _, by simp [hsent₁], by simp [DedupFilter.written, hread₁],
        .inr ⟨Nat.succ_pos _, e, rfl⟩⟩
    | ok accepted =>
      have hstep : (step (c.sink.send batch) .sink).run.run.run s = (.ok (.ok accepted), s₁) := by
        rw [step_run, hsink]
        rfl
      have hsent₁ : sent s₁ = sent s ++ [batch] := by
        have h := hw.logs.send_ok batch s accepted (by rw [hsink])
        rwa [hsink] at h
      have hcommit := c.filter.commitBatch_run hw.recalls p start (start + batch.length) s₁
      rw [cycle_bind_ok hstep, cycle_bind_ok (dedupStep_ok hcommit)] at hrun
      obtain ⟨b, hb, hsent, hread, hout⟩ := ih (start + batch.length) _ _ _ _ _ (by omega) hrun
      have hfor : p.writesFor start (start + batch.length) =
          ((p.writes.drop start).take batch.length).flatten := by
        simp [DedupPlan.writesFor, show start + batch.length ≤ p.writes.length by omega]
      have hread₂ : read (c.filter.afterWrites s₁ (p.writesFor start (start + batch.length))) =
          c.filter.written (read s) (p.writesFor start (start + batch.length)) := by
        rw [c.filter.read_afterWrites hw.recalls, hread₁]
        exact fun w hw' => htimed w (p.writesFor_subset _ _ w hw')
      refine ⟨b + 1, by simpa using hb, ?_, ?_, ?_⟩
      · rw [hsent, hw.sent_afterWrites, hsent₁]
        simp
      · rw [hread, hread₂, ← c.filter.written_append, hfor, ← List.flatten_append]
        simp only [List.take_succ_cons, List.flatten_cons, List.length_append, List.take_add,
          List.drop_drop]
      · rcases hout with ⟨rfl, hok⟩ | ⟨hlt, hfault⟩
        · exact .inl ⟨rfl, hok⟩
        · exact .inr ⟨by simpa using hlt, hfault⟩

theorem advance_fault_inv {previous latest : Option Time.Stamp} {s s' : σ} {e : PollFault}
    (h : (c.advance previous latest).run.run.run s = (.ok (.error e), s')) : ∃ e', e = .store e' := by
  cases latest with
  | none =>
    rw [advance, cycle_pure_run] at h
    cases (Prod.mk.inj h).1
  | some t =>
    simp only [advance] at h
    rcases cycle_bind_fault_inv h with hset | ⟨u, s₁, -, hpure⟩
    · rw [step_run] at hset
      cases hr : ((c.checkpoints.set c.integration.id pullActionId ⟨t⟩).run s).1 with
      | error e' =>
        rw [hr] at hset
        cases (Prod.mk.inj hset).1
        exact ⟨e', rfl⟩
      | ok u =>
        rw [hr] at hset
        cases (Prod.mk.inj hset).1
    · rw [cycle_pure_run] at hpure
      cases (Prod.mk.inj hpure).1

theorem keeps_advance {β : Type} {v : σ → β} (hset : ∀ i a cp, Keeps v (c.checkpoints.set i a cp))
    (previous latest : Option Time.Stamp) : Keeps v (c.advance previous latest).run.run := by
  cases latest with
  | none => exact Keeps.cycle_pure _
  | some t => exact (Keeps.step (hset _ _ _) _).cycle_bind fun _ => Keeps.cycle_pure _

/-- Delivering a plan ends with the sink's fault only where delivering its batches did: the
trailing writes do not fail. -/
theorem deliverPlan_sink_inv (hw : c.Watched read sent) {p : DedupPlan} {s s' : σ} {e : SinkFault}
    (h : (c.deliverPlan p).run.run.run s = (.ok (.error (.sink e)), s')) :
    (c.deliver p (batches c.batchSize p.forwarded) 0 0 0).run.run.run s = (.ok (.error (.sink e)), s') := by
  unfold deliverPlan at h
  rcases cycle_bind_fault_inv h with hdeliver | ⟨counts, s₁, -, hrest⟩
  · exact hdeliver
  · rw [cycle_bind_ok (dedupStep_ok (c.filter.commitTrailing_run hw.recalls p s₁)), cycle_pure_run] at hrest
    cases (Prod.mk.inj hrest).1

theorem batches_fit {size : Nat} {p : DedupPlan} (hlen : p.writes.length = p.forwarded.length) :
    0 + (batches size p.forwarded).flatten.length ≤ p.writes.length :=
  Nat.le_of_eq (by rw [batches_flatten, hlen, Nat.zero_add])

/-- A plan whose delivery the sink stopped: its first `b` batches were logged and the writes
they owe were made, and nothing else. -/
theorem deliverPlan_sink_run (hw : c.Watched read sent) (hsize : 0 < c.batchSize) {p : DedupPlan}
    {s s' : σ} {e : SinkFault} (htimed : ∀ w ∈ p.writes.flatten, c.filter.Timed w)
    (hlen : p.writes.length = p.forwarded.length)
    (h : (c.deliverPlan p).run.run.run s = (.ok (.error (.sink e)), s')) :
    ∃ b < (batches c.batchSize p.forwarded).length,
      ((sent s').drop (sent s).length).flatten = p.forwarded.take (b * c.batchSize) ∧
      read s' = c.filter.written (read s) (p.writes.take (b * c.batchSize)).flatten := by
  obtain ⟨b, -, hsent, hread, hout⟩ :=
    deliver_run hw p htimed _ 0 0 0 s s' _ (batches_fit hlen) (deliverPlan_sink_inv hw h)
  have hb : b < (batches c.batchSize p.forwarded).length := by
    rcases hout with ⟨-, counts, hok⟩ | ⟨hlt, -⟩
    · cases hok
    · exact hlt
  have hdelivered := batches_take_flatten c.batchSize b p.forwarded hsize
  refine ⟨b, hb, by rw [hsent, List.drop_left, hdelivered], ?_⟩
  rw [hread, List.drop_zero, hdelivered, List.length_take, ← hlen, ← List.take_eq_take_min]

theorem deliverPlan_ok_sent (hw : c.Watched read sent) {p : DedupPlan} {s s' : σ} {counts : Nat × Nat}
    (htimed : ∀ w ∈ p.writes.flatten, c.filter.Timed w) (hlen : p.writes.length = p.forwarded.length)
    (h : (c.deliverPlan p).run.run.run s = (.ok (.ok counts), s')) :
    sent s' = sent s ++ batches c.batchSize p.forwarded := by
  unfold deliverPlan at h
  obtain ⟨delivered, s₁, hdeliver, hrest⟩ := cycle_bind_ok_inv h
  obtain ⟨b, -, hsent, -, hout⟩ := deliver_run hw p htimed _ 0 0 0 s s₁ _ (batches_fit hlen) hdeliver
  have hall : b = (batches c.batchSize p.forwarded).length := by
    rcases hout with ⟨hb, -⟩ | ⟨-, e, he⟩
    · exact hb
    · cases he
  have htrail : Keeps sent (PollCycle.dedupStep (c.filter.commitTrailing p) >>= fun _ =>
      (pure delivered : CycleM (StateM σ) (Nat × Nat))).run.run :=
    (Keeps.dedupStep (c.filter.keeps_apply hw.states_set_sent _)).cycle_bind fun _ => Keeps.cycle_pure _
  rw [Keeps.of_run htrail hrest, hsent, hall, List.take_length]

/-- A cycle the sink stopped was stopped while it delivered its plan: the checkpoint step fails
only with a store fault. -/
theorem run_sink_inv {now : Time.Stamp} {s s₁ t : σ} {i : Intake} {p : DedupPlan} {e : SinkFault}
    (hi : (c.intake now).run.run.run s = (.ok (.ok i), t))
    (hplan : (c.filter.plan i.observations).run.run t = (.ok p, t))
    (hrun : (c.run now).run.run.run s = (.ok (.error (.sink e)), s₁)) :
    (c.deliverPlan p).run.run.run t = (.ok (.error (.sink e)), s₁) := by
  unfold run at hrun
  rw [cycle_bind_ok hi, cycle_bind_ok (dedupStep_ok hplan)] at hrun
  rcases cycle_bind_fault_inv hrun with hdeliver | ⟨⟨extracted, count⟩, s₂, -, hrest⟩
  · exact hdeliver
  · rcases cycle_bind_fault_inv hrest with hadvance | ⟨cp, s₃, -, hpure⟩
    · obtain ⟨e', he'⟩ := advance_fault_inv hadvance
      cases he'
    · rw [cycle_pure_run] at hpure
      cases (Prod.mk.inj hpure).1

/-- A cycle that succeeded logged exactly the batches of what its page forwards on the content
it started from. -/
theorem run_ok_sent (hw : c.Watched read sent) {now : Time.Stamp} {s s' t : σ} {i : Intake}
    {report : CycleReport} (hi : (c.intake now).run.run.run s = (.ok (.ok i), t))
    (hrun : (c.run now).run.run.run s = (.ok (.ok report), s')) :
    sent s' = sent s ++ batches c.batchSize (c.filter.forwardedFrom (read s) i.observations) := by
  obtain ⟨hreadt, hsentt⟩ := hw.intake_keeps hi
  have hplan := c.filter.plan_planned hw.recalls i.observations t
  unfold run at hrun
  rw [cycle_bind_ok hi, cycle_bind_ok (dedupStep_ok hplan)] at hrun
  obtain ⟨counts, sₘ, hdelivery, hrest⟩ := cycle_bind_ok_inv hrun
  obtain ⟨cp, s₁, hadvance, hpure⟩ := cycle_bind_ok_inv hrest
  obtain ⟨-, rfl⟩ := cycle_pure_ok_inv hpure
  have hdelivered := deliverPlan_ok_sent hw (c.filter.planned_timed _ [] _ (by simp))
    (c.filter.planned_writes_length _ _ _) hdelivery
  rw [Keeps.of_run (c.keeps_advance hw.set_sent _ _) hadvance, hdelivered, hsentt,
    c.filter.planned_forwarded, hreadt]

theorem intake_page_eq {now₁ now₂ : Time.Stamp} {s₁ s₂ t₁ t₂ : σ} {i₁ i₂ : Intake}
    (hi₁ : (c.intake now₁).run.run.run s₁ = (.ok (.ok i₁), t₁))
    (hi₂ : (c.intake now₂).run.run.run s₂ = (.ok (.ok i₂), t₂))
    (hsame : i₂.fetched.records = i₁.fetched.records) : i₂.observations = i₁.observations := by
  obtain ⟨offset₁, -, -, hoffset₁, -, -, hconvert₁, -⟩ := intake_ok_inv hi₁
  obtain ⟨offset₂, -, -, hoffset₂, -, -, hconvert₂, -⟩ := intake_ok_inv hi₂
  rw [hoffset₁, Except.ok.injEq] at hoffset₂
  rw [← hoffset₂, hsame, hconvert₁, Except.ok.injEq, Except.ok.injEq] at hconvert₂
  exact hconvert₂.symm

/-- Let a cycle fail because the sink rejected one of its batches, and let a later cycle, given
the same records by the vendor and with the device states as the first one left them, succeed.
The first cycle delivered the first `b` batches of its plan. Then the second one delivers some
observations of the page up to the last one the first delivered, and after them exactly what
the first cycle planned and did not deliver, in order. When no device occurs twice in that part
of the page, it delivers exactly what the first did not, so across the two cycles every planned
observation is delivered once. -/
theorem retry_delivers_undelivered (hw : c.Watched read sent) (hsize : 0 < c.batchSize)
    {now₁ now₂ : Time.Stamp} {s₀ s₁ s₂ s₃ t₁ t₂ : σ} {e : SinkFault} {report : CycleReport}
    {i₁ i₂ : Intake}
    (hrun₁ : (c.run now₁).run.run.run s₀ = (.ok (.error (.sink e)), s₁))
    (hi₁ : (c.intake now₁).run.run.run s₀ = (.ok (.ok i₁), t₁))
    (hgap : read s₂ = read s₁)
    (hrun₂ : (c.run now₂).run.run.run s₂ = (.ok (.ok report), s₃))
    (hi₂ : (c.intake now₂).run.run.run s₂ = (.ok (.ok i₂), t₂))
    (hsame : i₂.fetched.records = i₁.fetched.records) :
    ∃ (p₁ : DedupPlan) (b : Nat) (P S : List Observation),
      (c.filter.plan i₁.observations).run.run t₁ = (.ok p₁, t₁) ∧
      b < (batches c.batchSize p₁.forwarded).length ∧
      ((sent s₁).drop (sent s₀).length).flatten = p₁.forwarded.take (b * c.batchSize) ∧
      i₁.observations = P ++ S ∧
      c.filter.forwardedFrom (read s₀) P = p₁.forwarded.take (b * c.batchSize) ∧
      (∀ n < P.length, (c.filter.forwardedFrom (read s₀) (P.take n)).length < b * c.batchSize) ∧
      ((sent s₃).drop (sent s₂).length).flatten =
        c.filter.forwardedFrom (read s₁) P ++ p₁.forwarded.drop (b * c.batchSize) ∧
      ((P.map (·.source)).Nodup →
        ((sent s₃).drop (sent s₂).length).flatten = p₁.forwarded.drop (b * c.batchSize)) := by
  obtain ⟨hreadt₁, hsentt₁⟩ := hw.intake_keeps hi₁
  -- the first cycle planned its page on the content it started from, and the sink stopped it
  -- after `b` batches
  have hplan₁ := c.filter.plan_planned hw.recalls i₁.observations t₁
  rw [hreadt₁] at hplan₁
  obtain ⟨b, hb, hsent₁, hread₁⟩ := deliverPlan_sink_run hw hsize
    (c.filter.planned_timed _ [] _ (by simp)) (c.filter.planned_writes_length _ _ _)
    (run_sink_inv hi₁ hplan₁ hrun₁)
  rw [hsentt₁] at hsent₁
  rw [hreadt₁] at hread₁
  obtain ⟨P, S, hsplit, hfwd, hmin, hwritten, hrest⟩ :=
    c.filter.plan_prefix (read s₀) i₁.observations (b * c.batchSize)
  have hr₁ : read s₁ = c.filter.after (read s₀) P := by rw [hread₁, hwritten]
  -- the second cycle delivers what the same page forwards on that content: the prefix again,
  -- then the rest as the first cycle planned it
  have hsecond : ((sent s₃).drop (sent s₂).length).flatten = c.filter.forwardedFrom (read s₁) P ++
      (c.filter.planned (read s₀) [] i₁.observations).forwarded.drop (b * c.batchSize) := by
    rw [run_ok_sent hw hi₂ hrun₂, List.drop_left, batches_flatten, hgap, intake_page_eq hi₁ hi₂ hsame,
      hrest, hr₁, ← c.filter.forwardedFrom_replay, ← hsplit]
  refine ⟨_, b, P, S, hplan₁, hb, hsent₁, hsplit, hfwd, hmin, hsecond, ?_⟩
  intro hnodup
  rw [hsecond, hr₁, c.filter.forwardedFrom_replay_distinct _ _ hnodup, List.nil_append]

end PollCycle

/-! ### A cycle retried after a rejected batch -/

/-- Retrying an attempt whose outcome is fixed and not worth another attempt gives that outcome,
without a wait. -/
theorem retryFrom_pure {m : Type → Type} [Monad m] [LawfulMonad m] {ε α : Type} {r : Except ε α}
    {shouldRetry : ε → Bool} (pause : Nat → m Unit) (h : isRetried shouldRetry r = false) :
    ∀ attempt spare,
      retryFrom (fun _ => (pure r : m (Except ε α))) shouldRetry pause attempt spare = pure r
  | _, 0 => rfl
  | attempt, spare + 1 => by
    cases r with
    | ok a => simp only [retryFrom, pure_bind]
    | error e =>
      have he : shouldRetry e = false := h
      simp only [retryFrom, pure_bind, he, Bool.false_eq_true, if_false]

/-- A vendor that answers every request alike, with an answer not worth another attempt, gives
the same page to every cycle. -/
theorem VendorClient.fetch_const {m : Type → Type} [Monad m] [LawfulMonad m] (client : VendorClient)
    {o : Http.Outcome} (draws : Nat → Float) (request : Http.Request)
    (h : isRetried VendorFault.isRetryable (VendorClient.readOutcome o) = false) :
    client.fetch (fun _ => (pure o : m Http.Outcome)) draws request = pure (VendorClient.readOutcome o) := by
  simp only [VendorClient.fetch, RetryConfig.run, RetryConfig.runSleeping, map_pure, ExceptT.lift_pure]
  exact retryFrom_pure _ h _ _

/-- The fault the sink stopped a cycle with, if the sink stopped it. -/
def PollCycle.sinkStop? {α : Type} : Except Halt (Except PollFault α) → Option SinkFault
  | .ok (.error (.sink e)) => some e
  | _ => none

theorem PollCycle.eq_of_sinkStop? {α : Type} {x : Except Halt (Except PollFault α)} {e : SinkFault}
    (h : PollCycle.sinkStop? x = some e) : x = .ok (.error (.sink e)) := by
  rcases x with _ | (f | _)
  · cases h
  · cases f with
    | sink e' =>
      cases h
      rfl
    | invalid _ | vendor _ | decode _ | store _ => cases h
  · cases h

theorem Except.eq_ok_ok_of_toOption {ε ε' α : Type} {x : Except ε (Except ε' α)} {a : α}
    (h : x.toOption.bind Except.toOption = some a) : x = .ok (.ok a) := by
  rcases x with _ | (_ | b)
  · cases h
  · cases h
  · cases h
    rfl

/-- A world for one integration: the device-state table, how often the sink was called, and the
batches it took. -/
structure RetryWorld where
  table : StateTable := {}
  sinkCalls : Nat := 0
  accepted : List (List Observation) := []

namespace RetryWorld

def onTable {α : Type} (x : StateM StateTable α) : StateM RetryWorld α :=
  modifyGet fun w => let (a, t) := x.run w.table; (a, { w with table := t })

/-- The in-memory store over the world's table at `now`. -/
def states (now : Time.Stamp) : StateStore (StateM RetryWorld) :=
  ⟨fun k => onTable ((StateTable.store now).get k), fun k d t => onTable ((StateTable.store now).set k d t)⟩

/-- A sink that rejects its call number `failAt` and takes every other batch. -/
def sink (failAt : Nat) : Sink (StateM RetryWorld) :=
  ⟨fun os => modifyGet fun w =>
    if w.sinkCalls = failAt then (.error (.rejected 503 "sink unavailable"), { w with sinkCalls := w.sinkCalls + 1 })
    else (.ok [], { w with sinkCalls := w.sinkCalls + 1, accepted := w.accepted ++ [os] })⟩

def page : String :=
  "\x7b\"CommonResult\":\x7b\"ResultCode\":0,\"DataSet\":[" ++
    "[\"u1\",\"Truck 1\",\"Fleet\",\"2024-01-01 00:00:00\",\"Moving\",1,2,0,0]," ++
    "[\"u2\",\"Truck 2\",\"Fleet\",\"2024-01-01 00:05:00\",\"Moving\",3,4,0,0]]\x7d\x7d"

def now : Time.Stamp := ⟨0, 0⟩

/-- A cycle sending one observation a batch, whose vendor always answers `page`, whose checkpoint
store keeps nothing, and whose sink rejects its second call. -/
def cycle : PollCycle (StateM RetryWorld) :=
  { PollCycle.new ⟨"int-1", none⟩ ⟨"user", "secret"⟩ ⟨24, 0, .basic⟩
      ⟨"https://vendor.test", .basic, .default, vendorTimeoutMs⟩ (fun _ => pure (.ok ⟨200, page⟩))
      (states now) ⟨fun _ _ => pure (.ok none), fun _ _ _ => pure (.ok ())⟩ (sink 1) with
    batchSize := 1 }

def read (w : RetryWorld) (k : StateKey) : Option DeviceState := w.table.get k now

theorem sink_run (failAt : Nat) (os : List Observation) (w : RetryWorld) :
    ((sink failAt).send os).run w =
      if w.sinkCalls = failAt then (.error (.rejected 503 "sink unavailable"), { w with sinkCalls := w.sinkCalls + 1 })
      else (.ok [], { w with sinkCalls := w.sinkCalls + 1, accepted := w.accepted ++ [os] }) := rfl

theorem sink_logs (failAt : Nat) : (sink failAt).Logs accepted where
  send_ok os w _ h := by
    rw [sink_run] at h ⊢
    split at h
    · cases h
    · next hfail => rw [if_neg hfail]
  send_error os w _ h := by
    rw [sink_run] at h ⊢
    split at h
    · next hfail => rw [if_pos hfail]
    · cases h

theorem sink_keeps_read (failAt : Nat) (os : List Observation) : Keeps read ((sink failAt).send os) := by
  intro w
  rw [sink_run]
  split <;> rfl

theorem watched : cycle.Watched read accepted where
  recalls :=
    have h := StateTable.store_recalls now cycle.filter.config.quietPeriod (by decide)
    { get_run := fun _ _ => rfl
      set_ok := fun _ _ _ _ => rfl
      read_set := fun k d t w ht => h.read_set k d t w.table ht }
  logs := sink_logs 1
  send_read _ _ := rfl
  send_sent _ _ := rfl
  get_read _ _ _ := rfl
  get_sent _ _ _ := rfl
  set_read _ _ _ _ := rfl
  set_sent _ _ _ _ := rfl
  sink_read := sink_keeps_read 1
  states_get_sent _ _ := rfl
  states_set_sent _ _ _ _ := rfl

/-- The first cycle from an empty world: its outcome and the world it leaves. -/
def first : Except Halt (Except PollFault CycleReport) × RetryWorld :=
  (cycle.run now).run.run.run {}

/-- The cycle run again on the world the first one left. -/
def second : Except Halt (Except PollFault CycleReport) × RetryWorld :=
  (cycle.run now).run.run.run first.2

set_option maxRecDepth 2000 in
/-- What the kernel computes of the two cycles: the first is stopped by the sink, the second
succeeds, and both take in a page whose devices are distinct. -/
theorem outcomes : ∃ e i₁ report i₂,
    first = (.ok (.error (.sink e)), first.2) ∧
    (cycle.intake now).run.run.run {} = (.ok (.ok i₁), ((cycle.intake now).run.run.run {}).2) ∧
    (i₁.observations.map (·.source)).Nodup ∧
    second = (.ok (.ok report), second.2) ∧
    (cycle.intake now).run.run.run first.2 = (.ok (.ok i₂), ((cycle.intake now).run.run.run first.2).2) := by
  have hcheck : ((PollCycle.sinkStop? first.1).isSome &&
      (((cycle.intake now).run.run.run {}).1.toOption.bind Except.toOption).all
        (fun i => decide (i.observations.map (·.source)).Nodup) &&
      (((cycle.intake now).run.run.run {}).1.toOption.bind Except.toOption).isSome &&
      (second.1.toOption.bind Except.toOption).isSome &&
      (((cycle.intake now).run.run.run first.2).1.toOption.bind Except.toOption).isSome) = true := by
    decide +kernel
  rw [Bool.and_eq_true, Bool.and_eq_true, Bool.and_eq_true, Bool.and_eq_true] at hcheck
  obtain ⟨⟨⟨⟨h₁, hdistinct⟩, h₂⟩, h₃⟩, h₄⟩ := hcheck
  obtain ⟨e, he⟩ := Option.isSome_iff_exists.mp h₁
  obtain ⟨i₁, hi₁⟩ := Option.isSome_iff_exists.mp h₂
  obtain ⟨report, hreport⟩ := Option.isSome_iff_exists.mp h₃
  obtain ⟨i₂, hi₂⟩ := Option.isSome_iff_exists.mp h₄
  rw [hi₁] at hdistinct
  -- a run is its outcome paired with its world; only the outcomes were computed
  exact ⟨e, i₁, report, i₂, Prod.fst_eq_iff.mp (PollCycle.eq_of_sinkStop? he),
    Prod.fst_eq_iff.mp (Except.eq_ok_ok_of_toOption hi₁), of_decide_eq_true hdistinct,
    Prod.fst_eq_iff.mp (Except.eq_ok_ok_of_toOption hreport),
    Prod.fst_eq_iff.mp (Except.eq_ok_ok_of_toOption hi₂)⟩

end RetryWorld

/-- In `RetryWorld` the first cycle is stopped by the sink; the second, given the same page,
delivers exactly what the first planned and did not deliver. -/
theorem retry_world_delivers_rest :
    ∃ (i₁ : PollCycle.Intake) (t₁ : RetryWorld) (p₁ : DedupPlan) (b : Nat),
      (RetryWorld.cycle.intake RetryWorld.now).run.run.run {} = (.ok (.ok i₁), t₁) ∧
      (RetryWorld.cycle.filter.plan i₁.observations).run.run t₁ = (.ok p₁, t₁) ∧
      b < (batches RetryWorld.cycle.batchSize p₁.forwarded).length ∧
      (RetryWorld.second.2.accepted.drop RetryWorld.first.2.accepted.length).flatten =
        p₁.forwarded.drop (b * RetryWorld.cycle.batchSize) := by
  obtain ⟨e, i₁, report, i₂, hrun₁, hi₁, hdistinct, hrun₂, hi₂⟩ := RetryWorld.outcomes
  have hanswer : ∀ {i : PollCycle.Intake} {s s' : RetryWorld},
      (RetryWorld.cycle.intake RetryWorld.now).run.run.run s = (.ok (.ok i), s') →
      VendorClient.readOutcome (.ok ⟨200, RetryWorld.page⟩) = .ok i.fetched := by
    intro i s s' hi
    obtain ⟨-, -, -, -, -, -, -, request, s₁, s₂, hfetch⟩ := PollCycle.intake_ok_inv hi
    have hstop : isRetried VendorFault.isRetryable (VendorClient.readOutcome (.ok ⟨200, RetryWorld.page⟩)) =
        false := by
      decide +kernel
    have hconst : RetryWorld.cycle.vendor.fetch RetryWorld.cycle.send RetryWorld.cycle.draws request =
        pure (VendorClient.readOutcome (.ok ⟨200, RetryWorld.page⟩)) :=
      VendorClient.fetch_const _ _ request hstop
    rw [hconst] at hfetch
    exact Except.ok.inj (Prod.mk.inj hfetch).1
  have hsame : i₂.fetched.records = i₁.fetched.records := by
    have h := (hanswer hi₂).symm.trans (hanswer hi₁)
    rw [Except.ok.injEq] at h
    rw [h]
  obtain ⟨p₁, b, P, S, hplan, hb, -, hsplit, -, -, -, hrest⟩ :=
    PollCycle.retry_delivers_undelivered RetryWorld.watched (by decide) hrun₁ hi₁ rfl hrun₂ hi₂ hsame
  refine ⟨i₁, _, p₁, b, hi₁, hplan, hb, hrest ?_⟩
  rw [hsplit, List.map_append] at hdistinct
  exact (List.nodup_append.mp hdistinct).1

end FleetTelemetry
