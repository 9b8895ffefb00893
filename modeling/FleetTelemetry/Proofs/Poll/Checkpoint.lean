import FleetTelemetry.Proofs.Poll.Frame
import FleetTelemetry.Request.Poll

/-!
# The checkpoint moves last

A cycle reads its checkpoint first and writes it last. The world `σ` here has a checkpoint store
holding `held` (`CheckpointStore.Holds`): a read answers what is held, a write that succeeds
stores its checkpoint and one that fails changes nothing. The other parts of the cycle leave
`held` alone (`PollCycle.OthersKeep`).

`run_checkpoint_last` says what a run does to the checkpoint. A run that does not succeed,
whichever step fails or stops it, leaves it as it was: every phase before the last keeps it, and
the last one changes it only by a write that succeeds, after which the run succeeds. A run that
succeeds went through its phases in order: the first steps, the plan, the delivery of every batch
with its writes and then the trailing writes, all with the checkpoint as it was, and only then
the checkpoint step. That step moved the checkpoint to the time the vendor reported up to, or
left it alone when the vendor reported none, and the run reports what is then stored.

The poll world of the requests is such a world (`PollWorld.checkpoints_hold`,
`PollWorld.others_keep`).
-/

namespace FleetTelemetry

variable {σ : Type}

/-- A checkpoint store whose content in the world is `held`: a read that succeeds answers the
content and no read changes it; a write that succeeds stores its checkpoint under its key, and a
write that fails changes nothing. -/
structure CheckpointStore.Holds (store : CheckpointStore (StateM σ))
    (held : σ → String × String → Option Checkpoint) : Prop where
  get_keeps (i a : String) : Keeps held (store.get i a)
  get_ok (i a : String) (s : σ) (cp : Option Checkpoint) :
    ((store.get i a).run s).1 = .ok cp → cp = held s (i, a)
  set_ok (i a : String) (cp : Checkpoint) (s : σ) : ((store.set i a cp).run s).1 = .ok () →
    held ((store.set i a cp).run s).2 = Function.update (held s) (i, a) (some cp)
  set_error (i a : String) (cp : Checkpoint) (s : σ) (e : StoreFault) :
    ((store.set i a cp).run s).1 = .error e → held ((store.set i a cp).run s).2 = held s

/-- The parts of a cycle other than its checkpoint store leave the view `v` alone. -/
structure PollCycle.OthersKeep {β : Type} (c : PollCycle (StateM σ)) (v : σ → β) : Prop where
  send (r : Http.Request) : Keeps v (c.send r)
  get (k : StateKey) : Keeps v (c.states.get k)
  set (k : StateKey) (d : DeviceState) (t : Option Duration) : Keeps v (c.states.set k d t)
  sink (os : List Observation) : Keeps v (c.sink.send os)

/-- The checkpoints after the checkpoint step of a cycle whose vendor reported up to `latest`. -/
def PollCycle.advanced {m : Type → Type} (c : PollCycle m) (held : String × String → Option Checkpoint) :
    Option Time.Stamp → String × String → Option Checkpoint
  | some t => Function.update held (c.integration.id, pullActionId) (some ⟨t⟩)
  | none => held

namespace PollCycle

variable {c : PollCycle (StateM σ)} {held : σ → String × String → Option Checkpoint}

/-- What the first steps of a cycle read and made when they succeed: the offset is valid, the
checkpoint was read, the window starts from it, the page is the vendor's answer to a request,
and the observations are its rows converted. -/
theorem intake_ok_inv {now : Time.Stamp} {s s' : σ} {i : Intake}
    (h : (c.intake now).run.run.run s = (.ok (.ok i), s')) :
    ∃ offset cp s₁, c.pullConfig.utcOffset = .ok offset ∧
      (c.checkpoints.get c.integration.id pullActionId).run s = (.ok cp, s₁) ∧
      i.previous = cp.map Checkpoint.lastUpdatedTime ∧
      (convertAll c.vendor.schema offset c.convertOptions i.fetched.records).run =
        .ok (.ok i.observations) ∧
      ∃ request s₂ s₃, (c.vendor.fetch c.send c.draws request).run.run s₂ = (.ok (.ok i.fetched), s₃) := by
  unfold intake at h
  obtain ⟨offset, s₁, hoffset, h⟩ := cycle_bind_ok_inv h
  obtain ⟨previous, s₂, hread, h⟩ := cycle_bind_ok_inv h
  obtain ⟨window, s₃, -, h⟩ := cycle_bind_ok_inv h
  obtain ⟨request, s₄, -, h⟩ := cycle_bind_ok_inv h
  obtain ⟨fetched, s₅, hfetch, h⟩ := cycle_bind_ok_inv h
  obtain ⟨converted, s₆, hconverted, h⟩ := cycle_bind_ok_inv h
  obtain ⟨observations, s₇, hobservations, h⟩ := cycle_bind_ok_inv h
  obtain ⟨rfl, -⟩ := cycle_pure_ok_inv h
  obtain ⟨hvalid, rfl⟩ := pureFault_ok_inv hoffset
  rw [map_eq_pure_bind] at hread
  obtain ⟨cp, s₈, hget, hpure⟩ := cycle_bind_ok_inv hread
  obtain ⟨rfl, -⟩ := cycle_pure_ok_inv hpure
  obtain ⟨hconvert, -⟩ := pureHalt_ok_inv hconverted
  obtain ⟨hdecoded, -⟩ := pureFault_ok_inv hobservations
  refine ⟨offset, cp, s₈, Except.eq_ok_of_mapError hvalid, step_ok_inv hget, rfl, ?_,
    request, s₄, s₅, haltingStep_ok_inv hfetch⟩
  rw [hconvert, Except.eq_ok_of_mapError hdecoded]

/-- The checkpoint step, when it succeeds: it stored the vendor's time if there was one, and
answers that time, else the checkpoint read at the start. -/
theorem advance_ok (hcp : c.checkpoints.Holds held) {previous latest cp : Option Time.Stamp}
    {s s' : σ} (h : (c.advance previous latest).run.run.run s = (.ok (.ok cp), s')) :
    held s' = c.advanced (held s) latest ∧ cp = latest.or previous := by
  cases latest with
  | none =>
    obtain ⟨rfl, rfl⟩ := cycle_pure_ok_inv h
    exact ⟨rfl, rfl⟩
  | some t =>
    simp only [advance] at h
    obtain ⟨u, s₁, hset, hpure⟩ := cycle_bind_ok_inv h
    obtain ⟨rfl, rfl⟩ := cycle_pure_ok_inv hpure
    have hwrite := step_ok_inv hset
    have hstored := hcp.set_ok c.integration.id pullActionId ⟨t⟩ s (by rw [hwrite])
    rw [hwrite] at hstored
    exact ⟨hstored, rfl⟩

theorem step_keepsOnFailure {ε α β : Type} {v : σ → β} {y : StateM σ (Except ε α)}
    (hy : ∀ s e, (y.run s).1 = .error e → v (y.run s).2 = v s) (wrap : ε → PollFault) :
    KeepsOnFailure v (step y wrap) := by
  intro s hfail
  rw [step_run] at hfail ⊢
  cases hr : (y.run s).1 with
  | error e => exact hy s e hr
  | ok a => exact absurd (by rw [hr]; rfl) (hfail a)

theorem advance_keepsOnFailure (hcp : c.checkpoints.Holds held) (previous latest : Option Time.Stamp) :
    KeepsOnFailure held (c.advance previous latest) := by
  cases latest with
  | none => exact (Keeps.cycle_pure _).onFailure
  | some t =>
    simp only [advance]
    exact (step_keepsOnFailure (fun s e h => hcp.set_error _ _ _ s e h) _).bind_pure _

/-- A run that does not succeed leaves the checkpoint as it was. A run that succeeds delivered
its whole plan, every batch with its writes and then the trailing writes, with the checkpoint as
it was; its last step then moved the checkpoint to the time the vendor reported up to, or left it
alone when the vendor reported none; and it reports the checkpoint then stored. -/
theorem run_checkpoint_last (hcp : c.checkpoints.Holds held) (hothers : c.OthersKeep held)
    (now : Time.Stamp) {s₀ s₁ : σ} {r : Except Halt (Except PollFault CycleReport)}
    (hrun : (c.run now).run.run.run s₀ = (r, s₁)) :
    ((∀ report, r ≠ .ok (.ok report)) → held s₁ = held s₀) ∧
    ∀ report, r = .ok (.ok report) →
      ∃ (i : Intake) (p : DedupPlan) (counts : Nat × Nat) (sᵢ sₚ sₘ : σ),
        (c.intake now).run.run.run s₀ = (.ok (.ok i), sᵢ) ∧
        (dedupStep (c.filter.plan i.observations)).run.run.run sᵢ = (.ok (.ok p), sₚ) ∧
        (c.deliverPlan p).run.run.run sₚ = (.ok (.ok counts), sₘ) ∧
        held sₘ = held s₀ ∧
        (c.advance i.previous i.fetched.maxGmtUpdateTime).run.run.run sₘ =
          (.ok (.ok report.checkpoint), s₁) ∧
        held s₁ = c.advanced (held s₀) i.fetched.maxGmtUpdateTime ∧
        report.checkpoint = (held s₁ (c.integration.id, pullActionId)).map Checkpoint.lastUpdatedTime := by
  have hintake := c.keeps_intake hothers.send hcp.get_keeps now
  have hplan : ∀ os, Keeps held (dedupStep (c.filter.plan os)).run.run :=
    fun os => Keeps.dedupStep (c.filter.keeps_plan hothers.get os)
  have hdeliver := c.keeps_deliverPlan hothers.sink hothers.set
  constructor
  · -- every phase but the last keeps the checkpoint, and the last keeps it when it fails
    intro hfail
    have hkeeps : KeepsOnFailure held (c.run now) := by
      unfold run
      refine KeepsOnFailure.bind hintake fun i => ?_
      refine KeepsOnFailure.bind (hplan _) fun p => ?_
      refine KeepsOnFailure.bind (hdeliver p) fun counts => ?_
      obtain ⟨extracted, sent⟩ := counts
      exact (advance_keepsOnFailure hcp _ _).bind_pure _
    have hs := hkeeps s₀ (by rw [hrun]; exact hfail)
    rwa [hrun] at hs
  · intro report hreport
    subst hreport
    unfold run at hrun
    obtain ⟨i, sᵢ, hi, hrun⟩ := cycle_bind_ok_inv hrun
    obtain ⟨p, sₚ, hp, hrun⟩ := cycle_bind_ok_inv hrun
    obtain ⟨⟨extracted, sent⟩, sₘ, hd, hrun⟩ := cycle_bind_ok_inv hrun
    obtain ⟨cp, s₂, hadvance, hpure⟩ := cycle_bind_ok_inv hrun
    obtain ⟨rfl, rfl⟩ := cycle_pure_ok_inv hpure
    have hsᵢ : held sᵢ = held s₀ := Keeps.of_run hintake hi
    have hsₚ : held sₚ = held sᵢ := Keeps.of_run (hplan i.observations) hp
    have hsₘ : held sₘ = held s₀ := by
      rw [Keeps.of_run (hdeliver p) hd, hsₚ, hsᵢ]
    obtain ⟨hheld, hanswer⟩ := advance_ok hcp hadvance
    obtain ⟨offset, read, s₃, -, hget, hprevious, -⟩ := intake_ok_inv hi
    have hread : read = held s₀ (c.integration.id, pullActionId) :=
      hcp.get_ok _ _ s₀ read (by rw [hget])
    rw [hsₘ] at hheld
    refine ⟨i, p, (extracted, sent), sᵢ, sₚ, sₘ, hi, hp, hd, hsₘ, hadvance, hheld, ?_⟩
    rw [hheld, hanswer]
    cases hlatest : i.fetched.maxGmtUpdateTime with
    | none => simp [advanced, hprevious, hread]
    | some t => simp [advanced]

end PollCycle

/-! ### The poll world of the requests -/

theorem lookup_putCheckpoint (k k' : String × String) (cp : Checkpoint)
    (l : List ((String × String) × Checkpoint)) :
    (putCheckpoint k cp l).lookup k' = if k' = k then some cp else l.lookup k' := by
  induction l with
  | nil => simp only [putCheckpoint, lookup_cons_ite, List.lookup_nil]
  | cons p l ih =>
    obtain ⟨j, cp'⟩ := p
    by_cases hj : j = k
    · subst hj
      simp only [putCheckpoint, if_true, lookup_cons_ite]
      by_cases h : k' = j <;> simp [h]
    · simp only [putCheckpoint, hj, if_false, lookup_cons_ite, ih]
      by_cases h : k' = j
      · subst h
        simp [hj]
      · simp [h]

namespace Request.PollWorld

def held (w : PollWorld) (k : String × String) : Option Checkpoint := w.checkpoints.lookup k

/-- The poll world's checkpoint store holds its checkpoints, failing on purpose only by
leaving them alone. -/
theorem checkpoints_hold : CheckpointStore.Holds checkpointStore held where
  get_keeps i a w := by
    simp only [checkpointStore, StateT.run, modifyGet, MonadStateOf.modifyGet, StateT.modifyGet]
    split <;> rfl
  get_ok i a w cp h := by
    simp only [checkpointStore, StateT.run, modifyGet, MonadStateOf.modifyGet, StateT.modifyGet] at h
    split at h
    · cases h
    · exact (Except.ok.inj h).symm
  set_ok i a cp w h := by
    simp only [checkpointStore, StateT.run, modifyGet, MonadStateOf.modifyGet, StateT.modifyGet] at h ⊢
    by_cases hfault : w.checkpointFaults.set.contains w.checkpointSets = true
    · simp only [hfault, if_true] at h
      cases h
    · simp only [hfault, Bool.false_eq_true, if_false]
      funext k
      show (putCheckpoint (i, a) cp w.checkpoints).lookup k = _
      rw [lookup_putCheckpoint, Function.update_apply]
      rfl
  set_error i a cp w e h := by
    simp only [checkpointStore, StateT.run, modifyGet, MonadStateOf.modifyGet, StateT.modifyGet] at h ⊢
    by_cases hfault : w.checkpointFaults.set.contains w.checkpointSets = true
    · simp only [hfault, if_true]
      rfl
    · simp only [hfault] at h
      cases h

theorem recordingSink_keeps (os : List Observation) : Keeps held (recordingSink.send os) := by
  intro w
  simp only [recordingSink, StateT.run, modifyGet, MonadStateOf.modifyGet, StateT.modifyGet]
  split <;> rfl

/-- A cycle over the poll world's parts, delivering to the recording sink, as the poll requests
build it. -/
def recordingCycle (now : Time.Stamp) : PollCycle (StateM PollWorld) :=
  PollCycle.new ⟨"int-1", none⟩ ⟨"user", "secret"⟩ ⟨24, 0, .basic⟩ ⟨"https://vendor.test", .basic, .default, vendorTimeoutMs⟩
    sendVendor (stateStore now) checkpointStore recordingSink

theorem others_keep (now : Time.Stamp) : (recordingCycle now).OthersKeep held where
  send _ _ := rfl
  get _ _ := rfl
  set _ _ _ _ := rfl
  sink := recordingSink_keeps

end Request.PollWorld

theorem run_checkpoint_last_recording :
    CheckpointStore.Holds Request.PollWorld.checkpointStore Request.PollWorld.held ∧
      (Request.PollWorld.recordingCycle ⟨0, 0⟩).OthersKeep Request.PollWorld.held ∧
      ((∀ report, (((Request.PollWorld.recordingCycle ⟨0, 0⟩).run ⟨0, 0⟩).run.run.run {}).1 ≠ .ok (.ok report)) →
        Request.PollWorld.held (((Request.PollWorld.recordingCycle ⟨0, 0⟩).run ⟨0, 0⟩).run.run.run {}).2 =
          Request.PollWorld.held {}) :=
  ⟨Request.PollWorld.checkpoints_hold, Request.PollWorld.others_keep _,
    (PollCycle.run_checkpoint_last Request.PollWorld.checkpoints_hold (Request.PollWorld.others_keep _) ⟨0, 0⟩
      (Prod.eta _).symm).1⟩

end FleetTelemetry
