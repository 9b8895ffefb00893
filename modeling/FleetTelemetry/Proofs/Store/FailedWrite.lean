import FleetTelemetry.Proofs.Poll.Checkpoint
import FleetTelemetry.Cli.Run

/-!
# Writes whose snapshot cannot be written

A file store makes a change in its memory first and writes its snapshot after. When the snapshot
cannot be written (a time with no RFC 3339 text, or a disk that refuses the file), the call
reports the failure and the disk is as it was, but the change is not taken back: later reads on
the same store answer the value that was written (`FileState.failed_write_stays_in_memory`).

So a checkpoint write that fails still moves the checkpoint the store answers. The checkpoint
store of a command-line run over a snapshot is not one whose failed writes change nothing
(`Cli.snapshot_checkpoints_not_holds`): the promise of a poll cycle that a failed run leaves
the checkpoint where it was (`PollCycle.run_checkpoint_last`) does not carry over to it, and a
later cycle on the same store asks the vendor from the checkpoint the failed run wrote.
-/

namespace FleetTelemetry

namespace FileState

section Writes

variable (s : FileState) (d : Disk)

theorem setCheckpoint_store (i a : String) (c : Checkpoint) :
    (s.setCheckpoint d i a c).1 = { s with checkpoints := putCheckpoint (i, a) c s.checkpoints } := by
  cases hp : ({ s with checkpoints := putCheckpoint (i, a) c s.checkpoints } : FileState).persist d <;>
    simp [setCheckpoint, hp]

theorem setCheckpoint_disk_of_error {i a : String} {c : Checkpoint} {e : StoreFault}
    (h : (s.setCheckpoint d i a c).2.2 = .error e) : (s.setCheckpoint d i a c).2.1 = d := by
  cases hp : ({ s with checkpoints := putCheckpoint (i, a) c s.checkpoints } : FileState).persist d with
  | ok d' => simp [setCheckpoint, hp] at h
  | error e' => simp [setCheckpoint, hp]

theorem setState_store (k : StateKey) (st : DeviceState) (ttl : Option Duration) (now : Time.Stamp) :
    (s.setState d k st ttl now).1 = { s with states := (s.states.put k st ttl now).clearExpired now } := by
  cases hp : ({ s with states := (s.states.put k st ttl now).clearExpired now } : FileState).persist d <;>
    simp [setState, hp]

theorem setState_disk_of_error {k : StateKey} {st : DeviceState} {ttl : Option Duration} {now : Time.Stamp}
    {e : StoreFault} (h : (s.setState d k st ttl now).2.2 = .error e) : (s.setState d k st ttl now).2.1 = d := by
  cases hp : ({ s with states := (s.states.put k st ttl now).clearExpired now } : FileState).persist d with
  | ok d' => simp [setState, hp] at h
  | error e' => simp [setState, hp]

theorem persist_of_refused (h : ∀ text, ∃ e, d.replace text = .error e) :
    ∃ e, s.persist d = .error e := by
  unfold persist
  cases Snapshot.ofContents s with
  | error e => exact ⟨_, rfl⟩
  | ok j =>
    obtain ⟨e, he⟩ := h j.pretty
    exact ⟨.io e, by simp [he]⟩

theorem persist_of_unwritable {e : String} (h : Snapshot.ofContents s = .error e) :
    s.persist d = .error (.serialization e) := by
  simp [persist, h]

theorem setCheckpoint_error_of_persist {i a : String} {c : Checkpoint} {e : StoreFault}
    (h : ({ s with checkpoints := putCheckpoint (i, a) c s.checkpoints } : FileState).persist d = .error e) :
    (s.setCheckpoint d i a c).2.2 = .error e := by
  simp [setCheckpoint, h]

end Writes

end FileState

theorem lookup_clearExpired_of_live {now : Time.Stamp} {k : StateKey} {e : StateEntry}
    (hlive : e.isLive now = true) :
    ∀ {l : List (StateKey × StateEntry)}, l.lookup k = some e →
      (l.filter fun p => p.2.isLive now).lookup k = some e
  | [], h => by cases h
  | (k', e') :: l, h => by
    by_cases hk : k = k'
    · -- the entry under the key is this one, and it is kept
      subst hk
      have he : e' = e := by simpa using h
      subst he
      simp [hlive]
    · rw [lookup_cons_ite, if_neg hk] at h
      have ih := lookup_clearExpired_of_live hlive h
      cases hl : e'.isLive now <;> simp [hl, lookup_cons_ite, hk, ih]

/-- A write to a file store that fails leaves the disk as it was but keeps the change in memory:
after a failed checkpoint write the store answers the new checkpoint, and after a failed state
write it answers the new state (unless it was written to expire at once). -/
theorem FileState.failed_write_stays_in_memory (s : FileState) (d : Disk) :
    (∀ i a c e, (s.setCheckpoint d i a c).2.2 = .error e →
      (s.setCheckpoint d i a c).2.1 = d ∧ (s.setCheckpoint d i a c).1.getCheckpoint i a = some c) ∧
    (∀ k st ttl now e, ttl ≠ some .zero → (s.setState d k st ttl now).2.2 = .error e →
      (s.setState d k st ttl now).2.1 = d ∧ (s.setState d k st ttl now).1.getState k now = some st) := by
  constructor
  · intro i a c e h
    refine ⟨setCheckpoint_disk_of_error s d h, ?_⟩
    rw [setCheckpoint_store]
    simp [getCheckpoint, lookup_putCheckpoint]
  · intro k st ttl now e httl h
    refine ⟨setState_disk_of_error s d h, ?_⟩
    have hlive := StateTable.isLive_written st ttl now httl
    have hput : (s.states.put k st ttl now).entries.lookup k = some ⟨st, expiryOf now ttl⟩ := by
      simp [StateTable.put, StateTable.lookup_putEntry]
    rw [setState_store]
    simp only [getState, StateTable.get, StateTable.clearExpired, lookup_clearExpired_of_live hlive hput,
      hlive, if_true]

/-- The first checkpoint of an integration, written at 2024-01-01T00:00:00Z, then a write of
2024-02-01T00:00:00Z after the snapshot's place became a directory: the write fails, and the
store answers the checkpoint it could not write. -/
theorem failed_checkpoint_write_read_back :
    let first : Checkpoint := ⟨⟨1704067200000000000, 0⟩⟩
    let next : Checkpoint := ⟨⟨1706745600000000000, 0⟩⟩
    let before : FileState := { checkpoints := [(("int-1", pullActionId), first)] }
    (∃ e, (before.setCheckpoint { entry := some .directory } "int-1" pullActionId next).2.2 = .error e) ∧
      before.getCheckpoint "int-1" pullActionId = some first ∧
      (before.setCheckpoint { entry := some .directory } "int-1" pullActionId next).1.getCheckpoint
        "int-1" pullActionId = some next := by
  intro first next before
  obtain ⟨e, he⟩ := FileState.persist_of_refused
    { before with checkpoints := putCheckpoint ("int-1", pullActionId) next before.checkpoints }
    { entry := some .directory } fun _ => ⟨isADirectory, rfl⟩
  refine ⟨⟨e, FileState.setCheckpoint_error_of_persist before _ he⟩, rfl, ?_⟩
  · rw [FileState.setCheckpoint_store]
    simp [FileState.getCheckpoint, lookup_putCheckpoint]

namespace Cli

theorem checkpoints_get_run {w : World} {path : String} {s : FileState} (hw : w.snapshot = some (path, s))
    (i a : String) : (checkpoints.get i a).run w = (.ok (s.getCheckpoint i a), w) := by
  simp [checkpoints, hw, modifyGet, MonadStateOf.modifyGet, StateT.modifyGet, StateT.run]
  rfl

theorem checkpoints_set_run {w : World} {path : String} {s : FileState} (hw : w.snapshot = some (path, s))
    (i a : String) (c : Checkpoint) :
    (checkpoints.set i a c).run w =
      ((s.setCheckpoint (w.tree.disk path) i a c).2.2,
        { w with snapshot := some (path, (s.setCheckpoint (w.tree.disk path) i a c).1),
                 tree := w.tree.store path (s.setCheckpoint (w.tree.disk path) i a c).2.1 }) := by
  simp [checkpoints, hw, modifyGet, MonadStateOf.modifyGet, StateT.modifyGet, StateT.run]
  rfl

/-- The checkpoint store of a run over a snapshot is not one whose failed writes change nothing,
whatever its content is taken to be. A vendor that reports it has data up to the year -1 (which
the vendor's layout reads, with its sign) makes the cycle write a checkpoint with no RFC 3339
text: the write fails, and the store then answers that checkpoint. -/
theorem snapshot_checkpoints_not_holds : ¬ ∃ held, (checkpoints : CheckpointStore RunM).Holds held := by
  rintro ⟨held, hholds⟩
  let first : Checkpoint := ⟨⟨1704067200000000000, 0⟩⟩
  let next : Checkpoint := ⟨⟨-62198755200000000000, 0⟩⟩
  let s : FileState := { checkpoints := [(("int-1", pullActionId), first)] }
  let w : World := { network := ⟨[]⟩, tree := { workDir := "/run" }, snapshot := some ("state.json", s) }
  have hw : w.snapshot = some ("state.json", s) := rfl
  -- the year -1 has no RFC 3339 text, so no snapshot holding it can be written
  let s' : FileState := { s with checkpoints := putCheckpoint ("int-1", pullActionId) next s.checkpoints }
  have hnone : (Snapshot.ofContents s').toOption.isNone = true := by
    decide +kernel
  obtain ⟨e, he⟩ : ∃ e, Snapshot.ofContents s' = .error e := by
    cases h : Snapshot.ofContents s' with
    | error e => exact ⟨e, rfl⟩
    | ok j => simp [h, Except.toOption] at hnone
  have hfail := FileState.setCheckpoint_error_of_persist s (w.tree.disk "state.json")
    (FileState.persist_of_unwritable s' (w.tree.disk "state.json") he)
  have hset := checkpoints_set_run hw "int-1" pullActionId next
  -- the failed write changes nothing for `held`, yet the store now answers the new checkpoint
  have hkeep := hholds.set_error "int-1" pullActionId next w _ (by rw [hset, hfail])
  have hbefore := hholds.get_ok "int-1" pullActionId w (some first) (by rw [checkpoints_get_run hw]; rfl)
  have hafter := hholds.get_ok "int-1" pullActionId ((checkpoints.set "int-1" pullActionId next).run w).2
    (some next) (by
      rw [hset, checkpoints_get_run rfl, FileState.setCheckpoint_store]
      simp [FileState.getCheckpoint, lookup_putCheckpoint])
  rw [hkeep, ← hbefore] at hafter
  have hutc := congrArg (fun c : Option Checkpoint => c.map (·.lastUpdatedTime.utc)) hafter
  simp [next, first] at hutc

end Cli

end FleetTelemetry
