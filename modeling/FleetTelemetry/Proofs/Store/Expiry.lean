import FleetTelemetry.Proofs.Store.Reopen
import Mathlib.Data.List.Induction

/-!
# Expiry in the device-state table

A device state written with a time to live expires at the instant of the write plus that time,
that instant excluded; with no time to live, or with one that cannot be represented as an
instant after the write, it never expires (`isLive_written_iff`). Reads are lazy: an expired
entry stays in the table, read as absent, until expired entries are cleared. Clearing at an
instant drops only the entries dead at that instant, and a dead entry stays dead, so a read at
that instant or later answers the same with or without the clearing
(`get_clearExpired_of_not_lt`).

A table built by writes and clearings therefore answers a read, at an instant no earlier than
any of the clearings, from the last write under the key alone (`get_replay_of_lastPut`,
`get_replay_of_no_put`), whatever the order of the instants. The table keeps one entry a key
throughout, so rebuilding it from its records answers every read as it does
(`get_fromRecords_records`).
-/

namespace FleetTelemetry

inductive TableOp where
  | put (k : StateKey) (state : DeviceState) (ttl : Option Duration) (now : Time.Stamp)
  | clearExpired (now : Time.Stamp)

namespace TableOp

def apply (t : StateTable) : TableOp → StateTable
  | .put k d ttl now => t.put k d ttl now
  | .clearExpired now => t.clearExpired now

theorem apply_put (t : StateTable) (k : StateKey) (d : DeviceState) (ttl : Option Duration) (now : Time.Stamp) :
    (TableOp.put k d ttl now).apply t = t.put k d ttl now := rfl

theorem apply_clearExpired (t : StateTable) (now : Time.Stamp) :
    (TableOp.clearExpired now).apply t = t.clearExpired now := rfl

/-- The state, time to live and instant of a write under the key `k`. -/
def putTo (k : StateKey) : TableOp → Option (DeviceState × Option Duration × Time.Stamp)
  | .put k' d ttl now => if k' = k then some (d, ttl, now) else none
  | .clearExpired _ => none

/-- The state, time to live and instant of the last write under the key `k`. -/
def lastPut (k : StateKey) (ops : List TableOp) : Option (DeviceState × Option Duration × Time.Stamp) :=
  (ops.filterMap (putTo k)).getLast?

end TableOp

def StateTable.replay (t : StateTable) (ops : List TableOp) : StateTable := ops.foldl TableOp.apply t

/-- Whether a state written at `written` with the time to live `ttl` still reads at `now`: with
no time to live, or one that cannot be represented as an instant after `written`, it never
expires; else it reads until `written` plus the time to live, excluded. -/
def StillLive (written now : Time.Stamp) (ttl : Option Duration) : Prop :=
  ttl = none ∨ ∃ q, ttl = some q ∧ (written.addDuration? q = none ∨ now.utc < written.utc + q.nanos)

/-! ### When an entry reads -/

theorem Time.Stamp.addDuration?_utc {s e : Time.Stamp} {q : Duration} (h : s.addDuration? q = some e) :
    e.utc = s.utc + q.nanos := by
  simp only [Time.Stamp.addDuration?, Time.Stamp.addNanos?] at h
  by_cases hq : q.secs ≤ Word.i64Max.toNat
  · by_cases hr : Time.Stamp.inRange ⟨s.utc + q.nanos, s.offset⟩ = true
    · simp only [hq, hr, if_true, Option.some.injEq] at h
      rw [← h]
    · simp [hq, hr] at h
  · simp [hq] at h

theorem isLive_written_iff (d : DeviceState) (written now : Time.Stamp) (ttl : Option Duration) :
    StateEntry.isLive ⟨d, expiryOf written ttl⟩ now = true ↔ StillLive written now ttl := by
  cases ttl with
  | none => simp [StateEntry.isLive, expiryOf, StillLive]
  | some q =>
    cases he : written.addDuration? q with
    | none => simp [StateEntry.isLive, expiryOf, StillLive, he]
    | some e =>
      have hutc := Time.Stamp.addDuration?_utc he
      simp only [StateEntry.isLive, expiryOf, Option.bind_some, he, StillLive, reduceCtorEq,
        Option.some.injEq, false_or, exists_eq_left', decide_eq_true_eq]
      rw [← hutc]
      rfl

theorem StateEntry.isLive_of_not_lt {e : StateEntry} {t now : Time.Stamp} (hlater : ¬ now < t)
    (h : e.isLive now = true) : e.isLive t = true := by
  unfold StateEntry.isLive at h ⊢
  cases hx : e.expiresAt with
  | none => rfl
  | some x =>
    rw [hx, decide_eq_true_eq] at h
    have hle : t.utc ≤ now.utc := Int.not_lt.mp hlater
    exact decide_eq_true (show t.utc < x.utc from Int.lt_of_le_of_lt hle h)

/-! ### One change -/

namespace StateTable

theorem get_put_at (t : StateTable) (k k' : StateKey) (d : DeviceState) (ttl : Option Duration)
    (written now : Time.Stamp) :
    (t.put k d ttl written).get k' now =
      if k' = k then (if StateEntry.isLive ⟨d, expiryOf written ttl⟩ now then some d else none)
      else t.get k' now := by
  simp only [get, put, lookup_putEntry]
  by_cases hk : k' = k <;> simp [hk]

theorem get_clearExpired_of_not_lt {t : StateTable} (hkeys : (t.entries.map (·.1)).Nodup)
    {cleared now : Time.Stamp} (hlater : ¬ now < cleared) (k : StateKey) :
    (t.clearExpired cleared).get k now = t.get k now := by
  unfold get
  rw [lookup_clearExpired hkeys cleared]
  cases t.entries.lookup k with
  | none => rfl
  | some e =>
    cases hnow : e.isLive now with
    | true =>
      simp [Option.filter, StateEntry.isLive_of_not_lt hlater hnow, hnow]
    | false => cases hcleared : e.isLive cleared <;> simp [Option.filter, hnow, hcleared]

end StateTable

theorem TableOp.keys_nodup_apply (op : TableOp) {t : StateTable} (h : (t.entries.map (·.1)).Nodup) :
    ((op.apply t).entries.map (·.1)).Nodup := by
  cases op with
  | put k d ttl now => exact keys_nodup_put putEntry_replacesInPlace _ _ _ h
  | clearExpired now => exact h.sublist (List.filter_sublist.map _)

/-! ### A run of changes -/

namespace StateTable

theorem replay_snoc (t : StateTable) (ops : List TableOp) (op : TableOp) :
    t.replay (ops ++ [op]) = op.apply (t.replay ops) := by
  simp [replay, List.foldl_append]

theorem keys_nodup_replay {t : StateTable} (h : (t.entries.map (·.1)).Nodup) (ops : List TableOp) :
    ((t.replay ops).entries.map (·.1)).Nodup := by
  induction ops using List.reverseRecOn with
  | nil => exact h
  | append_singleton ops op ih =>
    rw [replay_snoc]
    exact op.keys_nodup_apply ih

variable {t : StateTable} {ops : List TableOp} {k : StateKey} {now : Time.Stamp}

theorem get_replay_clearExpired (hkeys : (t.entries.map (·.1)).Nodup) (ops : List TableOp)
    {cleared : Time.Stamp} (hlater : ¬ now < cleared) :
    (t.replay (ops ++ [.clearExpired cleared])).get k now = (t.replay ops).get k now := by
  rw [replay_snoc, TableOp.apply_clearExpired,
    get_clearExpired_of_not_lt (keys_nodup_replay hkeys ops) hlater]

theorem get_replay_of_no_put (hkeys : (t.entries.map (·.1)).Nodup)
    (hclear : ∀ t', TableOp.clearExpired t' ∈ ops → ¬ now < t') (hnone : TableOp.lastPut k ops = none) :
    (t.replay ops).get k now = t.get k now := by
  induction ops using List.reverseRecOn with
  | nil => rfl
  | append_singleton ops op ih =>
    have hclear' := fun t' h => hclear t' (List.mem_append_left _ h)
    simp only [TableOp.lastPut, List.filterMap_append, List.getLast?_append, Option.or_eq_none_iff]
      at hnone
    cases op with
    | put k' d ttl written =>
      have hk : k ≠ k' := by
        intro hk
        subst hk
        simp [TableOp.putTo] at hnone
      rw [replay_snoc, TableOp.apply_put, get_put_at, if_neg hk, ih hclear' hnone.2]
    | clearExpired cleared =>
      rw [get_replay_clearExpired hkeys ops (hclear cleared (by simp)), ih hclear' hnone.2]

/-- After changes whose clearings all come no later than the read, a read under a key answers the
last write under it, while that write is live. -/
theorem get_replay_of_lastPut (hkeys : (t.entries.map (·.1)).Nodup)
    (hclear : ∀ t', TableOp.clearExpired t' ∈ ops → ¬ now < t') {d : DeviceState} {ttl : Option Duration}
    {written : Time.Stamp} (hlast : TableOp.lastPut k ops = some (d, ttl, written)) :
    (t.replay ops).get k now =
      if StateEntry.isLive ⟨d, expiryOf written ttl⟩ now then some d else none := by
  induction ops using List.reverseRecOn with
  | nil => cases hlast
  | append_singleton ops op ih =>
    have hclear' := fun t' h => hclear t' (List.mem_append_left _ h)
    simp only [TableOp.lastPut, List.filterMap_append, List.getLast?_append] at hlast
    cases op with
    | put k' d' ttl' written' =>
      rw [replay_snoc, TableOp.apply_put, get_put_at]
      by_cases hk : k' = k
      · -- the last change is the last write under the key
        subst hk
        simp only [TableOp.putTo, if_true, List.filterMap_cons,
          List.filterMap_nil, List.getLast?_singleton, Option.some_or, Option.some.injEq,
          Prod.mk.injEq] at hlast
        obtain ⟨rfl, rfl, rfl⟩ := hlast
        rw [if_pos rfl]
      · simp only [TableOp.putTo, hk, if_false, List.filterMap_cons, List.filterMap_nil,
          List.getLast?_nil, Option.none_or] at hlast
        rw [if_neg (Ne.symm hk), ih hclear' hlast]
    | clearExpired cleared =>
      simp only [TableOp.putTo, List.filterMap_cons, List.filterMap_nil, List.getLast?_nil,
        Option.none_or] at hlast
      rw [get_replay_clearExpired hkeys ops (hclear cleared (by simp)), ih hclear' hlast]

/-! ### Records -/

theorem fromRecords_records (hkeys : (t.entries.map (·.1)).Nodup) : fromRecords t.records = t := by
  -- each key is put once, into a table without it, so it lands last and no entry moves
  have hentries : (fromRecords t.records).entries = t.entries :=
    calc (fromRecords t.records).entries
        = t.entries.foldl (fun l p => putEntry p.1 p.2 l) [] :=
          (List.foldl_hom StateTable.entries (fun _ _ => rfl)).symm
      _ = t.entries :=
          Snapshot.foldl_put_fresh (fun _ _ _ => Snapshot.putEntry_fresh) t.entries [] hkeys
  cases t
  exact congrArg StateTable.mk hentries

theorem get_fromRecords_records (hkeys : (t.entries.map (·.1)).Nodup) (k : StateKey) (now : Time.Stamp) :
    (fromRecords t.records).get k now = t.get k now := by
  rw [fromRecords_records hkeys]

end StateTable

/-- Over a table built from the empty one by writes and clearings, a read under a key at an
instant no earlier than any of the clearings answers the state of the last write under the key
exactly when that write had no time to live, or one that cannot be represented as an instant
after the write, or the read comes before the write's instant plus its time to live; it answers
nothing otherwise. Clearing expired entries at an instant changes no read at that instant or
later, and rebuilding the table from its records answers every read as the table does. -/
theorem table_reads_last_put (ops : List TableOp) (k : StateKey) (now : Time.Stamp)
    (hclear : ∀ t', TableOp.clearExpired t' ∈ ops → ¬ now < t') :
    (∀ d, (StateTable.replay {} ops).get k now = some d ↔
      ∃ ttl written, TableOp.lastPut k ops = some (d, ttl, written) ∧ StillLive written now ttl) ∧
    (∀ cleared, ¬ now < cleared →
      ((StateTable.replay {} ops).clearExpired cleared).get k now = (StateTable.replay {} ops).get k now) ∧
    (StateTable.fromRecords (StateTable.replay {} ops).records).get k now =
      (StateTable.replay {} ops).get k now := by
  have hempty : (({} : StateTable).entries.map (·.1)).Nodup := List.nodup_nil
  have hkeys := StateTable.keys_nodup_replay hempty ops
  refine ⟨fun d => ?_, fun cleared hlater => StateTable.get_clearExpired_of_not_lt hkeys hlater k,
    StateTable.get_fromRecords_records hkeys k now⟩
  cases hlast : TableOp.lastPut k ops with
  | none =>
    rw [StateTable.get_replay_of_no_put hempty hclear hlast]
    simp [StateTable.get]
  | some x =>
    obtain ⟨d', ttl, written⟩ := x
    rw [StateTable.get_replay_of_lastPut hempty hclear hlast]
    have hlive := isLive_written_iff d' written now ttl
    by_cases h : StateEntry.isLive ⟨d', expiryOf written ttl⟩ now = true
    · simp [h, hlive.mp h, eq_comm]
    · have hdead : ¬ StillLive written now ttl := fun hs => h (hlive.mpr hs)
      simp [h, hdead]

/-- The quiet entry of a sensor written at 2024-06-27 12:00:00 UTC for ten minutes, and a
clearing five minutes later. -/
def quietEntryOps : List TableOp :=
  [.put ⟨"int-1", "quiet_period:off", "sensor1"⟩ ⟨"Off", none⟩ (some (.ofSecs 600)) ⟨1719489600000000000, 0⟩,
    .clearExpired ⟨1719489900000000000, 0⟩]

/-- Read at 12:09:59, one second before the entry expires. -/
theorem table_reads_last_put_before_expiry :
    (∀ t', TableOp.clearExpired t' ∈ quietEntryOps → ¬ (⟨1719490199000000000, 0⟩ : Time.Stamp) < t') ∧
    (∀ d, (StateTable.replay {} quietEntryOps).get ⟨"int-1", "quiet_period:off", "sensor1"⟩
        ⟨1719490199000000000, 0⟩ = some d ↔
      ∃ ttl written, TableOp.lastPut ⟨"int-1", "quiet_period:off", "sensor1"⟩ quietEntryOps =
        some (d, ttl, written) ∧ StillLive written ⟨1719490199000000000, 0⟩ ttl) ∧
    (∀ cleared, ¬ (⟨1719490199000000000, 0⟩ : Time.Stamp) < cleared →
      ((StateTable.replay {} quietEntryOps).clearExpired cleared).get
          ⟨"int-1", "quiet_period:off", "sensor1"⟩ ⟨1719490199000000000, 0⟩ =
        (StateTable.replay {} quietEntryOps).get ⟨"int-1", "quiet_period:off", "sensor1"⟩
          ⟨1719490199000000000, 0⟩) ∧
    (StateTable.fromRecords (StateTable.replay {} quietEntryOps).records).get
        ⟨"int-1", "quiet_period:off", "sensor1"⟩ ⟨1719490199000000000, 0⟩ =
      (StateTable.replay {} quietEntryOps).get ⟨"int-1", "quiet_period:off", "sensor1"⟩
        ⟨1719490199000000000, 0⟩ := by
  have hclear : ∀ t', TableOp.clearExpired t' ∈ quietEntryOps →
      ¬ (⟨1719490199000000000, 0⟩ : Time.Stamp) < t' := by
    intro t' ht
    simp only [quietEntryOps, List.mem_cons, reduceCtorEq, TableOp.clearExpired.injEq, List.not_mem_nil,
      false_or, or_false] at ht
    subst ht
    decide
  exact ⟨hclear, table_reads_last_put quietEntryOps _ _ hclear⟩

end FleetTelemetry
