import FleetTelemetry.Proofs.Json.Layout
import FleetTelemetry.Store.File

/-!
# The snapshot reads back

A file store writes its device states and checkpoints as one pretty-printed JSON snapshot.
This module reads that text back with the snapshot's shape: every state record decodes to a
value that `Snapshot.contents` takes back to the key and entry written (the device state, the
expiry through its RFC 3339 text), and every checkpoint record to its key and instant
(`readText_snapshot`). When the keys are distinct, folding the decoded records into tables gives
back the store's lists themselves (`contents_entries_of_records`).
-/

namespace FleetTelemetry

open Json

variable {b : ByteArray}

theorem reads_device_state {pre : List UInt8} (hpre : Blanks pre) (level d : Nat) (st : DeviceState) :
    ∃ w, Reads b (DeviceState.shape.read b (d + 2)) (pre ++ bytesOf (prettyAt level st.toJson)) w ∧
      DeviceState.ofDecoded w = st := by
  obtain ⟨status, recordedAt⟩ := st
  cases recordedAt with
  | none =>
    refine ⟨.obj ([("status", .str status), ("recorded_at", .null)] ++ []), ?_, ?_⟩
    · have hj : DeviceState.toJson ⟨status, none⟩ = .obj [("status", .str status)] := rfl
      rw [hj, bytesOf_prettyAt_obj level (List.cons_ne_nil _ _)]
      refine (reads_read_record hpre (d := d) "DeviceState"
        [("status", .string, none), ("recorded_at", .option .string, some .null)] [] (by decide)
        (lineBreak_blanks (level + 1)) (lineBreak_blanks level)
        [("status", 32 :: bytesOf (prettyAt (level + 1) (.str status)), .str status)]
        (by simp) ?_ ?_ ?_).of_eq rfl
      · intro m hm
        rw [List.mem_singleton.mp hm]
        exact memberReads_field (by decide) (s := .string) (d := none) (by simp) (reads_string_value status)
      · simp [fieldMembers, isFieldKey, fillFields, fieldDefault, List.lookup]
      · simp [otherMembers, isFieldKey, Shape.decodeKnown, fillFields, bind, Except.bind]
    · simp [DeviceState.ofDecoded, Json.get?, Json.getStr?, List.lookup]
  | some r =>
    refine ⟨.obj ([("status", .str status), ("recorded_at", .str r)] ++ []), ?_, ?_⟩
    · have hj : DeviceState.toJson ⟨status, some r⟩ =
          .obj [("status", .str status), ("recorded_at", .str r)] := rfl
      rw [hj, bytesOf_prettyAt_obj level (List.cons_ne_nil _ _)]
      refine (reads_read_record hpre (d := d) "DeviceState"
        [("status", .string, none), ("recorded_at", .option .string, some .null)] [] (by decide)
        (lineBreak_blanks (level + 1)) (lineBreak_blanks level)
        [("status", 32 :: bytesOf (prettyAt (level + 1) (.str status)), .str status),
          ("recorded_at", 32 :: bytesOf (prettyAt (level + 1) (.str r)), .str r)]
        (by simp) ?_ ?_ ?_).of_eq rfl
      · simp only [List.mem_cons, List.not_mem_nil, or_false]
        rintro m (rfl | rfl)
        · exact memberReads_field (by decide) (s := .string) (d := none) (by simp) (reads_string_value status)
        · exact memberReads_field (by decide) (s := .option .string) (d := some .null) (by simp)
            (reads_option_value ((reads_read_string blanks_nil _ r).of_eq rfl))
      · simp [fieldMembers, isFieldKey, fillFields, List.lookup]
      · simp [otherMembers, isFieldKey, Shape.decodeKnown, fillFields, bind, Except.bind]
    · simp [DeviceState.ofDecoded, Json.get?, Json.getStr?, List.lookup]

theorem rfc3339Text_ok {s : Time.Stamp} {t : String} (h : rfc3339Text s = .ok t) : s.rfc3339 = .ok t := by
  unfold rfc3339Text at h
  cases hs : s.rfc3339 with
  | ok t' => rw [hs] at h; cases h; rfl
  | error e => rw [hs] at h; cases h

theorem rfc3339Complaint_rfc3339 {s : Time.Stamp} {t : String} (h : s.rfc3339 = .ok t) :
    rfc3339Complaint t = none := by
  rw [rfc3339Complaint, Time.parseRfc3339_rfc3339 h]

theorem Checkpoint.toJson_ok {c : Checkpoint} {j : Json} (h : c.toJson = .ok j) :
    ∃ t, c.lastUpdatedTime.rfc3339 = .ok t ∧ j = .obj [("last_updated_time", .str t)] := by
  unfold Checkpoint.toJson at h
  cases ht : rfc3339Text c.lastUpdatedTime with
  | ok t =>
    rw [ht] at h
    cases h
    exact ⟨t, rfc3339Text_ok ht, rfl⟩
  | error e => rw [ht] at h; cases h

theorem reads_checkpoint {pre : List UInt8} (hpre : Blanks pre) (level d : Nat) {c : Checkpoint}
    {j : Json} (hj : c.toJson = .ok j) :
    ∃ w, Reads b (Checkpoint.shape.read b (d + 2)) (pre ++ bytesOf (prettyAt level j)) w ∧
      Checkpoint.ofDecoded w = c := by
  obtain ⟨t, ht, rfl⟩ := Checkpoint.toJson_ok hj
  refine ⟨.obj ([("last_updated_time", .str t)] ++ []), ?_, ?_⟩
  · rw [bytesOf_prettyAt_obj level (List.cons_ne_nil _ _)]
    refine (reads_read_record hpre (d := d) "Checkpoint"
      [("last_updated_time", .parsed rfc3339Expecting rfc3339Complaint, none)] [] (by decide)
      (lineBreak_blanks (level + 1)) (lineBreak_blanks level)
      [("last_updated_time", 32 :: bytesOf (prettyAt (level + 1) (.str t)), .str t)]
      (by simp) ?_ ?_ ?_).of_eq rfl
    · intro m hm
      rw [List.mem_singleton.mp hm]
      exact memberReads_field (by decide) (s := .parsed rfc3339Expecting rfc3339Complaint) (d := none)
        (by simp) (reads_parsed_value (rfc3339Complaint_rfc3339 ht))
    · simp [fieldMembers, isFieldKey, fillFields]
    · simp [otherMembers, isFieldKey, Shape.decodeKnown, fillFields, bind, Except.bind]
  · simp [Checkpoint.ofDecoded, Json.get?, Json.getStr?, Time.parseRfc3339_rfc3339 ht]

namespace Snapshot

/-- The key and entry a decoded state record stands for, as `contents` reads them. -/
def stateOfRecord (r : Json) : StateKey × StateEntry :=
  (⟨text r "integration_id", text r "action_id", text r "source_id"⟩,
    ⟨DeviceState.ofDecoded ((r.get? "state").getD .null), stamp? r "expires_at"⟩)

/-- The key and checkpoint a decoded checkpoint record stands for, as `contents` reads them. -/
def checkpointOfRecord (r : Json) : (String × String) × Checkpoint :=
  ((text r "integration_id", text r "action_id"), Checkpoint.ofDecoded ((r.get? "checkpoint").getD .null))

/-- How an expiry is written: `null` when there is none, its RFC 3339 text otherwise. -/
def ExpiryWritten : Option Time.Stamp → Json → Prop
  | none, v => v = .null
  | some t, v => ∃ text, t.rfc3339 = .ok text ∧ v = .str text

theorem stateRecordJson_ok {k : StateKey} {e : StateEntry} {j : Json} (h : stateRecordJson k e = .ok j) :
    ∃ ex, ExpiryWritten e.expiresAt ex ∧ j = .obj [("integration_id", .str k.integrationId),
      ("action_id", .str k.actionId), ("source_id", .str k.sourceId), ("state", e.state.toJson),
      ("expires_at", ex)] := by
  unfold stateRecordJson at h
  cases hx : e.expiresAt with
  | none =>
    rw [hx] at h
    cases h
    exact ⟨.null, rfl, rfl⟩
  | some t =>
    rw [hx] at h
    dsimp only at h
    cases ht : rfc3339Text t with
    | ok text =>
      simp only [ht, Functor.map, Except.map, bind, Except.bind, pure, Except.pure, Except.ok.injEq] at h
      exact ⟨.str text, ⟨text, rfc3339Text_ok ht, rfl⟩, h.symm⟩
    | error err =>
      simp only [ht, Functor.map, Except.map, bind, Except.bind, reduceCtorEq] at h

theorem reads_expiry {level depth : Nat} {x : Option Time.Stamp} {ex : Json} (h : ExpiryWritten x ex) :
    Reads b (Shape.read b depth (.option stampShape)) (32 :: bytesOf (prettyAt level ex)) ex := by
  cases x with
  | none =>
    obtain rfl : ex = .null := h
    exact reads_option_null_value
  | some t =>
    obtain ⟨text, ht, rfl⟩ := h
    exact reads_option_value ((reads_read_parsed blanks_nil depth
      (rfc3339Complaint_rfc3339 ht)).of_eq rfl)

theorem stamp?_expiry {x : Option Time.Stamp} {ex r : Json} (h : ExpiryWritten x ex)
    (hr : r.get? "expires_at" = some ex) : stamp? r "expires_at" = x := by
  cases x with
  | none =>
    obtain rfl : ex = .null := h
    simp [stamp?, hr, Json.getStr?]
  | some t =>
    obtain ⟨text, ht, rfl⟩ := h
    simp [stamp?, hr, Json.getStr?, Time.parseRfc3339_rfc3339 ht, Except.toOption]

theorem reads_state_record {pre : List UInt8} (hpre : Blanks pre) (level d : Nat) {k : StateKey}
    {e : StateEntry} {j : Json} (hj : stateRecordJson k e = .ok j) :
    ∃ w, Reads b (stateRecordShape.read b (d + 3)) (pre ++ bytesOf (prettyAt level j)) w ∧
      stateOfRecord w = (k, e) := by
  obtain ⟨ex, hex, rfl⟩ := stateRecordJson_ok hj
  obtain ⟨ws, hws, hstate⟩ := reads_device_state (b := b) blanks_space (level + 1) d e.state
  refine ⟨.obj ([("state", ws), ("expires_at", ex)] ++ [("integration_id", .str k.integrationId),
    ("action_id", .str k.actionId), ("source_id", .str k.sourceId)]), ?_, ?_⟩
  · rw [bytesOf_prettyAt_obj level (List.cons_ne_nil _ _)]
    refine (reads_read_record hpre (d := d + 1) "StateRecord"
      [("state", DeviceState.shape, none), ("expires_at", .option stampShape, some .null)]
      [("integration_id", .string, none), ("action_id", .string, none), ("source_id", .string, none)]
      (by decide) (lineBreak_blanks (level + 1)) (lineBreak_blanks level)
      [("integration_id", 32 :: bytesOf (prettyAt (level + 1) (.str k.integrationId)), .str k.integrationId),
        ("action_id", 32 :: bytesOf (prettyAt (level + 1) (.str k.actionId)), .str k.actionId),
        ("source_id", 32 :: bytesOf (prettyAt (level + 1) (.str k.sourceId)), .str k.sourceId),
        ("state", 32 :: bytesOf (prettyAt (level + 1) e.state.toJson), ws),
        ("expires_at", 32 :: bytesOf (prettyAt (level + 1) ex), ex)]
      (by simp) ?_ ?_ ?_).of_eq rfl
    · simp only [List.mem_cons, List.not_mem_nil, or_false]
      rintro m (rfl | rfl | rfl | rfl | rfl)
      · exact memberReads_other (by decide) (reads_plain_string_value _)
      · exact memberReads_other (by decide) (reads_plain_string_value _)
      · exact memberReads_other (by decide) (reads_plain_string_value _)
      · exact memberReads_field (by decide) (s := DeviceState.shape) (d := none) (by simp) hws
      · exact memberReads_field (by decide) (s := .option stampShape) (d := some .null) (by simp)
          (reads_expiry hex)
    · simp [fieldMembers, isFieldKey, fillFields, List.lookup]
    · have hrest := decodeKnown_strings [("integration_id", .string, none),
        ("action_id", .string, none), ("source_id", .string, none)] (by decide)
        [("integration_id", k.integrationId), ("action_id", k.actionId), ("source_id", k.sourceId)]
        (by simp) (by simp)
      simp only [List.map_cons, List.map_nil] at hrest
      simp [otherMembers, isFieldKey, hrest, fillFields, List.lookup, bind, Except.bind, pure, Except.pure]
  · rw [stateOfRecord, stamp?_expiry hex (by simp [Json.get?, List.lookup])]
    simp [text, Json.get?, Json.getStr?, List.lookup, hstate]

theorem checkpointRecordJson_ok {key : String × String} {c : Checkpoint} {j : Json}
    (h : checkpointRecordJson key c = .ok j) :
    ∃ cp, c.toJson = .ok cp ∧
      j = .obj [("integration_id", .str key.1), ("action_id", .str key.2), ("checkpoint", cp)] := by
  unfold checkpointRecordJson at h
  cases hc : c.toJson with
  | ok cp =>
    simp only [hc, bind, Except.bind, pure, Except.pure, Except.ok.injEq] at h
    exact ⟨cp, rfl, h.symm⟩
  | error err => simp only [hc, bind, Except.bind, reduceCtorEq] at h

theorem reads_checkpoint_record {pre : List UInt8} (hpre : Blanks pre) (level d : Nat)
    {key : String × String} {c : Checkpoint} {j : Json} (hj : checkpointRecordJson key c = .ok j) :
    ∃ w, Reads b (checkpointRecordShape.read b (d + 3)) (pre ++ bytesOf (prettyAt level j)) w ∧
      checkpointOfRecord w = (key, c) := by
  obtain ⟨cp, hcp, rfl⟩ := checkpointRecordJson_ok hj
  obtain ⟨wc, hwc, hc⟩ := reads_checkpoint (b := b) blanks_space (level + 1) d hcp
  refine ⟨.obj ([("integration_id", .str key.1), ("action_id", .str key.2), ("checkpoint", wc)] ++ []),
    ?_, ?_⟩
  · rw [bytesOf_prettyAt_obj level (List.cons_ne_nil _ _)]
    refine (reads_read_record hpre (d := d + 1) "CheckpointRecord"
      [("integration_id", .string, none), ("action_id", .string, none), ("checkpoint", Checkpoint.shape, none)]
      [] (by decide) (lineBreak_blanks (level + 1)) (lineBreak_blanks level)
      [("integration_id", 32 :: bytesOf (prettyAt (level + 1) (.str key.1)), .str key.1),
        ("action_id", 32 :: bytesOf (prettyAt (level + 1) (.str key.2)), .str key.2),
        ("checkpoint", 32 :: bytesOf (prettyAt (level + 1) cp), wc)]
      (by simp) ?_ ?_ ?_).of_eq rfl
    · simp only [List.mem_cons, List.not_mem_nil, or_false]
      rintro m (rfl | rfl | rfl)
      · exact memberReads_field (by decide) (s := .string) (d := none) (by simp) (reads_string_value _)
      · exact memberReads_field (by decide) (s := .string) (d := none) (by simp) (reads_string_value _)
      · exact memberReads_field (by decide) (s := Checkpoint.shape) (d := none) (by simp) hwc
    · simp [fieldMembers, isFieldKey, fillFields, List.lookup]
    · simp [otherMembers, isFieldKey, Shape.decodeKnown, fillFields, bind, Except.bind]
  · simp [checkpointOfRecord, text, Json.get?, Json.getStr?, List.lookup, hc]

/-- The snapshot of a store, pretty printed, decodes to records standing for the store's
entries and checkpoints, in order. -/
theorem readText_snapshot {s : FileState} {j : Json} (h : ofContents s = .ok j) :
    ∃ v, shape.readText (Json.pretty j) = .ok v ∧
      ((v.get? "device_states" >>= Json.getArr?).getD []).map stateOfRecord = s.states.entries ∧
      ((v.get? "checkpoints" >>= Json.getArr?).getD []).map checkpointOfRecord = s.checkpoints := by
  unfold ofContents at h
  obtain ⟨states, hst, h⟩ := bind_eq_ok h
  obtain ⟨cps, hcp, h⟩ := bind_eq_ok h
  obtain rfl : Json.obj [("device_states", .arr states), ("checkpoints", .arr cps)] = j := by
    simpa [pure, Except.pure] using h
  let b := (Json.pretty (.obj [("device_states", .arr states), ("checkpoints", .arr cps)])).toUTF8
  -- the records sit two levels down: in the snapshot's lists, at depth 126 of the 128 allowed
  have hstates : ∃ ws, Reads b (Shape.read b (125 + 2) (.list stateRecordShape))
      ([32] ++ bytesOf (prettyAt 1 (.arr states))) (.arr ws) ∧ ws.map stateOfRecord = s.states.entries :=
    reads_record_list (fun _ _ hj => reads_state_record blanks_nil 2 123 hj)
      (fun _ _ hj => by
        obtain ⟨ex, -, rfl⟩ := stateRecordJson_ok hj
        exact ⟨_, List.cons_ne_nil _ _, rfl⟩)
      blanks_space hst
  have hcheckpoints : ∃ wcs, Reads b (Shape.read b (125 + 2) (.list checkpointRecordShape))
      ([32] ++ bytesOf (prettyAt 1 (.arr cps))) (.arr wcs) ∧ wcs.map checkpointOfRecord = s.checkpoints :=
    reads_record_list (fun _ _ hj => reads_checkpoint_record blanks_nil 2 123 hj)
      (fun _ _ hj => by
        obtain ⟨cp, -, rfl⟩ := checkpointRecordJson_ok hj
        exact ⟨_, List.cons_ne_nil _ _, rfl⟩)
      blanks_space hcp
  obtain ⟨ws, hws, hwsr⟩ := hstates
  obtain ⟨wcs, hwcs, hwcsr⟩ := hcheckpoints
  refine ⟨.obj ([("device_states", .arr ws), ("checkpoints", .arr wcs)] ++ []), ?_, ?_, ?_⟩
  · apply readText_of_reads
    rw [Json.pretty, bytesOf_prettyAt_obj 0 (List.cons_ne_nil _ _)]
    refine (reads_read_record blanks_nil (d := 126) "Snapshot"
      [("device_states", .list stateRecordShape, some (.arr [])),
        ("checkpoints", .list checkpointRecordShape, some (.arr []))]
      [] (by decide) (lineBreak_blanks 1) (lineBreak_blanks 0)
      ([("device_states", 32 :: bytesOf (prettyAt 1 (.arr states)), .arr ws),
        ("checkpoints", 32 :: bytesOf (prettyAt 1 (.arr cps)), .arr wcs)])
      (by simp) ?_ ?_ ?_).of_eq rfl
    · simp only [List.mem_cons, List.not_mem_nil, or_false]
      rintro m (rfl | rfl)
      · exact memberReads_field (by decide) (s := .list stateRecordShape) (d := some (.arr [])) (by simp) hws
      · exact memberReads_field (by decide) (s := .list checkpointRecordShape) (d := some (.arr []))
          (by simp) hwcs
    · simp [fieldMembers, isFieldKey, fillFields, List.lookup]
    · simp [otherMembers, isFieldKey, Shape.decodeKnown, fillFields, bind, Except.bind]
  · simpa [Json.get?, Json.getArr?, List.lookup] using hwsr
  · simpa [Json.get?, Json.getArr?, List.lookup] using hwcsr

/-! ### What a decoded snapshot stands for -/

theorem contents_entries (v : Json) :
    (contents v).states.entries =
      (((v.get? "device_states" >>= Json.getArr?).getD []).map stateOfRecord).foldl
        (fun l p => StateTable.putEntry p.1 p.2 l) [] :=
  (List.foldl_hom StateTable.entries (fun _ _ => rfl)).symm

theorem contents_checkpoints (v : Json) :
    (contents v).checkpoints =
      (((v.get? "checkpoints" >>= Json.getArr?).getD []).map checkpointOfRecord).foldl
        (fun l p => putCheckpoint p.1 p.2 l) [] := by
  rw [List.foldl_map]
  rfl

theorem foldl_put_fresh {κ ν : Type} {put : κ → ν → List (κ × ν) → List (κ × ν)}
    (hput : ∀ k v l, k ∉ l.map (·.1) → put k v l = l ++ [(k, v)]) :
    ∀ (l acc : List (κ × ν)), ((acc ++ l).map (·.1)).Nodup →
      l.foldl (fun acc p => put p.1 p.2 acc) acc = acc ++ l
  | [], acc, _ => by simp
  | p :: l, acc, h => by
    have hp : p.1 ∉ acc.map (·.1) := by
      simp only [List.map_append, List.map_cons] at h
      exact fun hk => List.disjoint_of_nodup_append h hk List.mem_cons_self
    rw [List.foldl_cons, hput _ _ _ hp, foldl_put_fresh hput l (acc ++ [p]) (by simpa using h)]
    simp

theorem putEntry_fresh {k : StateKey} {e : StateEntry} :
    ∀ {l : List (StateKey × StateEntry)}, k ∉ l.map (·.1) → StateTable.putEntry k e l = l ++ [(k, e)]
  | [], _ => rfl
  | (k', e') :: l, hk => by
    simp only [List.map_cons, List.mem_cons, not_or] at hk
    rw [StateTable.putEntry, if_neg (Ne.symm hk.1), putEntry_fresh hk.2, List.cons_append]

theorem putCheckpoint_fresh {k : String × String} {c : Checkpoint} :
    ∀ {l : List ((String × String) × Checkpoint)}, k ∉ l.map (·.1) → putCheckpoint k c l = l ++ [(k, c)]
  | [], _ => rfl
  | (k', c') :: l, hk => by
    simp only [List.map_cons, List.mem_cons, not_or] at hk
    rw [putCheckpoint, if_neg (Ne.symm hk.1), putCheckpoint_fresh hk.2, List.cons_append]

theorem contents_entries_of_records {v : Json} {entries : List (StateKey × StateEntry)}
    (hrecords : ((v.get? "device_states" >>= Json.getArr?).getD []).map stateOfRecord = entries)
    (hkeys : (entries.map (·.1)).Nodup) : (contents v).states.entries = entries := by
  rw [contents_entries, hrecords]
  exact foldl_put_fresh (fun _ _ _ => putEntry_fresh) entries [] hkeys

theorem contents_checkpoints_of_records {v : Json} {cps : List ((String × String) × Checkpoint)}
    (hrecords : ((v.get? "checkpoints" >>= Json.getArr?).getD []).map checkpointOfRecord = cps)
    (hkeys : (cps.map (·.1)).Nodup) : (contents v).checkpoints = cps := by
  rw [contents_checkpoints, hrecords]
  exact foldl_put_fresh (fun _ _ _ => putCheckpoint_fresh) cps [] hkeys

theorem ofContents_obj {s : FileState} {j : Json} (h : ofContents s = .ok j) :
    ∃ states cps, j = .obj [("device_states", .arr states), ("checkpoints", .arr cps)] := by
  unfold ofContents at h
  obtain ⟨states, -, h⟩ := bind_eq_ok h
  obtain ⟨cps, -, h⟩ := bind_eq_ok h
  exact ⟨states, cps, by simpa [pure, Except.pure] using h.symm⟩

theorem isAsciiBlankText_prettyAt_obj (level : Nat) {ms : List (String × Json)} (h : ms ≠ []) :
    isAsciiBlankText (prettyAt level (.obj ms)) = false := by
  rw [prettyAt.eq_4 _ _ h]
  simp only [isAsciiBlankText, String.toList_append, List.append_assoc]
  rw [show ("\x7b\n" : String).toList = ['\x7b', '\n'] by decide]
  rfl

theorem pretty_ofContents_not_blank {s : FileState} {j : Json} (h : ofContents s = .ok j) :
    isAsciiBlankText (Json.pretty j) = false := by
  obtain ⟨states, cps, rfl⟩ := ofContents_obj h
  exact isAsciiBlankText_prettyAt_obj 0 (List.cons_ne_nil _ _)

end Snapshot

end FleetTelemetry
