import FleetTelemetry.Proofs.Record.Details

/-!
# Converting records

`convert` reads a record against its schema through a chain of early returns: a record of the
wrong width is the only error, and a record of the right width either stops the program (its
GPS time cannot be shown at the offset), is skipped, or gives an observation. `RawRecord.Passes`
states the gate as conditions on the record's cells, and `Observation.FromRecord` what the
observation keeps of the record; `convert_keeps_passing_records` ties the two to the run.

The source of an observation is the text of the record's unit id. The gate only asks that cell
to hold something, and a cell's text is empty for an array or an object, so such a unit id gives
an observation with an empty source; for a string, a number or a boolean the source is never
empty.
-/

namespace FleetTelemetry

/-! ### Steps of the conversion -/

theorem except_pure_eq_ok {ε α : Type} (a : α) : (pure a : Except ε α) = .ok a := rfl

theorem except_error_bind {ε α β : Type} (e : ε) (f : α → Except ε β) :
    (Except.error e >>= f) = .error e := rfl

theorem except_ok_bind {ε α β : Type} (a : α) (f : α → Except ε β) :
    (Except.ok a >>= f) = f a := rfl

namespace RawRecord

variable (r : RawRecord) (s : FieldSchema) (offset : Int) (options : ConvertOptions)

/-- A record passes the conversion's gate, read at latitude `lat`, longitude `lon` and time `t`:
its unit id, GPS time, latitude and longitude cells hold something, the coordinate cells read as
the finite numbers `lat` and `lon`, neither of which is zero, the GPS time reads as `t` at the
offset, and under `movingOnly` the status is `Moving`. -/
structure Passes (lat lon : Float) (t : Time.Stamp) : Prop where
  unitId : Cell.truthy (fieldValue r s .unitId) = true
  gpsTime : Cell.truthy (fieldValue r s .gpsTime) = true
  latitudeHolds : Cell.truthy (fieldValue r s .latitude) = true
  longitudeHolds : Cell.truthy (fieldValue r s .longitude) = true
  latitude : Cell.coordinate (fieldValue r s .latitude) = some lat
  longitude : Cell.coordinate (fieldValue r s .longitude) = some lon
  latNonzero : (lat == 0.0) = false
  lonNonzero : (lon == 0.0) = false
  recordedAt : Time.localize (Cell.text (fieldValue r s .gpsTime)) offset = .ok (some t)
  moving : options.movingOnly = false ∨ Cell.text (fieldValue r s .status) = movingStatus

/-- The observation of a record read at `lat`, `lon` and `t`. -/
def observationAt (lat lon : Float) (t : Time.Stamp) : Observation :=
  { source := Cell.text (fieldValue r s .unitId), sourceName := Cell.text (fieldValue r s .unitName),
    subjectType := subjectType, kind := observationType, recordedAt := t, location := ⟨lat, lon⟩,
    additional := detailsOf r s (Cell.text (fieldValue r s .status)) }

variable {r s offset options}

theorem Passes.of_checks {lat lon : Float} {t : Time.Stamp}
    (hgate : [fieldValue r s .unitId, fieldValue r s .gpsTime, fieldValue r s .latitude,
      fieldValue r s .longitude].all Cell.truthy = true)
    (hlat : Cell.coordinate (fieldValue r s .latitude) = some lat)
    (hlon : Cell.coordinate (fieldValue r s .longitude) = some lon)
    (hzero : (lat == 0.0 || lon == 0.0) = false)
    (ht : Time.localize (Cell.text (fieldValue r s .gpsTime)) offset = .ok (some t))
    (hmove : (options.movingOnly && Cell.text (fieldValue r s .status) != movingStatus) = false) :
    r.Passes s offset options lat lon t := by
  simp only [List.all_cons, List.all_nil, Bool.and_true, Bool.and_eq_true] at hgate
  rw [Bool.or_eq_false_iff] at hzero
  have hmoving : options.movingOnly = false ∨ Cell.text (fieldValue r s .status) = movingStatus := by
    cases hm : options.movingOnly <;> simp_all
  exact ⟨hgate.1, hgate.2.1, hgate.2.2.1, hgate.2.2.2, hlat, hlon, hzero.1, hzero.2, ht, hmoving⟩

end RawRecord

/-- What an observation keeps of the record it was converted from, read at `lat`, `lon` and `t`:
the position and the time, the unit's id and name as text, the status as text (as the
observation's status and under `status`), the subject group, and under the key of every other
field of the schema that has one, the record's cell of that field. The details have no other key,
and no key twice. -/
structure Observation.FromRecord (obs : Observation) (r : RawRecord) (s : FieldSchema)
    (lat lon : Float) (t : Time.Stamp) : Prop where
  location : obs.location = ⟨lat, lon⟩
  recordedAt : obs.recordedAt = t
  source : obs.source = Cell.text (fieldValue r s .unitId)
  sourceName : obs.sourceName = Cell.text (fieldValue r s .unitName)
  status : obs.status = Cell.text (fieldValue r s .status)
  statusDetail : obs.additional.lookup "status" = some (.str (Cell.text (fieldValue r s .status)))
  subjectGroups : obs.additional.lookup "subject_groups" = some (.arr [.str "Vehicles"])
  cells : ∀ f ∈ s.fields, ∀ k, f.additionalKey = some k → k ≠ "status" →
    obs.additional.lookup k = some (fieldValue r s f)
  keys : ∀ k, k ∈ obs.additional.map Prod.fst ↔
    k = "status" ∨ k = "subject_groups" ∨ ∃ f ∈ s.fields, f.additionalKey = some k
  keysNodup : (obs.additional.map Prod.fst).Nodup

theorem RawRecord.observationAt_fromRecord {r : RawRecord} {s : FieldSchema} (hlen : r.len = s.arity)
    (lat lon : Float) (t : Time.Stamp) : (r.observationAt s lat lon t).FromRecord r s lat lon t where
  location := rfl
  recordedAt := rfl
  source := rfl
  sourceName := rfl
  status := by simp [Observation.status, RawRecord.observationAt, lookup_detailsOf]
  statusDetail := by simp [RawRecord.observationAt, lookup_detailsOf]
  subjectGroups := by simp [RawRecord.observationAt, lookup_detailsOf, subjectGroup]
  cells _ hf _ hk hstatus := lookup_detailsOf_cell _ hlen hf hk hstatus
  keys := mem_keys_detailsOf _ hlen
  keysNodup := detailsOf_keys_nodup r s _

/-! ### Runs of the conversion -/

section Runs

variable {r : RawRecord} {s : FieldSchema} {offset : Int} {options : ConvertOptions}

theorem convert_run_of_len_ne (h : r.len ≠ s.arity) :
    (convert r s offset options).run = .ok (.error ⟨s.name, s.arity, r.len⟩) := by
  simp [convert, h, except_pure_eq_ok]

theorem convert_run_of_passes {lat lon : Float} {t : Time.Stamp} (hlen : r.len = s.arity)
    (hp : r.Passes s offset options lat lon t) :
    (convert r s offset options).run = .ok (.ok (some (r.observationAt s lat lon t))) := by
  have hmove : (options.movingOnly && Cell.text (fieldValue r s .status) != movingStatus) = false := by
    rcases hp.moving with h | h <;> simp [h]
  simp [convert, hlen, hp.unitId, hp.gpsTime, hp.latitudeHolds, hp.longitudeHolds, hp.latitude,
    hp.longitude, hp.latNonzero, hp.lonNonzero, hp.recordedAt, hmove, liftM, ExceptT.run_bind,
    except_ok_bind, except_pure_eq_ok, RawRecord.observationAt]

/-- A record of the schema's width stops the program where its time cell does, is skipped, or
passes the gate and gives its observation. -/
theorem convert_run_cases (hlen : r.len = s.arity) :
    (∃ e, Time.localize (Cell.text (fieldValue r s .gpsTime)) offset = .error e ∧
      (convert r s offset options).run = .error e) ∨
      (convert r s offset options).run = .ok (.ok none) ∨
      ∃ lat lon t, r.Passes s offset options lat lon t ∧
        (convert r s offset options).run = .ok (.ok (some (r.observationAt s lat lon t))) := by
  -- one case per early return of the conversion, in its order
  cases hgate : [fieldValue r s .unitId, fieldValue r s .gpsTime, fieldValue r s .latitude,
      fieldValue r s .longitude].all Cell.truthy with
  | false => exact Or.inr (Or.inl (by simp [convert, hlen, hgate, except_pure_eq_ok]))
  | true =>
  cases hlat : Cell.coordinate (fieldValue r s .latitude) with
  | none => exact Or.inr (Or.inl (by simp [convert, hlen, hgate, hlat, except_pure_eq_ok]))
  | some lat =>
  cases hlon : Cell.coordinate (fieldValue r s .longitude) with
  | none => exact Or.inr (Or.inl (by simp [convert, hlen, hgate, hlat, hlon, except_pure_eq_ok]))
  | some lon =>
  cases hzero : (lat == 0.0 || lon == 0.0) with
  | true => exact Or.inr (Or.inl (by simp [convert, hlen, hgate, hlat, hlon, hzero, except_pure_eq_ok]))
  | false =>
  cases ht : Time.localize (Cell.text (fieldValue r s .gpsTime)) offset with
  | error e =>
    exact Or.inl ⟨e, rfl, by
      simp [convert, hlen, hgate, hlat, hlon, hzero, ht, liftM, ExceptT.run_bind, except_error_bind]⟩
  | ok o =>
  cases o with
  | none =>
    exact Or.inr (Or.inl (by
      simp [convert, hlen, hgate, hlat, hlon, hzero, ht, liftM, ExceptT.run_bind, except_ok_bind,
        except_pure_eq_ok]))
  | some t =>
  cases hmove : (options.movingOnly && Cell.text (fieldValue r s .status) != movingStatus) with
  | true =>
    exact Or.inr (Or.inl (by
      simp [convert, hlen, hgate, hlat, hlon, hzero, ht, hmove, liftM, ExceptT.run_bind,
        except_ok_bind, except_pure_eq_ok]))
  | false =>
  have hp := RawRecord.Passes.of_checks hgate hlat hlon hzero ht hmove
  exact Or.inr (Or.inr ⟨lat, lon, t, hp, convert_run_of_passes hlen hp⟩)

theorem convert_run_ne_fault (hlen : r.len = s.arity) (e : DecodeFault) :
    (convert r s offset options).run ≠ .ok (.error e) := by
  rcases @convert_run_cases r s offset options hlen with ⟨_, _, h⟩ | h | ⟨_, _, _, _, h⟩ <;>
    rw [h] <;> simp

theorem convert_run_some_inv {obs : Observation}
    (h : (convert r s offset options).run = .ok (.ok (some obs))) :
    r.len = s.arity ∧ ∃ lat lon t, r.Passes s offset options lat lon t ∧
      obs = r.observationAt s lat lon t := by
  by_cases hlen : r.len = s.arity
  · refine ⟨hlen, ?_⟩
    rcases @convert_run_cases r s offset options hlen with ⟨_, _, h'⟩ | h' | ⟨lat, lon, t, hp, h'⟩
    · rw [h'] at h; cases h
    · rw [h'] at h; cases h
    · rw [h'] at h
      cases h
      exact ⟨lat, lon, t, hp, rfl⟩
  · rw [convert_run_of_len_ne hlen] at h
    cases h

theorem convert_run_halt_inv {e : Halt} (h : (convert r s offset options).run = .error e) :
    Time.localize (Cell.text (fieldValue r s .gpsTime)) offset = .error e := by
  by_cases hlen : r.len = s.arity
  · rcases @convert_run_cases r s offset options hlen with ⟨e', ht, h'⟩ | h' | ⟨_, _, _, _, h'⟩
    · rw [h'] at h
      cases h
      exact ht
    · rw [h'] at h; cases h
    · rw [h'] at h; cases h
  · rw [convert_run_of_len_ne hlen] at h
    cases h

end Runs

theorem convert_run_of_isSome (r : RawRecord) (s : FieldSchema) (offset : Int) (options : ConvertOptions)
    (h : (((convert r s offset options).run.toOption.bind Except.toOption).bind id).isSome = true) :
    ∃ obs, (convert r s offset options).run = .ok (.ok (some obs)) := by
  obtain ⟨obs, hobs⟩ := Option.isSome_iff_exists.mp h
  refine ⟨obs, ?_⟩
  rcases hrun : (convert r s offset options).run with _ | _ | _ | o <;> rw [hrun] at hobs <;> cases hobs
  rfl

/-- Converting a record: a record of the wrong width is the only error, naming the schema and
both widths; a record of the right width gives an observation exactly when it passes the gate,
and the observation keeps the record as `Observation.FromRecord` says. -/
theorem convert_keeps_passing_records (r : RawRecord) (s : FieldSchema) (offset : Int)
    (options : ConvertOptions) :
    (∀ e, (convert r s offset options).run = .ok (.error e) ↔
      r.len ≠ s.arity ∧ e = ⟨s.name, s.arity, r.len⟩) ∧
    ((∃ obs, (convert r s offset options).run = .ok (.ok (some obs))) ↔
      r.len = s.arity ∧ ∃ lat lon t, r.Passes s offset options lat lon t) ∧
    ∀ obs, (convert r s offset options).run = .ok (.ok (some obs)) →
      ∃ lat lon t, r.Passes s offset options lat lon t ∧ obs.FromRecord r s lat lon t := by
  refine ⟨fun e => ?_, ⟨fun ⟨_, h⟩ => ?_, fun ⟨hlen, lat, lon, t, hp⟩ => ?_⟩, fun obs h => ?_⟩
  · by_cases hlen : r.len = s.arity
    · simp only [hlen, ne_eq, not_true_eq_false, false_and, iff_false]
      exact convert_run_ne_fault hlen e
    · rw [convert_run_of_len_ne hlen]
      simp [hlen, eq_comm]
  · obtain ⟨hlen, lat, lon, t, hp, -⟩ := convert_run_some_inv h
    exact ⟨hlen, lat, lon, t, hp⟩
  · exact ⟨_, convert_run_of_passes hlen hp⟩
  · obtain ⟨hlen, lat, lon, t, hp, rfl⟩ := convert_run_some_inv h
    exact ⟨lat, lon, t, hp, RawRecord.observationAt_fromRecord hlen lat lon t⟩

def sensorRecord : RawRecord :=
  ⟨[.str "sensor1", .str "Vehicle1", .str "Org1", .str "2023-01-01 10:00:00", .str "Moving",
    .num (.float 40.7128), .num (.float (-74.006)), .num (.nat 1000), .num (.nat 60)]⟩

theorem convert_sensor_record_kept :
    ∃ obs, (convert sensorRecord .basic 0 {}).run = .ok (.ok (some obs)) ∧
      ∃ lat lon t, sensorRecord.Passes .basic 0 {} lat lon t ∧
        obs.FromRecord sensorRecord .basic lat lon t := by
  obtain ⟨obs, hrun⟩ := convert_run_of_isSome sensorRecord .basic 0 {} (by decide +kernel)
  exact ⟨obs, hrun, (convert_keeps_passing_records sensorRecord .basic 0 {}).2.2 obs hrun⟩

/-! ### The source of an observation -/

namespace Binary64

theorem positional_ne_empty {ds : String} (hds : ds ≠ "") (kk : Int) (pointZero : Bool) :
    positional ds kk pointZero ≠ "" := by
  simp only [positional]
  by_cases h₁ : (ds.length : Int) ≤ kk
  · simp [h₁, String.append_eq_empty_iff, hds]
  · by_cases h₂ : 0 < kk <;> simp [h₁, h₂, String.append_eq_empty_iff]

theorem Layout.render_ne_empty (l : Layout) (d : Decimal) : l.render d ≠ "" := by
  by_cases hd : d.digits = 0
  · cases hz : l.pointZero <;> simp [Layout.render, hd, hz]
  · simp only [Layout.render, hd, if_false]
    split
    · exact positional_ne_empty Nat.repr_ne_empty _ _
    · simp [String.append_eq_empty_iff]

theorem Layout.format_ne_empty (l : Layout) (x : Float) : l.format x ≠ "" := by
  cases h : shortest x with
  | none =>
    simp only [Layout.format, h]
    split
    · decide
    · split <;> decide
  | some p =>
    simp [Layout.format, h, String.append_eq_empty_iff, Layout.render_ne_empty]

end Binary64

theorem Number.text_ne_empty (n : Number) : n.text ≠ "" := by
  cases n with
  | nat n => exact Nat.repr_ne_empty
  | neg n =>
    cases n <;> simp [Number.text, toString, Int.repr, Nat.repr_ne_empty, String.append_eq_empty_iff]
  | float x =>
    simp only [Number.text]
    split
    · exact Binary64.Layout.format_ne_empty _ _
    · decide

theorem Cell.text_eq_empty_iff {v : Json} (hv : Cell.truthy v = true) :
    Cell.text v = "" ↔ (∃ xs, v = .arr xs) ∨ ∃ ms, v = .obj ms := by
  cases v with
  | null => cases hv
  | bool b =>
    cases b
    · cases hv
    · simp [Cell.text]
  | num n => simp [Cell.text, Number.text_ne_empty]
  | str t => simpa [Cell.truthy, Cell.text] using hv
  | arr xs => simp [Cell.text]
  | obj ms => simp [Cell.text]

/-- The source of a converted record is empty exactly when its unit id cell is an array or an
object. -/
theorem convert_source_empty_iff {r : RawRecord} {s : FieldSchema} {offset : Int}
    {options : ConvertOptions} {obs : Observation}
    (h : (convert r s offset options).run = .ok (.ok (some obs))) :
    obs.source = "" ↔
      (∃ xs, fieldValue r s .unitId = .arr xs) ∨ ∃ ms, fieldValue r s .unitId = .obj ms := by
  obtain ⟨-, lat, lon, t, hp, rfl⟩ := convert_run_some_inv h
  exact Cell.text_eq_empty_iff hp.unitId

theorem convert_sensor_record_source :
    ∃ obs, (convert sensorRecord .basic 0 {}).run = .ok (.ok (some obs)) ∧
      (obs.source = "" ↔ (∃ xs, fieldValue sensorRecord .basic .unitId = .arr xs) ∨
        ∃ ms, fieldValue sensorRecord .basic .unitId = .obj ms) := by
  obtain ⟨obs, hrun⟩ := convert_run_of_isSome sensorRecord .basic 0 {} (by decide +kernel)
  exact ⟨obs, hrun, convert_source_empty_iff hrun⟩

def arrayUnitRecord : RawRecord :=
  ⟨[.arr [.num (.nat 1)], .str "Vehicle1", .str "Org1", .str "2023-01-01 10:00:00", .str "Moving",
    .num (.float 40.7128), .num (.float (-74.006)), .num (.nat 1000), .num (.nat 60)]⟩

/-- The gate lets an array through as a unit id, and its text is empty. -/
theorem convert_array_unit_id_source_empty :
    ∃ obs, (convert arrayUnitRecord .basic 0 {}).run = .ok (.ok (some obs)) ∧ obs.source = "" := by
  obtain ⟨obs, hrun⟩ := convert_run_of_isSome arrayUnitRecord .basic 0 {} (by decide +kernel)
  obtain ⟨-, lat, lon, t, -, rfl⟩ := convert_run_some_inv hrun
  exact ⟨_, hrun, rfl⟩

end FleetTelemetry
