import FleetTelemetry.Proofs.Record.Conversion

/-!
# Converting a page of records

`convertAll` converts the records of a page one after another and keeps the observations of the
records not skipped, in order: it is `mapM convert` with the skipped records dropped
(`convertAll_eq_mapM`). So the first record whose conversion fails decides the page. A record of
the wrong width fails with its width error however many rows were converted before it
(`convertAll_first_wrong_width`), and records of the schema's width never fail with a width error
(`convertAll_run_ne_fault`).

What can come before the width error is a halt. A row of the right width whose GPS time carries
its own offset and cannot be shown at the device offset stops the program, and a later row of
the wrong width is never read (`convertAll_halts_before_wrong_width`).
-/

namespace FleetTelemetry

section Page

variable (s : FieldSchema) (offset : Int) (options : ConvertOptions)

theorem convertAll_eq_mapM (rs : List RawRecord) :
    convertAll s offset options rs = List.reduceOption <$> rs.mapM (convert · s offset options) := by
  induction rs with
  | nil => rfl
  | cons r rs ih =>
    simp only [convertAll, List.mapM_cons, ih, map_bind, bind_map_left, map_pure]
    congr 1
    funext o
    cases o <;> rfl

variable {s offset options} {r : RawRecord} {rs : List RawRecord}

/-! ### One record further -/

/-- A record of the schema's width halts the conversion or converts, to an observation or to
nothing. -/
theorem convert_run_halt_or_ok (hlen : r.len = s.arity) :
    (∃ h, (convert r s offset options).run = .error h) ∨
      ∃ o, (convert r s offset options).run = .ok (.ok o) := by
  rcases @convert_run_cases r s offset options hlen with ⟨h, -, hc⟩ | hc | ⟨lat, lon, t, -, hc⟩
  · exact .inl ⟨h, hc⟩
  · exact .inr ⟨none, hc⟩
  · exact .inr ⟨_, hc⟩

theorem convertAll_run_cons_halt {h : Halt} (hc : (convert r s offset options).run = .error h) :
    (convertAll s offset options (r :: rs)).run = .error h := by
  rw [convertAll, ExceptT.run_bind, hc]
  rfl

theorem convertAll_run_cons_fault {e : DecodeFault}
    (hc : (convert r s offset options).run = .ok (.error e)) :
    (convertAll s offset options (r :: rs)).run = .ok (.error e) := by
  rw [convertAll, ExceptT.run_bind, hc]
  rfl

theorem convertAll_run_cons_ok {o : Option Observation}
    (hc : (convert r s offset options).run = .ok (.ok o)) :
    (convertAll s offset options (r :: rs)).run =
      Except.map (o.toList ++ ·) <$> (convertAll s offset options rs).run := by
  rw [convertAll, ExceptT.run_bind, hc]
  show (convertAll s offset options rs >>= fun os => pure (o.toList ++ os)).run = _
  rw [ExceptT.run_bind]
  cases (convertAll s offset options rs).run with
  | error h => rfl
  | ok res => cases res <;> rfl

/-- Observations kept in front of the rest of a page do not change whether it fails with a width
error. -/
theorem map_run_eq_fault {x : Except Halt (Except DecodeFault (List Observation))}
    {g : List Observation → List Observation} {e : DecodeFault} :
    Except.map g <$> x = .ok (.error e) ↔ x = .ok (.error e) := by
  cases x with
  | error h => simp [Functor.map, Except.map]
  | ok res => cases res <;> simp [Functor.map, Except.map]

/-! ### The first failure decides -/

theorem convertAll_run_ne_fault (hlen : ∀ r ∈ rs, r.len = s.arity) (e : DecodeFault) :
    (convertAll s offset options rs).run ≠ .ok (.error e) := by
  induction rs with
  | nil => exact fun h => by cases h
  | cons r rs ih =>
    have hrest := ih fun x hx => hlen x (List.mem_cons_of_mem r hx)
    -- a record of the right width halts or converts, and neither is a width error
    rcases @convert_run_halt_or_ok s offset options r (hlen r List.mem_cons_self) with
      ⟨h, hc⟩ | ⟨o, hc⟩
    · rw [convertAll_run_cons_halt hc]
      exact fun h => by cases h
    · rw [convertAll_run_cons_ok hc, Ne, map_run_eq_fault]
      exact hrest

/-- After rows of the schema's width, a row of the wrong width is the page's error, unless
converting one of the rows before it stops the program. -/
theorem convertAll_first_wrong_width (pre post : List RawRecord) (hpre : ∀ x ∈ pre, x.len = s.arity)
    (hr : r.len ≠ s.arity) :
    (convertAll s offset options (pre ++ r :: post)).run =
      (fun _ => .error ⟨s.name, s.arity, r.len⟩) <$> (convertAll s offset options pre).run := by
  induction pre with
  | nil => exact convertAll_run_cons_fault (convert_run_of_len_ne hr)
  | cons x pre ih =>
    have hx := hpre x List.mem_cons_self
    have hrest := ih fun y hy => hpre y (List.mem_cons_of_mem x hy)
    rcases @convert_run_halt_or_ok s offset options x hx with ⟨h, hc⟩ | ⟨o, hc⟩
    · rw [List.cons_append, convertAll_run_cons_halt hc, convertAll_run_cons_halt hc]
      rfl
    · rw [List.cons_append, convertAll_run_cons_ok hc, convertAll_run_cons_ok hc, hrest]
      simp only [Functor.map_map]
      rfl

variable (s offset options)

/-- Converting a page converts its records in order and keeps the observations of those not
skipped. The first record of the wrong width is the page's error, whatever rows were converted
before it, unless converting one of those rows stops the program; a page whose records all have
the schema's width never fails with a width error. -/
theorem convertAll_first_failure_decides (rs : List RawRecord) :
    convertAll s offset options rs = List.reduceOption <$> rs.mapM (convert · s offset options) ∧
      (∀ pre r post, rs = pre ++ r :: post → (∀ x ∈ pre, x.len = s.arity) → r.len ≠ s.arity →
        (convertAll s offset options rs).run =
          (fun _ => .error ⟨s.name, s.arity, r.len⟩) <$> (convertAll s offset options pre).run) ∧
      ((∀ r ∈ rs, r.len = s.arity) → ∀ e, (convertAll s offset options rs).run ≠ .ok (.error e)) := by
  refine ⟨convertAll_eq_mapM s offset options rs, ?_, convertAll_run_ne_fault⟩
  rintro pre r post rfl hpre hr
  exact convertAll_first_wrong_width pre post hpre hr

end Page

/-- A basic-schema row of a moving sensor whose GPS time is the last hour of the year 9999 in
UTC. -/
def lastHourRecord : RawRecord :=
  ⟨[.str "sensor1", .str "Vehicle1", .str "Org1", .str "9999-12-31T23:00:00Z", .str "Moving",
    .num (.float 40.7128), .num (.float (-74.006)), .num (.nat 1000), .num (.nat 60)]⟩

def shortRecord : RawRecord := ⟨[.str "sensor2"]⟩

/-- At one hour east of UTC the first row's time falls in the year 10000: the page stops the
program before its second row, of the wrong width, is read. -/
theorem convertAll_halts_before_wrong_width :
    shortRecord.len ≠ FieldSchema.basic.arity ∧
      ∃ h, (convertAll .basic 3600 {} [lastHourRecord, shortRecord]).run = .error h := by
  refine ⟨by decide, ?_⟩
  have hnone : (convertAll .basic 3600 {} [lastHourRecord, shortRecord]).run.toOption.isNone = true := by
    decide +kernel
  cases hrun : (convertAll .basic 3600 {} [lastHourRecord, shortRecord]).run with
  | error h => exact ⟨h, rfl⟩
  | ok res =>
    rw [hrun] at hnone
    cases hnone

end FleetTelemetry
