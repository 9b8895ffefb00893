import FleetTelemetry.Proofs.Record.Conversion

/-!
# Where reading a device time stops the program

`localize` reads a device time by the offset-free layouts first and shows that reading at the
target offset. Failing those, it reads a time that carries its own offset (RFC 3339, then the
offset layouts) and moves that instant to the target offset. Only the move can fail: it stops the
program when the instant, shown at the target offset, falls outside the years -9999 to 9999.

`localize_halts_iff` says exactly that, for every text and every offset: a text read by an
offset-free layout never stops the program, nor does a text no layout reads; a text carrying its
own offset stops it exactly when its instant cannot be shown at the target offset. A record's
conversion stops the program only there, on its time cell (`convert_halt_out_of_range`).
-/

namespace FleetTelemetry

namespace Time

/-- The instant a text carrying its own offset stands for: read as RFC 3339, else by the first
offset layout that reads it. -/
def awareStamp (text : String) : Option Stamp :=
  (parseRfc3339 text).toOption <|> awarePatterns.findSome? (Pattern.readStamp · text)

theorem Stamp.toOffset_of_inRange {s : Stamp} {offset : Int} (h : (Stamp.mk s.utc offset).inRange = true) :
    s.toOffset offset = .ok ⟨s.utc, offset⟩ := by
  rw [Stamp.toOffset, if_pos h]

theorem Stamp.toOffset_of_not_inRange {s : Stamp} {offset : Int}
    (h : (Stamp.mk s.utc offset).inRange = false) :
    s.toOffset offset = .error ⟨"local datetime out of valid range"⟩ := by
  rw [Stamp.toOffset, h]
  rfl

theorem awareStamp_empty : awareStamp "" = none := by
  decide +kernel

section Cases

variable {input : String} {offset : Int}

theorem localize_of_blank (h : (Text.trim input).isEmpty = true) : localize input offset = .ok none := by
  rw [localize]
  simp only [h, if_true]

theorem localize_of_naive (hblank : (Text.trim input).isEmpty = false) {r : Reading}
    (hn : firstReading naivePatterns (Text.trim input) = some r) :
    localize input offset = .ok (some (Stamp.ofReading r offset)) := by
  rw [localize]
  simp only [hblank, Bool.false_eq_true, if_false, hn]

/-- Past the offset-free layouts, the text is read by those carrying an offset, and the instant
they read is moved to the target offset. -/
theorem localize_of_not_naive (hblank : (Text.trim input).isEmpty = false)
    (hn : firstReading naivePatterns (Text.trim input) = none) :
    localize input offset = (awareStamp (Text.trim input)).elim (.ok none) (some <$> ·.toOffset offset) := by
  rw [localize]
  simp only [hblank, Bool.false_eq_true, if_false, hn]
  cases hp : parseRfc3339 (Text.trim input) with
  | ok s => simp [awareStamp, hp, Except.toOption]
  | error e =>
    simp only [awareStamp, Except.toOption, hp, Option.orElse_eq_orElse, Option.orElse_eq_or, Option.none_or]
    cases awarePatterns.findSome? (Pattern.readStamp · (Text.trim input)) <;> rfl

theorem localize_of_aware (hblank : (Text.trim input).isEmpty = false)
    (hn : firstReading naivePatterns (Text.trim input) = none) {s : Stamp}
    (ha : awareStamp (Text.trim input) = some s) :
    localize input offset = some <$> s.toOffset offset := by
  rw [localize_of_not_naive hblank hn, ha]
  rfl

theorem localize_of_unread (hblank : (Text.trim input).isEmpty = false)
    (hn : firstReading naivePatterns (Text.trim input) = none) (ha : awareStamp (Text.trim input) = none) :
    localize input offset = .ok none := by
  rw [localize_of_not_naive hblank hn, ha]
  rfl

/-- A halt comes from a text carrying its own offset whose instant cannot be shown at the
target offset. -/
theorem localize_halt_inv {h : Halt} (hl : localize input offset = .error h) :
    firstReading naivePatterns (Text.trim input) = none ∧
      ∃ s, awareStamp (Text.trim input) = some s ∧ (Stamp.mk s.utc offset).inRange = false := by
  cases hblank : (Text.trim input).isEmpty
  · cases hn : firstReading naivePatterns (Text.trim input) with
    | some r =>
      rw [localize_of_naive hblank hn] at hl
      cases hl
    | none =>
      cases ha : awareStamp (Text.trim input) with
      | none =>
        rw [localize_of_unread hblank hn ha] at hl
        cases hl
      | some s =>
        refine ⟨rfl, s, rfl, ?_⟩
        -- the move to the target offset is the only step left that can fail
        cases hr : (Stamp.mk s.utc offset).inRange
        · rfl
        · rw [localize_of_aware hblank hn ha, Stamp.toOffset_of_inRange hr] at hl
          cases hl
  · rw [localize_of_blank hblank] at hl
    cases hl

theorem localize_of_out_of_range (hn : firstReading naivePatterns (Text.trim input) = none) {s : Stamp}
    (ha : awareStamp (Text.trim input) = some s) (hr : (Stamp.mk s.utc offset).inRange = false) :
    localize input offset = .error ⟨"local datetime out of valid range"⟩ := by
  cases hblank : (Text.trim input).isEmpty
  · rw [localize_of_aware hblank hn ha, Stamp.toOffset_of_not_inRange hr]
    rfl
  · rw [String.isEmpty_iff.mp hblank, awareStamp_empty] at ha
    cases ha

end Cases

theorem localize_halts_iff (input : String) (offset : Int) :
    (∃ h, localize input offset = .error h) ↔
      firstReading naivePatterns (Text.trim input) = none ∧
        ∃ s, awareStamp (Text.trim input) = some s ∧ (Stamp.mk s.utc offset).inRange = false := by
  constructor
  · rintro ⟨h, hl⟩
    exact localize_halt_inv hl
  · rintro ⟨hn, s, ha, hr⟩
    exact ⟨_, localize_of_out_of_range hn ha hr⟩

/-- The last hour of the year 9999 in UTC, shown one hour east, falls in the year 10000: reading
it stops the program. -/
theorem localize_halts_at_range_end : ∃ h, localize "9999-12-31T23:00:00Z" 3600 = .error h := by
  have hnone : (localize "9999-12-31T23:00:00Z" 3600).toOption.isNone = true := by
    decide +kernel
  cases hl : localize "9999-12-31T23:00:00Z" 3600 with
  | error h => exact ⟨h, rfl⟩
  | ok r =>
    rw [hl] at hnone
    cases hnone

end Time

/-- A record's conversion stops the program only on a time cell that carries its own offset and
whose instant cannot be shown at the device offset. -/
theorem convert_halt_out_of_range {r : RawRecord} {schema : FieldSchema} {offset : Int}
    {options : ConvertOptions} {h : Halt} (hc : (convert r schema offset options).run = .error h) :
    Time.firstReading Time.naivePatterns (Text.trim (Cell.text (fieldValue r schema .gpsTime))) = none ∧
      ∃ s, Time.awareStamp (Text.trim (Cell.text (fieldValue r schema .gpsTime))) = some s ∧
        (Time.Stamp.mk s.utc offset).inRange = false :=
  Time.localize_halt_inv (convert_run_halt_inv hc)

end FleetTelemetry
