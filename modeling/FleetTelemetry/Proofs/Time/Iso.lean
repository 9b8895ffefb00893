import FleetTelemetry.Proofs.Time.Rfc3339
import FleetTelemetry.Record.Observation

/-!
# ISO text read back as RFC 3339

An observation writes its recording time as ISO text (`Stamp.iso`): the date and time of day at
the stamp's own offset, six fraction digits when there are nanoseconds (those below the
microsecond cut), and the offset as a sign, hours and minutes. It is read back by the RFC 3339
reader, whose grammar is narrower: four-digit years and offset hours up to 23.

For a stamp in the representable years at an offset of whole minutes below a hundred hours:

* the text is read exactly when the year is 0 to 9999 and the offset is below a day
  (`parseRfc3339_iso_ok_iff`): a year before 0 is written with a minus sign the reader refuses,
  an offset of a day or more with hours it refuses;
* it is then read as the stamp cut to the microsecond (`parseRfc3339_iso`, `Stamp.toMicros`);
* writing that again gives the same text unless the nanoseconds were more than none but less
  than a microsecond: the fraction `.000000` is then dropped (`Stamp.iso_toMicros`).

`Observation.recordedAt_round_trip` says this of an observation's recording time and of the
reader's check of it. The proofs reuse the byte layout of RFC 3339 text (`rfc3339Chars`): ISO
text differs from it only in its fraction and in writing UTC as `+00:00`.
-/

namespace FleetTelemetry

namespace Time

/-! ### The layout -/

/-- The fraction of a second as ISO text writes it: nothing for none, else a dot and six digits
of microseconds, the nanoseconds below them cut. -/
def isoFractionChars (nanos : Nat) : List Char :=
  if nanos = 0 then [] else '.' :: (decimalDigits 6 (nanos / 1000)).map Nat.digitChar

/-- An offset as ISO text writes it: a sign (`+` for UTC), two digits of hours, a colon and two
digits of minutes. -/
def isoOffsetChars (negative : Bool) (hours minutes : Nat) : List Char :=
  (if negative then '-' else '+') ::
    ((decimalDigits 2 hours).map Nat.digitChar ++ [':'] ++ (decimalDigits 2 minutes).map Nat.digitChar)

theorem isoFractionChars_ascii (n : Nat) : ∀ c ∈ isoFractionChars n, c.toNat < 128 := by
  intro c hc
  by_cases hn : n = 0
  · simp [isoFractionChars, hn] at hc
  · simp only [isoFractionChars, hn, if_false, List.mem_cons] at hc
    rcases hc with rfl | hc
    · decide
    · exact digitChars_ascii (decimalDigits_lt _ _) c hc

theorem isoOffsetChars_ascii (negative : Bool) (hours minutes : Nat) :
    ∀ c ∈ isoOffsetChars negative hours minutes, c.toNat < 128 := by
  intro c hc
  simp only [isoOffsetChars, List.mem_cons, List.mem_append, List.not_mem_nil, or_false, or_assoc] at hc
  rcases hc with hc | hc | hc | hc
  · cases negative <;> simp only [Bool.false_eq_true, if_true, if_false] at hc <;> subst hc <;> decide
  · exact digitChars_ascii (decimalDigits_lt _ _) c hc
  · subst hc
    decide
  · exact digitChars_ascii (decimalDigits_lt _ _) c hc

theorem isoFractionChars_length (n : Nat) : (isoFractionChars n).length = if n = 0 then 0 else 7 := by
  by_cases hn : n = 0 <;> simp [isoFractionChars, hn, decimalDigits_length]

theorem isoOffsetChars_length (negative : Bool) (hours minutes : Nat) :
    (isoOffsetChars negative hours minutes).length = 6 := by
  simp [isoOffsetChars, decimalDigits_length]

/-! ### Reading the pieces after the seconds -/

/-- What the parser meets at the fraction: no dot when there is none, else a dot and six digits,
read as the microseconds, up to the byte after them. -/
theorem isoFractionChars_read {b : ByteArray} {j n : Nat} {c : UInt8} (hn : n < 10 ^ 9)
    (hfrac : BytesAt b j ((isoFractionChars n).map Char.toUInt8))
    (hnext : b[j + (isoFractionChars n).length]? = some c) (hdigit : (48 ≤ c && c ≤ 57) = false)
    (hdot : c ≠ 46) :
    FractionRead b j (n / 1000 * 1000) (j + (isoFractionChars n).length) := by
  by_cases hn0 : n = 0
  · have hlen : (isoFractionChars n).length = 0 := by simp [isoFractionChars, hn0]
    rw [hlen, Nat.add_zero] at hnext ⊢
    exact .inl ⟨by simp [byteAt, hnext, hdot], by simp [hn0], rfl⟩
  · have hchars : isoFractionChars n = '.' :: (decimalDigits 6 (n / 1000)).map Nat.digitChar := by
      simp [isoFractionChars, hn0]
    have hpos : j + (isoFractionChars n).length = j + 1 + 6 := by
      rw [isoFractionChars_length, if_neg hn0]
    rw [hchars, List.map_cons] at hfrac
    obtain ⟨hdotb, hdigits⟩ := bytesAt_cons.mp hfrac
    rw [hpos] at hnext
    have hsize : j + 1 + 6 < b.size := (getElem?_eq_some_iff.mp hnext).1
    have hmicros : n / 1000 < 10 ^ 6 := by omega
    have hread := fractionAt_digits (decimalDigits_lt 6 (n / 1000))
      (by simp [← List.length_pos_iff, decimalDigits_length]) (by simp [decimalDigits_length])
      hdigits (by simpa [decimalDigits_length] using digitsAt_eq_none hnext hdigit)
      (by simp [decimalDigits_length]; omega)
    rw [decimalValue_decimalDigits hmicros, decimalDigits_length] at hread
    rw [← hpos] at hread
    exact .inr ⟨byteAt_eq_some.mpr ⟨hdotb, rfl⟩, by simpa using hread⟩

/-! ### The whole text -/

/-- The parser reads ISO text laid out from valid components as the stamp showing them cut to
the microsecond, the offset read in hours and minutes; offset hours past 23 are refused. -/
theorem parseRfc3339_isoChars {y mo d h mi s n : Nat} {negative : Bool} {oh om : Nat}
    (hy : y < 10000) (hmo : 1 ≤ mo ∧ mo ≤ 12) (hd : 1 ≤ d ∧ d ≤ daysInMonth y mo) (hh : h ≤ 23)
    (hmi : mi ≤ 59) (hs : s ≤ 59) (hn : n < 10 ^ 9) (hoh : oh < 100) (hom : om ≤ 59) :
    parseRfc3339 (String.ofList (rfc3339Chars y mo d h mi s (isoFractionChars n ++ isoOffsetChars negative oh om))) =
      if oh ≤ 23 then
        .ok (Stamp.ofReading ⟨y, mo, d, h, mi, s, n / 1000 * 1000⟩
          (if negative then -((oh : Int) * 3600 + om * 60) else (oh : Int) * 3600 + om * 60))
      else .error (.component "offset hour") := by
  have hascii : ∀ c ∈ rfc3339Chars y mo d h mi s (isoFractionChars n ++ isoOffsetChars negative oh om),
      c.toNat < 128 := rfc3339Chars_ascii_of fun c hc =>
    (List.mem_append.mp hc).elim (isoFractionChars_ascii n c) (isoOffsetChars_ascii negative oh om c)
  have hb := toUTF8_ofList_ascii hascii
  have hbytes := bytesAt_toByteArray
    ((rfc3339Chars y mo d h mi s (isoFractionChars n ++ isoOffsetChars negative oh om)).map Char.toUInt8)
  have hsize : ((rfc3339Chars y mo d h mi s (isoFractionChars n ++ isoOffsetChars negative oh om)).map
      Char.toUInt8).toByteArray.size = 19 + (isoFractionChars n).length + 6 := by
    simp [rfc3339Chars, isoOffsetChars_length]
    omega
  generalize ((rfc3339Chars y mo d h mi s (isoFractionChars n ++ isoOffsetChars negative oh om)).map
    Char.toUInt8).toByteArray = b at hb hbytes hsize
  obtain ⟨hclock, hrest⟩ := clockAt_of_bytesAt hy hmo hd hh hmi hs hbytes
  rw [List.map_append, bytesAt_append, List.length_map] at hrest
  obtain ⟨hfrac, hoffb⟩ := hrest
  generalize hp : 19 + (isoFractionChars n).length = p at hoffb hsize
  obtain ⟨hsign, hOH, hcolon, hOM⟩ := signedOffset_read hoh (by omega) hoffb
  replace hsign : b[p]? = some (if negative then 45 else 43) := by
    cases negative
    · exact hsign
    · exact hsign
  have hfr : FractionRead b 19 (n / 1000 * 1000) p :=
    hp ▸ isoFractionChars_read hn hfrac (hp ▸ hsign) (by cases negative <;> decide)
      (by cases negative <;> decide)
  by_cases hoh23 : oh ≤ 23
  · rw [if_pos hoh23]
    exact parseRfc3339_of_clockAt hb hclock hfr
      (.inr ⟨negative, oh, om, hsign, hOH, hcolon, hOM, hoh23, hom, rfl, hsize⟩)
  · rw [if_neg hoh23]
    exact parseRfc3339_of_offsetHour_gt hb hclock hfr hsign hOH (by omega)

theorem parseRfc3339_minus {rest : List Char} (hrest : ∀ c ∈ rest, c.toNat < 128) :
    parseRfc3339 (String.ofList ('-' :: rest)) = .error (.component "year") := by
  have hascii : ∀ c ∈ '-' :: rest, c.toNat < 128 := by
    intro c hc
    rcases List.mem_cons.mp hc with rfl | hc
    · decide
    · exact hrest c hc
  unfold parseRfc3339
  rw [toUTF8_ofList_ascii hascii]
  have hfirst : (('-' :: rest).map Char.toUInt8).toByteArray[0]? = some 45 := by
    rw [getElem?_toByteArray]
    rfl
  have hyear : digitsAt (('-' :: rest).map Char.toUInt8).toByteArray 0 4 = none := by
    unfold digitsAt
    rw [digitsAt.go, hfirst]
    rfl
  simp only [need, bind, Except.bind, hyear]

/-! ### The ISO text of a stamp -/

theorem isoFractionText_toList {n : Nat} (h : n < 10 ^ 9) :
    (if n = 0 then "" else "." ++ padNat 6 (n / 1000)).toList = isoFractionChars n := by
  by_cases hn : n = 0
  · simp [hn, isoFractionChars]
  · have hmicros : n / 1000 < 10 ^ 6 := by omega
    simp [hn, isoFractionChars, padNat_toList (by decide) hmicros]

theorem offsetText_toList_iso {off : Int} (h : off.natAbs / 3600 < 100) :
    (offsetText off).toList =
      isoOffsetChars (decide (off < 0)) (off.natAbs / 3600) (off.natAbs % 3600 / 60) := by
  by_cases hneg : off < 0 <;>
    simp [hneg, offsetText, isoOffsetChars, padNat_two_toList h,
      padNat_two_toList (show off.natAbs % 3600 / 60 < 100 by omega)]

/-- ISO text of a stamp in the representable years, at an offset of fewer than a hundred hours:
a minus sign for a year before 0, then the layout of its reading at its own offset. -/
theorem Stamp.iso_toList {s : Stamp} (hy : -9999 ≤ s.reading.year ∧ s.reading.year ≤ 9999)
    (hoff : s.offset.natAbs / 3600 < 100) :
    s.iso.toList = (if s.reading.year < 0 then ['-'] else []) ++
      rfc3339Chars s.reading.year.natAbs s.reading.month s.reading.day s.reading.hour
        s.reading.minute s.reading.second (isoFractionChars s.reading.nanosecond ++
          isoOffsetChars (decide (s.offset < 0)) (s.offset.natAbs / 3600) (s.offset.natAbs % 3600 / 60)) := by
  obtain ⟨r, hr⟩ : ∃ r, s.reading = r := ⟨_, rfl⟩
  have hvalid : r.Valid := hr ▸ s.reading_valid
  obtain ⟨⟨-, hm12⟩, -, hd31, hh, hmi, hs, hn⟩ := hvalid.ranges
  unfold Stamp.iso
  rw [hr] at hy ⊢
  have hfour : (padNat 4 r.year.natAbs).toList = (decimalDigits 4 r.year.natAbs).map Nat.digitChar :=
    padNat_toList (by decide) (by norm_num; omega)
  have hyear : (yearText r.year).toList = (if r.year < 0 then ['-'] else []) ++
      (decimalDigits 4 r.year.natAbs).map Nat.digitChar := by
    by_cases hneg : r.year < 0
    · simp [yearText, hneg, hfour]
    · have hnat : r.year.toNat = r.year.natAbs := by omega
      simp [yearText, hneg, hnat, hfour]
  simp only [String.toList_append, Reading.dateText, Reading.clockText, hyear,
    padNat_two_toList (show r.month < 100 by omega), padNat_two_toList (show r.day < 100 by omega),
    padNat_two_toList (show r.hour < 100 by omega), padNat_two_toList (show r.minute < 100 by omega),
    padNat_two_toList (show r.second < 100 by omega),
    isoFractionText_toList (show r.nanosecond < 10 ^ 9 by norm_num; omega),
    offsetText_toList_iso hoff, rfc3339Chars]
  simp

/-! ### Reading ISO text back -/

/-- A stamp cut to the microsecond below it: the same reading at the same offset, without the
nanoseconds below the microsecond. -/
def Stamp.toMicros (s : Stamp) : Stamp :=
  Stamp.ofReading { s.reading with nanosecond := s.reading.nanosecond / 1000 * 1000 } s.offset

theorem Stamp.toMicros_utc (s : Stamp) : s.toMicros.utc = s.utc - (s.reading.nanosecond % 1000 : Nat) := by
  have h := congrArg Stamp.utc (Stamp.ofReading_reading s)
  simp only [Stamp.toMicros, Stamp.ofReading, Reading.nanos] at h ⊢
  omega

theorem Stamp.toMicros_reading (s : Stamp) :
    s.toMicros.reading = { s.reading with nanosecond := s.reading.nanosecond / 1000 * 1000 } := by
  obtain ⟨hdate, hh, hmi, hs, hn⟩ := s.reading_valid
  unfold Stamp.toMicros
  apply Stamp.reading_ofReading
  exact ⟨hdate, hh, hmi, hs, by dsimp only; omega⟩

section Read

variable {s : Stamp}

/-- The year, as written, and the offset, read in hours and minutes, give back the stamp cut to
the microsecond when the offset is whole minutes. -/
theorem parseRfc3339_iso (hy : 0 ≤ s.reading.year ∧ s.reading.year ≤ 9999)
    (hoff : s.offset.natAbs < 24 * 3600) (hmin : s.offset.natAbs % 60 = 0) :
    parseRfc3339 s.iso = .ok s.toMicros := by
  obtain ⟨hmo, ⟨hd1, hdim⟩, -, hh, hmi, hs, hn⟩ := s.reading_valid.ranges
  have hyear : ((s.reading.year.natAbs : Nat) : Int) = s.reading.year := by omega
  rw [← String.ofList_toList (s := s.iso), Stamp.iso_toList ⟨by omega, hy.2⟩ (by omega),
    if_neg (by omega), List.nil_append,
    parseRfc3339_isoChars (by omega) hmo ⟨hd1, by rw [hyear]; exact hdim⟩ (by omega) (by omega)
      (by omega) (by norm_num; exact hn) (by omega) (by omega), if_pos (by omega)]
  have hoffset : (if decide (s.offset < 0) = true then
      -(((s.offset.natAbs / 3600 : Nat) : Int) * 3600 + ((s.offset.natAbs % 3600 / 60 : Nat) : Int) * 60)
      else ((s.offset.natAbs / 3600 : Nat) : Int) * 3600 + ((s.offset.natAbs % 3600 / 60 : Nat) : Int) * 60) =
      s.offset := by
    by_cases hneg : s.offset < 0
    · simp only [hneg, decide_true, if_true]
      omega
    · simp only [hneg, decide_false, Bool.false_eq_true, if_false]
      omega
  rw [hoffset, hyear]
  rfl

theorem parseRfc3339_iso_error (hy : -9999 ≤ s.reading.year ∧ s.reading.year ≤ 9999)
    (hoff : s.offset.natAbs < 100 * 3600) (hbad : s.reading.year < 0 ∨ 24 * 3600 ≤ s.offset.natAbs) :
    ∃ e, parseRfc3339 s.iso = .error e := by
  rw [← String.ofList_toList (s := s.iso), Stamp.iso_toList hy (by omega)]
  by_cases hneg : s.reading.year < 0
  · -- a minus sign where the first digit of the year belongs
    rw [if_pos hneg, List.singleton_append]
    exact ⟨_, parseRfc3339_minus (rfc3339Chars_ascii_of fun c hc =>
      (List.mem_append.mp hc).elim (isoFractionChars_ascii _ c) (isoOffsetChars_ascii _ _ _ c))⟩
  · -- an offset hour past 23
    obtain ⟨hmo, ⟨hd1, hdim⟩, -, hh, hmi, hs, hn⟩ := s.reading_valid.ranges
    have hyear : ((s.reading.year.natAbs : Nat) : Int) = s.reading.year := by omega
    rw [if_neg hneg, List.nil_append,
      parseRfc3339_isoChars (by omega) hmo ⟨hd1, by rw [hyear]; exact hdim⟩ (by omega) (by omega)
        (by omega) (by norm_num; exact hn) (by omega) (by omega), if_neg (by omega)]
    exact ⟨_, rfl⟩

/-- ISO text of a stamp in the representable years, at an offset of whole minutes below a
hundred hours, is read back exactly when its year is 0 to 9999 and its offset is below a day. -/
theorem parseRfc3339_iso_ok_iff (hy : -9999 ≤ s.reading.year ∧ s.reading.year ≤ 9999)
    (hoff : s.offset.natAbs < 100 * 3600) (hmin : s.offset.natAbs % 60 = 0) :
    (∃ t, parseRfc3339 s.iso = .ok t) ↔ 0 ≤ s.reading.year ∧ s.offset.natAbs < 24 * 3600 := by
  constructor
  · rintro ⟨t, ht⟩
    by_contra hbad
    obtain ⟨e, he⟩ := parseRfc3339_iso_error hy hoff (by omega)
    rw [he] at ht
    cases ht
  · rintro ⟨hy0, hday⟩
    exact ⟨_, parseRfc3339_iso ⟨hy0, hy.2⟩ hday hmin⟩

/-- Writing a stamp cut to the microsecond gives its own text back, unless its nanoseconds are
more than none but less than a microsecond: the six zero digits of its fraction are then not
written. -/
theorem Stamp.iso_toMicros (s : Stamp) :
    s.toMicros.iso = s.iso ↔ s.reading.nanosecond = 0 ∨ 1000 ≤ s.reading.nanosecond := by
  have hoffset : s.toMicros.offset = s.offset := rfl
  unfold Stamp.iso
  rw [Stamp.toMicros_reading, hoffset]
  simp only [Reading.dateText, Reading.clockText]
  by_cases h0 : s.reading.nanosecond = 0
  · simp [h0]
  · by_cases hmicro : 1000 ≤ s.reading.nanosecond
    · have hne : s.reading.nanosecond / 1000 * 1000 ≠ 0 := by omega
      have hdiv : s.reading.nanosecond / 1000 * 1000 / 1000 = s.reading.nanosecond / 1000 := by omega
      simp [h0, hne, hdiv, hmicro]
    · -- the fraction is cut to nothing: the text loses its seven characters
      have hz : s.reading.nanosecond / 1000 * 1000 = 0 := by omega
      simp only [hz, h0, hmicro, if_true, if_false, or_self, iff_false]
      intro h
      have := congrArg String.length h
      simp at this

end Read

end Time

namespace Observation

theorem timeComplaint_eq_none_iff (text : String) :
    timeComplaint text = none ↔ ∃ t, Time.parseRfc3339 text = .ok t := by
  unfold timeComplaint
  cases Time.parseRfc3339 text with
  | ok t => simp
  | error e => simp

/-- The recording time of a written observation, in the representable years at an offset of
whole minutes below 26 hours, passes the reader's check exactly when its year is 0 to 9999 and
its offset is below a day. It is then read back cut to the microsecond, and written again to the
same text unless its nanoseconds are more than none but less than a microsecond. -/
theorem recordedAt_round_trip (o : Observation)
    (hy : -9999 ≤ o.recordedAt.reading.year ∧ o.recordedAt.reading.year ≤ 9999)
    (hoff : o.recordedAt.offset.natAbs < 26 * 3600) (hmin : o.recordedAt.offset.natAbs % 60 = 0) :
    (timeComplaint o.recordedAtIso = none ↔
        0 ≤ o.recordedAt.reading.year ∧ o.recordedAt.offset.natAbs < 24 * 3600) ∧
      (0 ≤ o.recordedAt.reading.year → o.recordedAt.offset.natAbs < 24 * 3600 →
        Time.parseRfc3339 o.recordedAtIso = .ok o.recordedAt.toMicros ∧
          (o.recordedAt.toMicros.iso = o.recordedAtIso ↔
            o.recordedAt.reading.nanosecond = 0 ∨ 1000 ≤ o.recordedAt.reading.nanosecond)) := by
  refine ⟨?_, fun hy0 hday => ⟨Time.parseRfc3339_iso ⟨hy0, hy.2⟩ hday hmin, Time.Stamp.iso_toMicros _⟩⟩
  rw [timeComplaint_eq_none_iff]
  exact Time.parseRfc3339_iso_ok_iff hy (by omega) hmin

/-- Half a microsecond after the epoch: the time is read back as the epoch itself, whose text
has no fraction, so writing it again does not give the text read. -/
theorem recordedAt_round_trip_half_micro :
    timeComplaint (Time.Stamp.mk 500 0).iso = none ∧
      Time.parseRfc3339 (Time.Stamp.mk 500 0).iso = .ok (Time.Stamp.mk 500 0).toMicros ∧
      (Time.Stamp.mk 500 0).toMicros.iso ≠ (Time.Stamp.mk 500 0).iso := by
  have h := recordedAt_round_trip
    { source := "sensor1", sourceName := "Vehicle1", subjectType := FleetTelemetry.subjectType,
      kind := observationType,
      recordedAt := ⟨500, 0⟩, location := ⟨40.7128, -74.006⟩, additional := [] }
    (by decide) (by decide) (by decide)
  obtain ⟨hcheck, hread⟩ := h
  obtain ⟨hparse, hiso⟩ := hread (by decide) (by decide)
  refine ⟨hcheck.mpr ⟨by decide, by decide⟩, hparse, fun heq => ?_⟩
  have := hiso.mp heq
  revert this
  decide

end Observation

end FleetTelemetry
