import FleetTelemetry.Time.Stamp

/-!
# Day counts and dates

`daysFromCivil` and `civilFromDays` count days in eras of 400 years whose years start in March,
so that a leap day is the last day of its year. Each is the inverse of the other: a valid date
counted and read back is the same date (`civilFromDays_daysFromCivil`), and every day count
names a valid date that counts back to it (`civilFromDays_valid`). Readings inherit both, with
the time of day split off the nanoseconds (`Reading.ofNanos_nanos`, `Reading.nanos_ofNanos`).

The arithmetic goes through the day of the era `eraDay yoe doy` of day `doy` of year `yoe`, the
year being split into its century, its four-year span and its year in the span.
-/

namespace FleetTelemetry.Time

/-! ### Years of an era -/

/-- The day of the era on which day `doy` of its year `yoe` falls. -/
def eraDay (yoe doy : Int) : Int := yoe * 365 + yoe / 4 - yoe / 100 + doy

/-- The year of the era that the day of the era `doe` falls in, as `civilFromDays` finds it. -/
def eraYear (doe : Int) : Int := (doe - doe / 1460 + doe / 36524 - doe / 146096) / 365

/-- `doy` is a day of year `yoe` of an era: year 399 and every fourth year that does not end a
century have the leap day 365. -/
def IsYearDay (yoe doy : Int) : Prop :=
  0 ≤ yoe ∧ yoe ≤ 399 ∧ 0 ≤ doy ∧
    (doy ≤ 364 ∨ (doy = 365 ∧ yoe % 4 = 3 ∧ (yoe % 100 ≠ 99 ∨ yoe = 399)))

/-- A year of an era split into its century, its four-year span in the century and its year in
the span. -/
theorem IsYearDay.split {yoe doy : Int} (h : IsYearDay yoe doy) :
    ∃ c q r, 0 ≤ c ∧ c ≤ 3 ∧ 0 ≤ q ∧ q ≤ 24 ∧ 0 ≤ r ∧ r ≤ 3 ∧ yoe = 100 * c + 4 * q + r ∧
      0 ≤ doy ∧ (doy ≤ 364 ∨ (doy = 365 ∧ r = 3 ∧ (q ≠ 24 ∨ c = 3))) ∧
      eraDay yoe doy = 36524 * c + 1461 * q + 365 * r + doy := by
  obtain ⟨h0, h1, h2, h3⟩ := h
  refine ⟨yoe / 100, yoe % 100 / 4, yoe % 4, ?_⟩
  unfold eraDay
  omega

theorem eraDay_bounds {yoe doy : Int} (h : IsYearDay yoe doy) :
    0 ≤ eraDay yoe doy ∧ eraDay yoe doy ≤ 146096 := by
  obtain ⟨c, q, r, hc0, hc1, hq0, hq1, hr0, hr1, rfl, h2, h3, hdoe⟩ := h.split
  omega

theorem eraYear_eraDay {yoe doy : Int} (h : IsYearDay yoe doy) : eraYear (eraDay yoe doy) = yoe := by
  obtain ⟨c, q, r, hc0, hc1, hq0, hq1, hr0, hr1, rfl, h2, h3, hdoe⟩ := h.split
  unfold eraYear
  generalize eraDay (100 * c + 4 * q + r) doy = doe at hdoe ⊢
  by_cases hend : c = 3 ∧ q = 24 ∧ r = 3 ∧ doy = 365
  · -- the leap day that ends the era
    obtain ⟨rfl, rfl, rfl, rfl⟩ := hend
    rw [hdoe]
    decide
  · -- omega needs the three quotients spelled out
    have h146096 : doe / 146096 = 0 := by omega
    have h36524 : doe / 36524 = c := by omega
    by_cases hx : 1460 ≤ 24 * c + q + 365 * r + doy
    · have h1460 : doe / 1460 = 25 * c + q + 1 := by omega
      rw [h146096, h36524, h1460]
      omega
    · have h1460 : doe / 1460 = 25 * c + q := by omega
      rw [h146096, h36524, h1460]
      omega

theorem exists_isYearDay {doe : Int} (h0 : 0 ≤ doe) (h1 : doe ≤ 146096) :
    ∃ yoe doy, IsYearDay yoe doy ∧ eraDay yoe doy = doe := by
  -- the century (the last one takes the era's leap day), the four-year span, the year
  obtain ⟨c, hc⟩ : ∃ c, c = min (doe / 36524) 3 := ⟨_, rfl⟩
  obtain ⟨q, hq⟩ : ∃ q, q = (doe - 36524 * c) / 1461 := ⟨_, rfl⟩
  obtain ⟨r, hr⟩ : ∃ r, r = min ((doe - 36524 * c) % 1461 / 365) 3 := ⟨_, rfl⟩
  have hbounds : 0 ≤ c ∧ c ≤ 3 ∧ 0 ≤ q ∧ q ≤ 24 ∧ 0 ≤ r ∧ r ≤ 3 := by omega
  have h4 : (100 * c + 4 * q + r) / 4 = 25 * c + q := by omega
  have h100 : (100 * c + 4 * q + r) / 100 = c := by omega
  refine ⟨100 * c + 4 * q + r, (doe - 36524 * c) % 1461 - 365 * r, ?_, ?_⟩
  · unfold IsYearDay
    omega
  · unfold eraDay
    rw [h4, h100]
    omega

/-! ### Months of a March-based year -/

/-- The month index `(5 * doy + 2) / 153` of a day of the year inverts the first day
`(153 * mp + 2) / 5` of month `mp`. -/
theorem marchMonth_of_offset (mp k : Int) (hk : 0 ≤ k)
    (hlen : k < (153 * (mp + 1) + 2) / 5 - (153 * mp + 2) / 5) :
    (5 * ((153 * mp + 2) / 5 + k) + 2) / 153 = mp := by
  omega

theorem daysInMonth_le (y : Int) {m : Nat} (h1 : 1 ≤ m) (h12 : m ≤ 12) :
    (daysInMonth y m : Int) ≤
      (153 * (((m : Int) + 9) % 12 + 1) + 2) / 5 - (153 * (((m : Int) + 9) % 12) + 2) / 5 := by
  obtain rfl | rfl | rfl | rfl | rfl | rfl | rfl | rfl | rfl | rfl | rfl | rfl :
      m = 1 ∨ m = 2 ∨ m = 3 ∨ m = 4 ∨ m = 5 ∨ m = 6 ∨ m = 7 ∨ m = 8 ∨ m = 9 ∨ m = 10 ∨ m = 11 ∨
        m = 12 := by
    omega
  all_goals simp only [daysInMonth]
  all_goals try decide
  by_cases hleap : isLeapYear y = true <;> simp [hleap]

theorem daysInMonth_of_ne_two (y : Int) {m : Nat} (h1 : 1 ≤ m) (h12 : m ≤ 12) (h2 : m ≠ 2) :
    (daysInMonth y m : Int) =
      (153 * (((m : Int) + 9) % 12 + 1) + 2) / 5 - (153 * (((m : Int) + 9) % 12) + 2) / 5 := by
  obtain rfl | rfl | rfl | rfl | rfl | rfl | rfl | rfl | rfl | rfl | rfl :
      m = 1 ∨ m = 3 ∨ m = 4 ∨ m = 5 ∨ m = 6 ∨ m = 7 ∨ m = 8 ∨ m = 9 ∨ m = 10 ∨ m = 11 ∨ m = 12 := by
    omega
  all_goals rfl

theorem daysInMonth_le_31 (y : Int) {m : Nat} (h1 : 1 ≤ m) (h12 : m ≤ 12) : daysInMonth y m ≤ 31 := by
  have hlen := daysInMonth_le y h1 h12
  omega

theorem isLeapYear_iff (y : Int) :
    isLeapYear y = true ↔ (y % 4 = 0 ∧ y % 100 ≠ 0) ∨ y % 400 = 0 := by
  simp [isLeapYear]

theorem isValidDate_iff {y : Int} {m d : Nat} :
    isValidDate y m d = true ↔ ((1 ≤ m ∧ m ≤ 12) ∧ 1 ≤ d) ∧ d ≤ daysInMonth y m := by
  simp [isValidDate]

/-! ### From dates to days and back -/

theorem isYearDay_of_isValidDate {y : Int} {m d : Nat} (h : isValidDate y m d = true) :
    IsYearDay ((if m ≤ 2 then y - 1 else y) - (if m ≤ 2 then y - 1 else y) / 400 * 400)
      ((153 * (((m : Int) + 9) % 12) + 2) / 5 + (d : Int) - 1) := by
  obtain ⟨⟨⟨hm1, hm12⟩, hd1⟩, hdim⟩ := isValidDate_iff.mp h
  have hlen := daysInMonth_le y hm1 hm12
  by_cases hfeb : m = 2
  · -- February: its 29th exists only in a leap year, and ends a March-based year
    subst hfeb
    have hleap : d = 29 → (y % 4 = 0 ∧ y % 100 ≠ 0) ∨ y % 400 = 0 := by
      intro h29
      by_cases hl : isLeapYear y = true
      · exact (isLeapYear_iff y).mp hl
      · simp [daysInMonth, hl] at hdim
        omega
    have hfeb29 : d ≤ 29 := by
      simp only [daysInMonth] at hdim
      by_cases hl : isLeapYear y = true <;> simp [hl] at hdim <;> omega
    simp only [IsYearDay, show (2 : Nat) ≤ 2 from Nat.le_refl 2, if_true]
    omega
  · unfold IsYearDay
    by_cases hle : m ≤ 2
    · simp only [hle, if_true]
      omega
    · simp only [hle, if_false]
      omega

theorem civilFromDays_era (era : Int) {yoe doy : Int} (h : IsYearDay yoe doy) :
    civilFromDays (era * 146097 + eraDay yoe doy - 719468) =
      let mp := (5 * doy + 2) / 153
      let m := if mp < 10 then mp + 3 else mp - 9
      (yoe + era * 400 + (if m ≤ 2 then 1 else 0), m.toNat, (doy - (153 * mp + 2) / 5 + 1).toNat) := by
  have hb := eraDay_bounds h
  have hyear := eraYear_eraDay h
  unfold eraYear at hyear
  simp only [civilFromDays]
  rw [show era * 146097 + eraDay yoe doy - 719468 + 719468 = era * 146097 + eraDay yoe doy by omega,
    show (era * 146097 + eraDay yoe doy) / 146097 = era by omega,
    show era * 146097 + eraDay yoe doy - era * 146097 = eraDay yoe doy by omega, hyear,
    show eraDay yoe doy - (365 * yoe + yoe / 4 - yoe / 100) = doy by unfold eraDay; omega]

theorem civilFromDays_daysFromCivil {y : Int} {m d : Nat} (h : isValidDate y m d = true) :
    civilFromDays (daysFromCivil y m d) = (y, m, d) := by
  obtain ⟨⟨⟨hm1, hm12⟩, hd1⟩, hdim⟩ := isValidDate_iff.mp h
  have hlen := daysInMonth_le y hm1 hm12
  have hsplit : daysFromCivil y m d = (if m ≤ 2 then y - 1 else y) / 400 * 146097 +
      eraDay ((if m ≤ 2 then y - 1 else y) - (if m ≤ 2 then y - 1 else y) / 400 * 400)
        ((153 * (((m : Int) + 9) % 12) + 2) / 5 + (d : Int) - 1) - 719468 := rfl
  have hmonth := marchMonth_of_offset (((m : Int) + 9) % 12) ((d : Int) - 1) (by omega) (by omega)
  rw [hsplit, civilFromDays_era _ (isYearDay_of_isValidDate h)]
  simp only
  rw [show (153 * (((m : Int) + 9) % 12) + 2) / 5 + (d : Int) - 1 =
      (153 * (((m : Int) + 9) % 12) + 2) / 5 + ((d : Int) - 1) by omega, hmonth]
  have hm : (if ((m : Int) + 9) % 12 < 10 then ((m : Int) + 9) % 12 + 3
      else ((m : Int) + 9) % 12 - 9) = m := by
    by_cases hlt : ((m : Int) + 9) % 12 < 10
    · rw [if_pos hlt]; omega
    · rw [if_neg hlt]; omega
  rw [hm, Int.toNat_natCast, show (153 * (((m : Int) + 9) % 12) + 2) / 5 + ((d : Int) - 1) -
      (153 * (((m : Int) + 9) % 12) + 2) / 5 + 1 = (d : Int) by omega, Int.toNat_natCast]
  -- the year: a date in January or February belongs to the March-based year before
  by_cases hle : m ≤ 2
  · rw [if_pos hle, if_pos (show (m : Int) ≤ 2 by omega)]
    congr 1
    omega
  · rw [if_neg hle, if_neg (show ¬ (m : Int) ≤ 2 by omega)]
    congr 1
    omega

/-- The date `civilFromDays` gives for a day of an era is valid, and counting the days to it
gives that day back. -/
theorem civilFromDays_era_valid (era : Int) {yoe doy : Int} (h : IsYearDay yoe doy) :
    isValidDate (civilFromDays (era * 146097 + eraDay yoe doy - 719468)).1
        (civilFromDays (era * 146097 + eraDay yoe doy - 719468)).2.1
        (civilFromDays (era * 146097 + eraDay yoe doy - 719468)).2.2 = true ∧
      daysFromCivil (civilFromDays (era * 146097 + eraDay yoe doy - 719468)).1
        (civilFromDays (era * 146097 + eraDay yoe doy - 719468)).2.1
        (civilFromDays (era * 146097 + eraDay yoe doy - 719468)).2.2 =
        era * 146097 + eraDay yoe doy - 719468 := by
  rw [civilFromDays_era era h]
  obtain ⟨hy0, hy1, hd0, hd1⟩ := h
  simp only
  generalize hmp : (5 * doy + 2) / 153 = mp
  have hmonth : 0 ≤ mp ∧ mp ≤ 11 ∧ (153 * mp + 2) / 5 ≤ doy ∧ doy < (153 * (mp + 1) + 2) / 5 := by
    omega
  obtain ⟨M, hM⟩ : ∃ M : Nat, (M : Int) = if mp < 10 then mp + 3 else mp - 9 :=
    ⟨(if mp < 10 then mp + 3 else mp - 9).toNat, by by_cases hlt : mp < 10 <;> simp [hlt] <;> omega⟩
  obtain ⟨D, hD⟩ : ∃ D : Nat, (D : Int) = doy - (153 * mp + 2) / 5 + 1 :=
    ⟨(doy - (153 * mp + 2) / 5 + 1).toNat, by omega⟩
  have hMmp : ((M : Int) + 9) % 12 = mp := by
    by_cases hlt : mp < 10
    · rw [if_pos hlt] at hM; omega
    · rw [if_neg hlt] at hM; omega
  rw [← hM, ← hD, Int.toNat_natCast, Int.toNat_natCast]
  have hM1 : 1 ≤ M ∧ M ≤ 12 := by omega
  have hsplit : ∀ Y : Int, daysFromCivil Y M D = (if M ≤ 2 then Y - 1 else Y) / 400 * 146097 +
      eraDay ((if M ≤ 2 then Y - 1 else Y) - (if M ≤ 2 then Y - 1 else Y) / 400 * 400)
        ((153 * (((M : Int) + 9) % 12) + 2) / 5 + (D : Int) - 1) - 719468 := fun _ => rfl
  have hyear : (if M ≤ 2 then yoe + era * 400 + (if (M : Int) ≤ 2 then 1 else 0) - 1
      else yoe + era * 400 + (if (M : Int) ≤ 2 then 1 else 0)) = yoe + era * 400 := by
    by_cases hle : M ≤ 2
    · rw [if_pos hle, if_pos (show (M : Int) ≤ 2 by omega)]; omega
    · rw [if_neg hle, if_neg (show ¬ (M : Int) ≤ 2 by omega)]; omega
  refine ⟨?_, ?_⟩
  · rw [isValidDate_iff]
    refine ⟨⟨⟨hM1.1, hM1.2⟩, by omega⟩, ?_⟩
    by_cases hfeb : M = 2
    · -- the 29th of February ends a March-based year that is followed by a leap year
      subst hfeb
      have hleap : doy = 365 →
          isLeapYear (yoe + era * 400 + (if ((2 : Nat) : Int) ≤ 2 then 1 else 0)) = true := by
        intro h365
        obtain ⟨-, h4, h100⟩ := hd1.resolve_left (by omega)
        rw [if_pos (by decide), isLeapYear_iff]
        omega
      by_cases hl : isLeapYear (yoe + era * 400 + (if ((2 : Nat) : Int) ≤ 2 then 1 else 0)) = true
      · simp only [daysInMonth, hl, if_true]
        omega
      · have h364 : doy ≠ 365 := fun h365 => hl (hleap h365)
        simp only [daysInMonth, hl, Bool.false_eq_true, if_false]
        omega
    · have hlen := daysInMonth_of_ne_two (yoe + era * 400 + (if (M : Int) ≤ 2 then 1 else 0))
        hM1.1 hM1.2 hfeb
      rw [hMmp] at hlen
      omega
  · rw [hsplit, hyear, hMmp, show (yoe + era * 400) / 400 = era by omega,
      show yoe + era * 400 - era * 400 = yoe by omega,
      show (153 * mp + 2) / 5 + (D : Int) - 1 = doy by omega]

theorem civilFromDays_valid (z : Int) :
    isValidDate (civilFromDays z).1 (civilFromDays z).2.1 (civilFromDays z).2.2 = true ∧
      daysFromCivil (civilFromDays z).1 (civilFromDays z).2.1 (civilFromDays z).2.2 = z := by
  obtain ⟨era, hera⟩ : ∃ era, era = (z + 719468) / 146097 := ⟨_, rfl⟩
  obtain ⟨yoe, doy, hday, hdoe⟩ :=
    exists_isYearDay (show 0 ≤ z + 719468 - era * 146097 by omega) (by omega)
  have hz : z = era * 146097 + eraDay yoe doy - 719468 := by omega
  rw [hz]
  exact civilFromDays_era_valid era hday

/-! ### Readings -/

def Reading.Valid (r : Reading) : Prop :=
  isValidDate r.year r.month r.day = true ∧ r.hour < 24 ∧ r.minute < 60 ∧ r.second < 60 ∧
    r.nanosecond < 1000000000

theorem Reading.ofNanos_valid (n : Int) : (Reading.ofNanos n).Valid := by
  refine ⟨(civilFromDays_valid (n / nanosPerDay)).1, ?_, ?_, ?_, ?_⟩ <;>
    simp only [Reading.ofNanos, nanosPerDay, nanosPerSecond] <;> omega

theorem Stamp.reading_valid (s : Stamp) : s.reading.Valid := Reading.ofNanos_valid _

/-- The components of a valid reading in their ranges; the day is also at most 31, as the texts
that lay it out in two digits need. -/
theorem Reading.Valid.ranges {r : Reading} (h : r.Valid) :
    (1 ≤ r.month ∧ r.month ≤ 12) ∧ (1 ≤ r.day ∧ r.day ≤ daysInMonth r.year r.month) ∧ r.day ≤ 31 ∧
      r.hour < 24 ∧ r.minute < 60 ∧ r.second < 60 ∧ r.nanosecond < 1000000000 := by
  obtain ⟨hdate, hh, hmi, hs, hn⟩ := h
  obtain ⟨⟨hmo, hd1⟩, hdim⟩ := isValidDate_iff.mp hdate
  exact ⟨hmo, ⟨hd1, hdim⟩, Nat.le_trans hdim (daysInMonth_le_31 r.year hmo.1 hmo.2), hh, hmi, hs, hn⟩

theorem Reading.nanos_ofNanos (n : Int) : (Reading.ofNanos n).nanos = n := by
  have hdays := (civilFromDays_valid (n / nanosPerDay)).2
  simp only [Reading.ofNanos, Reading.nanos]
  rw [hdays]
  simp only [nanosPerDay, nanosPerSecond]
  omega

theorem Reading.nanosecond_ofNanos (n : Int) : ((Reading.ofNanos n).nanosecond : Int) = n % 1000000000 := by
  simp only [Reading.ofNanos, nanosPerDay, nanosPerSecond]
  omega

theorem Reading.ofNanos_nanos {r : Reading} (h : r.Valid) : Reading.ofNanos r.nanos = r := by
  obtain ⟨hdate, hh, hm, hs, hn⟩ := h
  obtain ⟨y, mo, d, hour, minute, second, nanos⟩ := r
  simp only at hdate hh hm hs hn
  have hdays : (daysFromCivil y mo d * nanosPerDay +
      ((hour * 3600 + minute * 60 + second : Nat) : Int) * nanosPerSecond + nanos) / nanosPerDay =
      daysFromCivil y mo d := by
    simp only [nanosPerDay, nanosPerSecond]
    omega
  simp only [Reading.ofNanos, Reading.nanos, hdays, civilFromDays_daysFromCivil hdate]
  simp only [nanosPerDay, nanosPerSecond, Reading.mk.injEq, true_and]
  omega

theorem Stamp.reading_ofReading {r : Reading} (h : r.Valid) (offset : Int) :
    (Stamp.ofReading r offset).reading = r := by
  simp only [Stamp.reading, Stamp.ofReading, Int.sub_add_cancel]
  exact Reading.ofNanos_nanos h

end FleetTelemetry.Time
