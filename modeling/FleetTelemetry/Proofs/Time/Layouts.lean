import FleetTelemetry.Proofs.Time.Localize
import FleetTelemetry.Proofs.Time.Rfc3339
import FleetTelemetry.Proofs.Json.Layout

/-!
# Offset-free and offset-carrying layouts

`localize` tries the offset-free layouts first and takes the first reading one of them gives as
wall-clock time at the target offset; only a text none of them reads is tried as RFC 3339 and by
the layout with an offset, and its instant is moved to the target offset. That order is right
because the two kinds of layout never read the same text: a text that RFC 3339 or the offset
layout reads has a digit for its third byte, a `-` after its year, and something after its date,
clock and fraction, and no offset-free layout reads such a text (`readLocal_none_of_offsetShape`).

So `localize_respects_layouts` holds for every text: a text carrying an offset is shown as the
instant it names, at whatever offset it is shown; a text without one keeps the date, the clock
and the fraction of the first layout that reads it, and moving the target offset by some seconds
moves the instant back by as many.
-/

namespace FleetTelemetry.Time

/-! ### Fractions and offsets, one piece at a time -/

section Pieces

variable {b : ByteArray} {ps : Pattern} {i : Nat} {f : Found} {r : Found × Nat}

theorem readPieces_fraction_cons : readPieces b (.fraction :: ps) i f =
    (fractionAt b i).bind fun p => readPieces b ps p.2 { f with nanos := some p.1 } := by
  conv => lhs; whnf
  cases fractionAt b i <;> rfl

theorem readPieces_offsetMinute_cons : readPieces b (.offsetMinute :: ps) i f =
    (digitsAt b i 2).bind fun p =>
      if p.1 ≤ 59 then
        readPieces b ps p.2 { f with offset := some (f.offset.getD 0 +
          if f.negativeOffset then -(p.1 * 60 : Int) else p.1 * 60) }
      else none := by
  conv => lhs; whnf
  cases digitsAt b i 2 <;> rfl

theorem readPieces_fraction_inv (h : readPieces b (.fraction :: ps) i f = some r) :
    ∃ n j, fractionAt b i = some (n, j) ∧ readPieces b ps j { f with nanos := some n } = some r := by
  rw [readPieces_fraction_cons] at h
  cases hfa : fractionAt b i with
  | none => simp [hfa] at h
  | some p =>
    obtain ⟨n, j⟩ := p
    simp only [hfa, Option.bind_some] at h
    exact ⟨n, j, rfl, h⟩

theorem readPieces_offsetMinute_inv (h : readPieces b (.offsetMinute :: ps) i f = some r) :
    ∃ m, digitsAt b i 2 = some (m, i + 2) ∧ m ≤ 59 ∧
      readPieces b ps (i + 2) { f with offset := some (f.offset.getD 0 +
        if f.negativeOffset then -(m * 60 : Int) else m * 60) } = some r := by
  rw [readPieces_offsetMinute_cons] at h
  exact bind_digits_inv (· ≤ 59) h

theorem readPieces_offsetHour_inv (h : readPieces b (.offsetHour :: ps) i f = some r) :
    ∃ (neg : Bool) (v : Nat), b[i]? = some (if neg then 45 else 43) ∧
      digitsAt b (i + 1) 2 = some (v, i + 3) ∧ v ≤ 25 ∧
      readPieces b ps (i + 3) { f with offset := some (if neg then -(v * 3600 : Int) else v * 3600),
                                       negativeOffset := neg } = some r := by
  conv at h => lhs; whnf
  cases hb : b[i]? with
  | none => simp [hb] at h
  | some c =>
    by_cases h45 : c = 45
    · subst h45
      simp only [hb] at h
      have hread : ((digitsAt b (i + 1) 2).bind fun p => if p.1 ≤ 25 then
          readPieces b ps p.2 { f with offset := some (-(p.1 * 3600 : Int)), negativeOffset := true }
          else none) = some r := by
        rw [← h]
        cases digitsAt b (i + 1) 2 <;> rfl
      obtain ⟨v, hd, hv, hrest⟩ := bind_digits_inv (· ≤ 25) hread
      exact ⟨true, v, rfl, hd, hv, hrest⟩
    · by_cases h43 : c = 43
      · subst h43
        simp only [hb] at h
        have hread : ((digitsAt b (i + 1) 2).bind fun p => if p.1 ≤ 25 then
            readPieces b ps p.2 { f with offset := some (p.1 * 3600 : Int), negativeOffset := false }
            else none) = some r := by
          rw [← h]
          cases digitsAt b (i + 1) 2 <;> rfl
        obtain ⟨v, hd, hv, hrest⟩ := bind_digits_inv (· ≤ 25) hread
        exact ⟨false, v, rfl, hd, hv, hrest⟩
      · simp [hb, h45, h43] at h

theorem readPieces_nil_inv (h : readPieces b [] i f = some r) : r = (f, i) := by
  rw [readPieces_nil_eq, Option.some.injEq] at h
  exact h.symm

theorem readPieces_seconds_inv (h : readPieces b (.sep ':' :: .second :: ps) i f = some r) :
    ∃ f', readPieces b ps (i + 3) f' = some r := by
  obtain ⟨-, h⟩ := readPieces_sep_inv h
  obtain ⟨_, -, -, h⟩ := readPieces_second_inv h
  exact ⟨_, h⟩

end Pieces

/-! ### The bytes of a text with an offset -/

def DigitAt (b : ByteArray) (j : Nat) : Prop :=
  ∃ c, b[j]? = some c ∧ (48 ≤ c && c ≤ 57) = true

def signWidth (b : ByteArray) : Nat :=
  if b[0]? = some 43 ∨ b[0]? = some 45 then 1 else 0

/-- What every text read with an offset looks like: a digit for its third byte, a `-` right
after the year, and more after the seconds, even after a fraction that a `.` there starts. -/
structure OffsetShape (b : ByteArray) : Prop where
  digit_two : DigitAt b 2
  dash : b[signWidth b + 4]? = some 45
  long : signWidth b + 19 < b.size
  fraction_ends : b[signWidth b + 19]? = some 46 →
    ∀ n j, fractionAt b (signWidth b + 20) = some (n, j) → j < b.size

section Shape

variable {b : ByteArray} {ps : Pattern} {f f' : Found} {r : Found × Nat}

theorem digitsAt_digitAt {j k v j' : Nat} (h : digitsAt b j k = some (v, j')) (n : Nat) (hn : n < k) :
    DigitAt b (j + n) := by
  obtain ⟨ds, rfl, hdig, hbytes, -, -⟩ := digitsAt_go_inv h
  exact ⟨_, hbytes n hn, (digitByte_read _ (hdig _ (List.getElem_mem hn))).1⟩

theorem DigitAt.ne {j : Nat} (h : DigitAt b j) (c : UInt8) (hc : c.toNat < 48) : b[j]? ≠ some c := by
  obtain ⟨d, hd, hdig⟩ := h
  intro hc'
  obtain rfl : d = c := Option.some.inj (hd.symm.trans hc')
  simp only [Bool.and_eq_true, decide_eq_true_eq, UInt8.le_iff_toNat_le, UInt8.reduceToNat] at hdig
  omega

theorem signWidth_of_digitAt (h : DigitAt b 0) : signWidth b = 0 := by
  simp [signWidth, h.ne 43 (by decide), h.ne 45 (by decide)]

/-- Read from the start, a year has a digit for the third byte of the text and ends four bytes
after its sign. -/
theorem readPieces_year_zero_inv (h : readPieces b (.year :: ps) 0 f = some r) :
    DigitAt b 2 ∧ ∃ f', readPieces b ps (signWidth b + 4) f' = some r := by
  obtain ⟨sg, y, hsg, hsign, hd, hrest⟩ := readPieces_year_inv h
  have hlen : sg.length ≤ 1 := by
    rcases hsg with rfl | rfl | rfl <;> simp
  have hwidth : sg.length = signWidth b := by
    rcases hsg with rfl | rfl | rfl
    · -- no sign: the year's first digit comes first
      exact (signWidth_of_digitAt (digitsAt_digitAt hd 0 (by omega))).symm
    · have h0 : b[0]? = some 43 := bytesAt_singleton.mp hsign
      simp [signWidth, h0]
    · have h0 : b[0]? = some 45 := bytesAt_singleton.mp hsign
      simp [signWidth, h0]
  have h2 := digitsAt_digitAt hd (2 - sg.length) (by omega)
  rw [show 0 + sg.length + (2 - sg.length) = 2 by omega] at h2
  rw [show 0 + sg.length + 4 = signWidth b + 4 by omega] at hrest
  exact ⟨h2, _, hrest⟩

/-- A date and a clock up to its minutes, read from the start: the third byte is a digit, the
first separator stands right after the year, and what follows starts sixteen bytes after the
sign. -/
theorem readPieces_clock_inv {c₁ c₂ c₃ : Char}
    (h : readPieces b (.year :: .sep c₁ :: .month :: .sep c₂ :: .day :: .sep c₃ :: .hour ::
      .sep ':' :: .minute :: ps) 0 f = some r) :
    DigitAt b 2 ∧ b[signWidth b + 4]? = some c₁.toNat.toUInt8 ∧
      ∃ f', readPieces b ps (signWidth b + 16) f' = some r := by
  obtain ⟨hdigit, _, h⟩ := readPieces_year_zero_inv h
  obtain ⟨hsep, h⟩ := readPieces_sep_inv h
  obtain ⟨_, -, -, h⟩ := readPieces_month_inv h
  obtain ⟨-, h⟩ := readPieces_sep_inv h
  obtain ⟨_, -, -, h⟩ := readPieces_day_inv h
  obtain ⟨-, h⟩ := readPieces_sep_inv h
  obtain ⟨_, -, -, h⟩ := readPieces_hour_inv h
  obtain ⟨-, h⟩ := readPieces_sep_inv h
  obtain ⟨_, -, -, h⟩ := readPieces_minute_inv h
  exact ⟨hdigit, hsep, _, h⟩

/-! The three ways an offset-free layout can end after the minutes, each too short for a text
with an offset. -/

theorem OffsetShape.seconds_ne (hs : OffsetShape b) :
    readPieces b [.sep ':', .second] (signWidth b + 16) f ≠ some (f', b.size) := by
  intro h
  obtain ⟨_, h⟩ := readPieces_seconds_inv h
  have hend := readPieces_nil_inv h
  simp only [Prod.mk.injEq] at hend
  have := hs.long
  omega

theorem OffsetShape.fraction_ne (hs : OffsetShape b) :
    readPieces b [.sep ':', .second, .sep '.', .fraction] (signWidth b + 16) f ≠ some (f', b.size) := by
  intro h
  obtain ⟨_, h⟩ := readPieces_seconds_inv h
  obtain ⟨hdot, h⟩ := readPieces_sep_inv h
  obtain ⟨n, j, hfa, h⟩ := readPieces_fraction_inv h
  have hend := readPieces_nil_inv h
  simp only [Prod.mk.injEq] at hend
  have := hs.fraction_ends hdot n j hfa
  omega

theorem OffsetShape.minutes_ne (hs : OffsetShape b) :
    readPieces b [] (signWidth b + 16) f ≠ some (f', b.size) := by
  intro h
  have hend := readPieces_nil_inv h
  simp only [Prod.mk.injEq] at hend
  have := hs.long
  omega

theorem OffsetShape.readPieces_naive_ne (hs : OffsetShape b) {p : Pattern} (hp : p ∈ naivePatterns) :
    readPieces b p 0 {} ≠ some (f, b.size) := by
  intro h
  simp only [naivePatterns, wirePattern, List.mem_cons, List.not_mem_nil, or_false] at hp
  rcases hp with rfl | rfl | rfl | rfl | rfl | rfl | rfl
  · obtain ⟨-, -, _, h⟩ := readPieces_clock_inv h
    exact hs.seconds_ne h
  · obtain ⟨-, -, _, h⟩ := readPieces_clock_inv h
    exact hs.fraction_ne h
  · obtain ⟨-, -, _, h⟩ := readPieces_clock_inv h
    exact hs.seconds_ne h
  · obtain ⟨-, -, _, h⟩ := readPieces_clock_inv h
    exact hs.fraction_ne h
  · -- a `/` where the text has its `-`
    obtain ⟨-, hslash, -⟩ := readPieces_clock_inv h
    rw [hs.dash] at hslash
    exact absurd hslash (by decide)
  · -- the month first: a `/` where the text has a digit
    obtain ⟨_, -, -, h⟩ := readPieces_month_inv h
    obtain ⟨hslash, -⟩ := readPieces_sep_inv h
    exact hs.digit_two.ne 47 (by decide) hslash
  · obtain ⟨-, -, _, h⟩ := readPieces_clock_inv h
    exact hs.minutes_ne h

theorem readLocal_none_of_offsetShape {t : String} (hs : OffsetShape t.toUTF8) {p : Pattern}
    (hp : p ∈ naivePatterns) : p.readLocal t = none := by
  cases hr : p.readLocal t with
  | none => rfl
  | some r =>
    obtain ⟨f, hread, -⟩ := readLocal_eq_some hr
    exact absurd hread (hs.readPieces_naive_ne hp)

/-- The shape of a text RFC 3339 reads, from what its reader checks: digits from the start, a `-`
after four of them, and an offset starting where the seconds or their fraction end. -/
theorem OffsetShape.of_offsetAt {i : Nat} (h0 : DigitAt b 0) (h2 : DigitAt b 2) (h4 : b[4]? = some 45)
    (hlong : 19 < b.size) (hoff : i < b.size)
    (hfrac : b[19]? = some 46 → ∃ n, fractionAt b 20 = some (n, i)) : OffsetShape b := by
  have hwidth := signWidth_of_digitAt h0
  refine ⟨h2, by rw [hwidth]; exact h4, by rw [hwidth]; exact hlong, fun hdot n j hfa => ?_⟩
  simp only [hwidth, Nat.zero_add] at hdot hfa
  obtain ⟨_, hfa'⟩ := hfrac hdot
  rw [hfa', Option.some.injEq, Prod.mk.injEq] at hfa
  omega

end Shape

/-! ### Texts read with an offset have that shape -/

section Offsets

variable {b : ByteArray} {t : String}

theorem need_eq_ok {α : Type} {o : Option α} {e : ReadFault} {a : α} : need o e = .ok a ↔ o = some a := by
  cases o <;> simp [need]

theorem need_digitsAt_end {j k v j' : Nat} {e : ReadFault} (h : need (digitsAt b j k) e = .ok (v, j')) :
    j' = j + k :=
  (digitBytes_of_digitsAt (need_eq_ok.mp h)).2.2

theorem need_byteAt {j j' : Nat} {c : UInt8} {e : ReadFault} (h : need (byteAt b j c) e = .ok j') :
    b[j]? = some c ∧ j' = j + 1 :=
  byteAt_eq_some.mp (need_eq_ok.mp h)

theorem ite_bind_eq_ok {ε α β : Type} {c : Prop} [Decidable c] {a : α} {e : ε} {k : α → Except ε β}
    {v : β} (h : (if c then pure a >>= k else Except.error e >>= k) = .ok v) : c ∧ k a = .ok v := by
  by_cases hc : c
  · rw [if_pos hc] at h
    exact ⟨hc, h⟩
  · rw [if_neg hc] at h
    cases h

theorem offsetShape_of_parseRfc3339 {s : Stamp} (h : parseRfc3339 t = .ok s) : OffsetShape t.toUTF8 := by
  unfold parseRfc3339 at h
  generalize t.toUTF8 = b at h ⊢
  obtain ⟨⟨year, i₁⟩, hyear, h⟩ := Json.bind_eq_ok h
  obtain ⟨i₂, hdash, h⟩ := Json.bind_eq_ok h
  obtain ⟨⟨month, i₃⟩, hmonth, h⟩ := Json.bind_eq_ok h
  obtain ⟨i₄, hdash', h⟩ := Json.bind_eq_ok h
  obtain ⟨⟨day, i₅⟩, hday, h⟩ := Json.bind_eq_ok h
  obtain ⟨-, h⟩ := ite_bind_eq_ok h
  obtain ⟨⟨hour, i₆⟩, hhour, h⟩ := Json.bind_eq_ok h
  obtain ⟨i₇, hcolon, h⟩ := Json.bind_eq_ok h
  obtain ⟨⟨minute, i₈⟩, hminute, h⟩ := Json.bind_eq_ok h
  obtain ⟨i₉, hcolon', h⟩ := Json.bind_eq_ok h
  obtain ⟨⟨second, i₁₀⟩, hsecond, h⟩ := Json.bind_eq_ok h
  have h0 := digitsAt_digitAt (need_eq_ok.mp hyear) 0 (by omega)
  have h2 := digitsAt_digitAt (need_eq_ok.mp hyear) 2 (by omega)
  have e₁ := need_digitsAt_end hyear
  obtain ⟨h4, e₂⟩ := need_byteAt hdash
  have e₃ := (digitBytes_of_digitsAt (Option.filter_eq_some_iff.mp (need_eq_ok.mp hmonth)).1).2.2
  obtain ⟨-, e₄⟩ := need_byteAt hdash'
  have e₅ := (digitBytes_of_digitsAt (Option.filter_eq_some_iff.mp (need_eq_ok.mp hday)).1).2.2
  have e₆ := need_digitsAt_end hhour
  obtain ⟨-, e₇⟩ := need_byteAt hcolon
  have e₈ := need_digitsAt_end hminute
  obtain ⟨-, e₉⟩ := need_byteAt hcolon'
  have e₁₀ := need_digitsAt_end hsecond
  obtain rfl : i₁ = 4 := by omega
  obtain rfl : i₁₀ = 19 := by omega
  dsimp -zeta only at h
  generalize hdot : byteAt b 19 46 = dot at h
  cases dot with
  | none =>
    obtain ⟨_, hfrac, h⟩ := Json.bind_eq_ok h
    cases hfrac
    dsimp -zeta only at h
    generalize hoff : b[19]? = o at h
    cases o with
    | none =>
      obtain ⟨_, he, -⟩ := Json.bind_eq_ok h
      cases he
    | some c =>
      have hlong := (getElem?_eq_some_iff.mp hoff).1
      refine OffsetShape.of_offsetAt h0 h2 h4 hlong hlong fun h46 => ?_
      rw [byteAt_eq_some.mpr ⟨h46, rfl⟩] at hdot
      cases hdot
  | some j =>
    obtain ⟨h46, rfl⟩ := byteAt_eq_some.mp hdot
    obtain ⟨⟨n, i₁₁⟩, hfrac, h⟩ := Json.bind_eq_ok h
    have hfa := need_eq_ok.mp hfrac
    dsimp -zeta only at h
    generalize hoff : b[i₁₁]? = o at h
    cases o with
    | none =>
      obtain ⟨_, he, -⟩ := Json.bind_eq_ok h
      cases he
    | some c =>
      exact OffsetShape.of_offsetAt h0 h2 h4 (getElem?_eq_some_iff.mp h46).1 (getElem?_eq_some_iff.mp hoff).1
        fun _ => ⟨n, hfa⟩

theorem readStamp_eq_some {p : Pattern} {x : Stamp} (h : p.readStamp t = some x) :
    ∃ f, readPieces t.toUTF8 p 0 {} = some (f, t.toUTF8.size) := by
  unfold Pattern.readStamp at h
  dsimp only at h
  cases hp : readPieces t.toUTF8 p 0 {} with
  | none =>
    rw [hp] at h
    simp at h
  | some q =>
    obtain ⟨f, i⟩ := q
    rw [hp] at h
    by_cases hi : i = t.toUTF8.size
    · exact ⟨f, by rw [hi]⟩
    · rw [String.toUTF8_eq_toByteArray, String.size_toByteArray] at hi
      simp [hi] at h

theorem offsetShape_of_readStamp {p : Pattern} (hp : p ∈ awarePatterns) {x : Stamp}
    (h : p.readStamp t = some x) : OffsetShape t.toUTF8 := by
  obtain ⟨f, h⟩ := readStamp_eq_some h
  simp only [awarePatterns, List.mem_cons, List.not_mem_nil, or_false] at hp
  subst hp
  obtain ⟨hdigit, hdash, _, h⟩ := readPieces_clock_inv h
  obtain ⟨_, h⟩ := readPieces_seconds_inv h
  obtain ⟨neg, _, hsign, -, -, h⟩ := readPieces_offsetHour_inv h
  obtain ⟨-, h⟩ := readPieces_sep_inv h
  obtain ⟨_, -, -, h⟩ := readPieces_offsetMinute_inv h
  have hend := readPieces_nil_inv h
  simp only [Prod.mk.injEq] at hend
  refine ⟨hdigit, hdash, by omega, fun hdot => ?_⟩
  -- a sign stands where a fraction's dot would
  have hsign46 := hsign.symm.trans hdot
  cases neg <;> simp at hsign46

theorem awareStamp_eq_some {x : Stamp} (h : awareStamp t = some x) :
    parseRfc3339 t = .ok x ∨ ∃ p ∈ awarePatterns, p.readStamp t = some x := by
  unfold awareStamp at h
  cases hp : parseRfc3339 t with
  | ok s =>
    simp only [hp, Except.toOption, Option.orElse_eq_orElse, Option.orElse_eq_or, Option.some_or,
      Option.some.injEq] at h
    exact .inl (h ▸ rfl)
  | error e =>
    simp only [hp, Except.toOption, Option.orElse_eq_orElse, Option.orElse_eq_or, Option.none_or] at h
    exact .inr (List.exists_of_findSome?_eq_some h)

end Offsets

/-! ### The clock an offset-free layout reads -/

/-- The clock read so far is in range: hours up to 23, minutes and seconds up to 59 and less than
a second of fraction, a part not read counting as zero. -/
structure Found.ClockInRange (f : Found) : Prop where
  hour : f.hour.getD 0 ≤ 23
  minute : f.minute.getD 0 ≤ 59
  second : f.second.getD 0 ≤ 59
  nanos : f.nanos.getD 0 < 1000000000

theorem Found.clockInRange_empty : ({} : Found).ClockInRange :=
  ⟨Nat.zero_le _, Nat.zero_le _, Nat.zero_le _, by decide⟩

theorem Found.ClockInRange.of_clock {f g : Found} (hf : f.ClockInRange)
    (h : (g.hour, g.minute, g.second, g.nanos) = (f.hour, f.minute, f.second, f.nanos)) :
    g.ClockInRange := by
  simp only [Prod.mk.injEq] at h
  obtain ⟨h₁, h₂, h₃, h₄⟩ := h
  exact ⟨h₁ ▸ hf.hour, h₂ ▸ hf.minute, h₃ ▸ hf.second, h₄ ▸ hf.nanos⟩

section Clock

variable {b : ByteArray}

/-- Each further digit of a fraction adds at most nine of a place ten times smaller than the one
before, so what is read stays below a second. -/
theorem fractionAt_go_lt (fuel : Nat) {j value mult : Nat} (hv : value < 1000000000)
    (hm : value + 10 * mult ≤ 1000000000) : (fractionAt.go b j value mult fuel).1 < 1000000000 := by
  induction fuel generalizing j value mult with
  | zero => exact hv
  | succ fuel ih =>
    cases hd : digitsAt b j 1 with
    | none =>
      rw [fractionAt_go_stop hd]
      exact hv
    | some p =>
      obtain ⟨d, k⟩ := p
      have hd10 : d < 10 := by simpa using (digitBytes_of_digitsAt hd).2.1
      have hdm : d * mult ≤ 9 * mult := Nat.mul_le_mul_right _ (by omega)
      have hstep : fractionAt.go b j value mult (fuel + 1) =
          fractionAt.go b k (value + d * mult) (mult / 10) fuel := by
        simp only [fractionAt.go, hd]
      rw [hstep]
      exact ih (by omega) (by omega)

theorem fractionAt_lt {i n j : Nat} (h : fractionAt b i = some (n, j)) : n < 1000000000 := by
  unfold fractionAt at h
  cases hd : digitsAt b i 1 with
  | none => simp [hd] at h
  | some p =>
    obtain ⟨d, k⟩ := p
    have hd10 : d < 10 := by simpa using (digitBytes_of_digitsAt hd).2.1
    simp only [hd, Option.some.injEq] at h
    have hlt : (fractionAt.go b k (d * 100000000) 10000000 (b.size - k)).1 < 1000000000 :=
      fractionAt_go_lt _ (by omega) (by omega)
    rwa [h] at hlt

theorem readPieces_clockInRange {ps : Pattern} : ∀ {i : Nat} {f : Found} {r : Found × Nat},
    readPieces b ps i f = some r → f.ClockInRange → r.1.ClockInRange := by
  induction ps with
  | nil =>
    intro i f r h hf
    rw [readPieces_nil_inv h]
    exact hf
  | cons p ps ih =>
    intro i f r h hf
    cases p with
    | sep c => exact ih (readPieces_sep_inv h).2 hf
    | year =>
      obtain ⟨_, _, -, -, -, h⟩ := readPieces_year_inv h
      exact ih h (hf.of_clock rfl)
    | month =>
      obtain ⟨_, -, -, h⟩ := readPieces_month_inv h
      exact ih h (hf.of_clock rfl)
    | day =>
      obtain ⟨_, -, -, h⟩ := readPieces_day_inv h
      exact ih h (hf.of_clock rfl)
    | hour =>
      obtain ⟨_, -, hv, h⟩ := readPieces_hour_inv h
      exact ih h ⟨hv, hf.minute, hf.second, hf.nanos⟩
    | minute =>
      obtain ⟨_, -, hv, h⟩ := readPieces_minute_inv h
      exact ih h ⟨hf.hour, hv, hf.second, hf.nanos⟩
    | second =>
      obtain ⟨_, -, hv, h⟩ := readPieces_second_inv h
      exact ih h ⟨hf.hour, hf.minute, hv, hf.nanos⟩
    | fraction =>
      obtain ⟨_, _, hfa, h⟩ := readPieces_fraction_inv h
      exact ih h ⟨hf.hour, hf.minute, hf.second, fractionAt_lt hfa⟩
    | offsetHour =>
      obtain ⟨_, _, -, -, -, h⟩ := readPieces_offsetHour_inv h
      exact ih h (hf.of_clock rfl)
    | offsetMinute =>
      obtain ⟨_, -, -, h⟩ := readPieces_offsetMinute_inv h
      exact ih h (hf.of_clock rfl)

end Clock

theorem Found.reading?_valid {f : Found} {r : Reading} (hf : f.ClockInRange) (h : f.reading? = some r) :
    r.Valid := by
  simp only [Found.reading?, Option.bind_eq_bind, Option.bind_eq_some_iff] at h
  obtain ⟨y, -, m, -, d, -, hour, hh, h⟩ := h
  by_cases hdate : isValidDate y m d = true
  · rw [if_pos hdate, Option.some.injEq] at h
    subst h
    have hhour := hf.hour
    rw [hh] at hhour
    exact ⟨hdate, Nat.lt_succ_of_le hhour, Nat.lt_succ_of_le hf.minute, Nat.lt_succ_of_le hf.second, hf.nanos⟩
  · rw [if_neg hdate] at h
    cases h

theorem readLocal_valid {p : Pattern} {s : String} {r : Reading} (h : p.readLocal s = some r) : r.Valid := by
  obtain ⟨f, hread, hf⟩ := readLocal_eq_some h
  exact Found.reading?_valid (readPieces_clockInRange hread Found.clockInRange_empty) hf

theorem firstReading_valid {ps : List Pattern} {s : String} {r : Reading} (h : firstReading ps s = some r) :
    r.Valid := by
  obtain ⟨p, -, hp⟩ := List.exists_of_findSome?_eq_some h
  exact readLocal_valid hp

theorem firstReading_empty : (firstReading naivePatterns "").isNone = true := by
  decide +kernel

/-! ### Localizing -/

theorem isEmpty_of_awareStamp {t : String} {x : Stamp} (h : awareStamp t = some x) : t.isEmpty = false := by
  cases he : t.isEmpty
  · rfl
  · rw [String.isEmpty_iff.mp he, awareStamp_empty] at h
    cases h

theorem isEmpty_of_firstReading {t : String} {r : Reading} (h : firstReading naivePatterns t = some r) :
    t.isEmpty = false := by
  cases he : t.isEmpty
  · rfl
  · have hnone := firstReading_empty
    rw [← String.isEmpty_iff.mp he, h] at hnone
    cases hnone

theorem Stamp.toOffset_eq_ok {s st : Stamp} {o : Int} (h : s.toOffset o = .ok st) : st = ⟨s.utc, o⟩ := by
  cases hr : (Stamp.mk s.utc o).inRange
  · rw [Stamp.toOffset_of_not_inRange hr] at h
    cases h
  · rw [Stamp.toOffset_of_inRange hr] at h
    cases h
    rfl

theorem some_map_eq_ok {m : Except Halt Stamp} {st : Stamp} (h : some <$> m = .ok (some st)) :
    m = .ok st := by
  cases m with
  | error e => cases h
  | ok a =>
    cases h
    rfl

/-- The two kinds of layout never read the same text, and reading a device time respects both: a
text that RFC 3339 or the offset layout reads is read by no offset-free layout, and is shown as the
instant it names at whatever offset it is shown; a text that an offset-free layout reads keeps the
date, the clock and the fraction the first such layout reads, shown at the target offset, so
moving the target offset by some seconds moves the instant back by as many. -/
theorem localize_respects_layouts (input : String) :
    (∀ x, parseRfc3339 (Text.trim input) = .ok x ∨
        (∃ p ∈ awarePatterns, p.readStamp (Text.trim input) = some x) →
      ∀ p ∈ naivePatterns, p.readLocal (Text.trim input) = none) ∧
    (∀ x, awareStamp (Text.trim input) = some x →
      ∀ o st, localize input o = .ok (some st) → st.utc = x.utc ∧ st.offset = o) ∧
    (∀ r, firstReading naivePatterns (Text.trim input) = some r →
      (∀ o, ∃ st, localize input o = .ok (some st) ∧ st.reading = r ∧ st.offset = o) ∧
      ∀ o₁ o₂ st₁ st₂, localize input o₁ = .ok (some st₁) → localize input o₂ = .ok (some st₂) →
        st₁.utc - st₂.utc = (o₂ - o₁) * nanosPerSecond) := by
  -- the shape of a text with an offset keeps every offset-free layout off it
  have hnaive : ∀ x, parseRfc3339 (Text.trim input) = .ok x ∨
      (∃ p ∈ awarePatterns, p.readStamp (Text.trim input) = some x) →
      ∀ p ∈ naivePatterns, p.readLocal (Text.trim input) = none := by
    rintro x (hx | ⟨q, hq, hx⟩) p hp
    · exact readLocal_none_of_offsetShape (offsetShape_of_parseRfc3339 hx) hp
    · exact readLocal_none_of_offsetShape (offsetShape_of_readStamp hq hx) hp
  refine ⟨hnaive, ?_, ?_⟩
  · intro x hx o st hst
    have hblank := isEmpty_of_awareStamp hx
    have hn : firstReading naivePatterns (Text.trim input) = none :=
      List.findSome?_eq_none_iff.mpr (hnaive x (awareStamp_eq_some hx))
    rw [localize_of_aware hblank hn hx] at hst
    obtain rfl := Stamp.toOffset_eq_ok (some_map_eq_ok hst)
    exact ⟨rfl, rfl⟩
  · intro r hr
    have hblank := isEmpty_of_firstReading hr
    refine ⟨fun o => ⟨_, localize_of_naive hblank hr, Stamp.reading_ofReading (firstReading_valid hr) o, rfl⟩, ?_⟩
    intro o₁ o₂ st₁ st₂ h₁ h₂
    rw [localize_of_naive hblank hr] at h₁ h₂
    cases h₁
    cases h₂
    simp only [Stamp.ofReading]
    ring

end FleetTelemetry.Time
