import FleetTelemetry.Proofs.Time.Wire
import FleetTelemetry.Time.Rfc3339

/-!
# RFC 3339 text read back

The RFC 3339 text of a stamp (`Stamp.rfc3339`) is read by `parseRfc3339` as that same stamp:
the same instant at the same offset (`parseRfc3339_rfc3339`). Nothing is lost on the way: the
fraction is written with its trailing zeros dropped and read to the nanosecond, and the offset
is written in hours and minutes, which is exact because the text is only written for offsets of
whole minutes.

As for the wire text, the proof works on bytes. `rfc3339Chars` lays out the date and the time
of day; `fractionChars` and `offsetChars` are the two variable-length pieces that follow. What the
parser makes of such bytes is said once, for any layout (`parseRfc3339_of_clockAt`): a date and a
time of day in range (`ClockAt`), then a fraction (`FractionRead`) and an offset that ends the text
(`OffsetRead`). The ISO text of an observation is read through the same lemma.
-/

namespace FleetTelemetry.Time

/-! ### The fraction of a second -/

/-- The places of a fraction of a second as RFC 3339 text writes them: nine digits, the trailing
zeros dropped. -/
def fractionPlaces (nanos : Nat) : List Nat := (decimalDigits 9 nanos).rdropWhile (· == 0)

theorem digitChar_eq_zero_iff : ∀ d : Nat, d < 10 → (Nat.digitChar d = '0' ↔ d = 0)
  | 0, _ | 1, _ | 2, _ | 3, _ | 4, _ | 5, _ | 6, _ | 7, _ | 8, _ | 9, _ => by decide
  | _ + 10, h => absurd h (by omega)

theorem dropWhile_digitChars (ds : List Nat) (h : ∀ d ∈ ds, d < 10) :
    (ds.map Nat.digitChar).dropWhile (· = '0') = (ds.dropWhile (· == 0)).map Nat.digitChar := by
  induction ds with
  | nil => rfl
  | cons d ds ih =>
    have hd := digitChar_eq_zero_iff d (h d List.mem_cons_self)
    by_cases h0 : d = 0
    · simp [h0, ih fun e he => h e (List.mem_cons_of_mem _ he)]
    · simp [h0, hd]

theorem fractionDigits_toList {n : Nat} (h : n < 10 ^ 9) :
    (fractionDigits n).toList = (fractionPlaces n).map Nat.digitChar := by
  have hdig : ∀ d ∈ (decimalDigits 9 n).reverse, d < 10 := fun d hd =>
    decimalDigits_lt 9 n d (List.mem_reverse.mp hd)
  rw [fractionDigits, String.toList_ofList, padNat_toList (by decide) h, ← List.map_reverse,
    dropWhile_digitChars _ hdig, ← List.map_reverse]
  rfl

theorem decimalValue_zeros (acc : Nat) (zs : List Nat) (h : ∀ z ∈ zs, z = 0) :
    decimalValue acc zs = acc * 10 ^ zs.length := by
  induction zs generalizing acc with
  | nil => simp [decimalValue]
  | cons z zs ih =>
    rw [h z List.mem_cons_self]
    simp only [decimalValue, List.foldl_cons] at ih ⊢
    rw [ih (acc * 10 + 0) fun e he => h e (List.mem_cons_of_mem _ he)]
    simp [pow_succ', Nat.mul_assoc]

theorem fractionPlaces_value {n : Nat} (h : n < 10 ^ 9) :
    decimalValue 0 (fractionPlaces n) * 10 ^ (9 - (fractionPlaces n).length) = n := by
  have hsplit := List.rdropWhile_append_rtakeWhile (p := (· == 0)) (l := decimalDigits 9 n)
  have hzeros : ∀ z ∈ (decimalDigits 9 n).rtakeWhile (· == 0), z = 0 := fun z hz => by
    simpa using List.mem_rtakeWhile_imp hz
  have hlen : (fractionPlaces n).length + ((decimalDigits 9 n).rtakeWhile (· == 0)).length = 9 := by
    rw [← List.length_append, fractionPlaces, hsplit, decimalDigits_length]
  calc decimalValue 0 (fractionPlaces n) * 10 ^ (9 - (fractionPlaces n).length)
      = decimalValue (decimalValue 0 (fractionPlaces n)) ((decimalDigits 9 n).rtakeWhile (· == 0)) := by
        rw [decimalValue_zeros _ _ hzeros, show 9 - (fractionPlaces n).length =
          ((decimalDigits 9 n).rtakeWhile (· == 0)).length by omega]
    _ = decimalValue 0 (decimalDigits 9 n) := by rw [← decimalValue_append, fractionPlaces, hsplit]
    _ = n := by rw [decimalValue_decimalDigits h]; simp

theorem fractionPlaces_length_le (n : Nat) : (fractionPlaces n).length ≤ 9 := by
  have := (List.rdropWhile_prefix (p := (· == 0)) (l := decimalDigits 9 n)).length_le
  simpa [fractionPlaces] using this

theorem fractionPlaces_ne_nil {n : Nat} (h : n < 10 ^ 9) (hn : n ≠ 0) : fractionPlaces n ≠ [] := by
  intro hnil
  have hv := fractionPlaces_value h
  rw [hnil] at hv
  simp [decimalValue] at hv
  omega

theorem fractionPlaces_lt (n : Nat) : ∀ d ∈ fractionPlaces n, d < 10 := fun d hd =>
  decimalDigits_lt 9 n d ((List.rdropWhile_prefix (p := (· == 0)) (l := decimalDigits 9 n)).subset hd)


/-! ### Reading a run of fraction digits -/

theorem bytesAt_cons {b : ByteArray} {j : Nat} {c : UInt8} {l : List UInt8} :
    BytesAt b j (c :: l) ↔ b[j]? = some c ∧ BytesAt b (j + 1) l := by
  rw [show c :: l = [c] ++ l from rfl, bytesAt_append, bytesAt_singleton]
  rfl

theorem digitsAt_one {b : ByteArray} {j d : Nat} (hd : d < 10)
    (h : b[j]? = some (Nat.digitChar d).toUInt8) : digitsAt b j 1 = some (d, j + 1) := by
  have hread := @digitsAt_of_bytesAt b j [d] (by simpa using hd) (by simpa [bytesAt_singleton] using h)
  simpa [decimalValue] using hread

theorem digitsAt_eq_none {b : ByteArray} {j : Nat} {c : UInt8} (h : b[j]? = some c)
    (hc : (48 ≤ c && c ≤ 57) = false) : digitsAt b j 1 = none := by
  simp [digitsAt, digitsAt.go, h, hc]

theorem fractionAt_go_stop {b : ByteArray} {j v m : Nat} (h : digitsAt b j 1 = none) :
    ∀ fuel, fractionAt.go b j v m fuel = (v, j)
  | 0 => rfl
  | _ + 1 => by simp [fractionAt.go, h]

/-- Each digit read is worth a tenth of the one before; the run stops at the first byte that is
not a digit. -/
theorem fractionAt_go_digits {b : ByteArray} (ds : List Nat) (hds : ∀ d ∈ ds, d < 10) :
    ∀ {e acc j fuel : Nat}, ds.length ≤ e + 1 → ds.length ≤ fuel →
      BytesAt b j ((ds.map Nat.digitChar).map Char.toUInt8) → digitsAt b (j + ds.length) 1 = none →
      fractionAt.go b j (acc * 10 ^ (e + 1)) (10 ^ e) fuel =
        (decimalValue acc ds * 10 ^ (e + 1 - ds.length), j + ds.length) := by
  induction ds with
  | nil =>
    intro e acc j fuel _ _ _ hend
    simpa [decimalValue] using fractionAt_go_stop hend fuel
  | cons d ds ih =>
    intro e acc j fuel hlen hfuel hb hend
    obtain ⟨f, rfl⟩ : ∃ f, fuel = f + 1 := ⟨fuel - 1, by simp at hfuel; omega⟩
    have hd : d < 10 := hds d List.mem_cons_self
    rw [List.map_cons, List.map_cons, bytesAt_cons] at hb
    obtain ⟨hfirst, hrest⟩ := hb
    have hstep : fractionAt.go b j (acc * 10 ^ (e + 1)) (10 ^ e) (f + 1) =
        fractionAt.go b (j + 1) (acc * 10 ^ (e + 1) + d * 10 ^ e) (10 ^ e / 10) f := by
      simp [fractionAt.go, digitsAt_one hd hfirst]
    rw [hstep]
    simp only [List.length_cons] at hend hlen
    cases ds with
    | nil =>
      rw [fractionAt_go_stop (by simpa using hend)]
      simp [decimalValue, pow_succ]
      ring
    | cons d' ds' =>
      -- a further digit needs a place below the last one
      obtain ⟨e', rfl⟩ : ∃ e', e = e' + 1 := ⟨e - 1, by simp at hlen; omega⟩
      have hval : acc * 10 ^ (e' + 1 + 1) + d * 10 ^ (e' + 1) = (acc * 10 + d) * 10 ^ (e' + 1) := by
        ring
      have hmult : 10 ^ (e' + 1) / 10 = 10 ^ e' := by
        rw [pow_succ, Nat.mul_div_cancel _ (by decide)]
      rw [hval, hmult, ih (fun x hx => hds x (List.mem_cons_of_mem _ hx)) (by simp at hlen ⊢; omega)
        (by simp at hfuel ⊢; omega) hrest (by simpa [Nat.add_assoc, Nat.add_comm 1] using hend)]
      simp only [decimalValue, List.foldl_cons, List.length_cons]
      congr 1
      · congr 2
        omega
      · omega

theorem fractionAt_digits {b : ByteArray} {j : Nat} {ds : List Nat} (hds : ∀ d ∈ ds, d < 10)
    (hne : ds ≠ []) (hlen : ds.length ≤ 9) (hb : BytesAt b j ((ds.map Nat.digitChar).map Char.toUInt8))
    (hend : digitsAt b (j + ds.length) 1 = none) (hsize : j + ds.length ≤ b.size) :
    fractionAt b j = some (decimalValue 0 ds * 10 ^ (9 - ds.length), j + ds.length) := by
  obtain ⟨d, ds, rfl⟩ := List.exists_cons_of_ne_nil hne
  have hd : d < 10 := hds d List.mem_cons_self
  rw [List.map_cons, List.map_cons, bytesAt_cons] at hb
  obtain ⟨hfirst, hrest⟩ := hb
  simp only [List.length_cons] at hend hlen hsize
  have hgo := @fractionAt_go_digits b ds (fun x hx => hds x (List.mem_cons_of_mem _ hx)) 7 d
    (j + 1) (b.size - (j + 1)) (by omega) (by omega) hrest
    (by simpa [Nat.add_assoc, Nat.add_comm 1] using hend)
  simp only [fractionAt, digitsAt_one hd hfirst]
  rw [show d * 100000000 = d * 10 ^ (7 + 1) by norm_num, show (10000000 : Nat) = 10 ^ 7 by norm_num, hgo]
  simp [decimalValue, Nat.add_assoc, Nat.add_comm 1]


/-! ### What the parser reads -/

/-- The date and the time of day read from the start of `b`, every separator in place and every
component in its range: what RFC 3339 text holds before the fraction of a second. -/
structure ClockAt (b : ByteArray) (y mo d h mi s : Nat) : Prop where
  year : digitsAt b 0 4 = some (y, 4)
  month : digitsAt b 5 2 = some (mo, 7)
  day : digitsAt b 8 2 = some (d, 10)
  hour : digitsAt b 11 2 = some (h, 13)
  minute : digitsAt b 14 2 = some (mi, 16)
  second : digitsAt b 17 2 = some (s, 19)
  dashes : byteAt b 4 45 = some 5 ∧ byteAt b 7 45 = some 8
  colons : byteAt b 13 58 = some 14 ∧ byteAt b 16 58 = some 17
  size_ge : 19 ≤ b.size
  month_range : 1 ≤ mo ∧ mo ≤ 12
  day_range : 1 ≤ d ∧ d ≤ daysInMonth y mo
  clock_range : h ≤ 23 ∧ mi ≤ 59 ∧ s ≤ 59

/-- What the parser reads from index `j` as the fraction of a second: nothing when no dot stands
there, else a dot and a run of digits worth `nanos`; the text goes on at `p`. -/
def FractionRead (b : ByteArray) (j nanos p : Nat) : Prop :=
  (byteAt b j 46 = none ∧ nanos = 0 ∧ p = j) ∨
    (byteAt b j 46 = some (j + 1) ∧ fractionAt b (j + 1) = some (nanos, p))

/-- What the parser reads from index `p` as the offset `off`, up to the end of the text: `Z`, or a
sign, hours up to 23, a colon and minutes up to 59. -/
def OffsetRead (b : ByteArray) (p : Nat) (off : Int) : Prop :=
  (b[p]? = some 90 ∧ off = 0 ∧ b.size = p + 1) ∨
    ∃ (negative : Bool) (oh om : Nat), b[p]? = some (if negative then 45 else 43) ∧
      digitsAt b (p + 1) 2 = some (oh, p + 3) ∧ byteAt b (p + 3) 58 = some (p + 4) ∧
      digitsAt b (p + 4) 2 = some (om, p + 6) ∧ oh ≤ 23 ∧ om ≤ 59 ∧
      off = (if negative then -((oh : Int) * 3600 + om * 60) else (oh : Int) * 3600 + om * 60) ∧
      b.size = p + 6

theorem OffsetRead.first {b : ByteArray} {p : Nat} {off : Int} (h : OffsetRead b p off) :
    ∃ c, b[p]? = some c ∧ (48 ≤ c && c ≤ 57) = false ∧ c ≠ 46 := by
  rcases h with ⟨hZ, -, -⟩ | ⟨negative, -, -, hsign, -⟩
  · exact ⟨90, hZ, by decide, by decide⟩
  · exact ⟨_, hsign, by cases negative <;> decide, by cases negative <;> decide⟩

/-- Text that holds a date and a time of day in range, a fraction and an offset is read as the
stamp of that reading at that offset: no range check fails, and no second is a leap second. -/
theorem parseRfc3339_of_clockAt {text : String} {b : ByteArray} {y mo d h mi s nanos p : Nat}
    {off : Int} (hb : text.toUTF8 = b) (hclock : ClockAt b y mo d h mi s)
    (hfrac : FractionRead b 19 nanos p) (hoff : OffsetRead b p off) :
    parseRfc3339 text = .ok (Stamp.ofReading ⟨y, mo, d, h, mi, s, nanos⟩ off) := by
  obtain ⟨hY, hM, hD, hH, hMi, hS, hdashes, hcolons, hsize, hmo, hd, hh, hmi, hs⟩ := hclock
  have hranges : mo ≠ 0 ∧ d ≠ 0 ∧ ¬ 12 < mo ∧ ¬ daysInMonth y mo < d ∧ ¬ 23 < h ∧ ¬ 59 < mi ∧
      ¬ 59 < s ∧ s ≠ 60 := by
    omega
  unfold parseRfc3339
  rw [hb]
  rcases hoff with ⟨hZ, rfl, hend⟩ | ⟨negative, oh, om, hsign, hOH, hcolon, hOM, hoh, hom, rfl, hend⟩
  · obtain ⟨_, hZ'⟩ := getElem?_eq_some_iff.mp hZ
    rcases hfrac with ⟨hdot, rfl, rfl⟩ | ⟨hdot, hfa⟩
    · simp [need, bind, Except.bind, pure, Except.pure, Option.filter_some, hY, hM, hD, hH, hMi, hS,
        hdashes, hcolons, hranges, hend, hdot, hZ']
    · simp [need, bind, Except.bind, pure, Except.pure, Option.filter_some, hY, hM, hD, hH, hMi, hS,
        hdashes, hcolons, hranges, hend, hdot, hfa, hZ', show 10 < p + 1 by omega]
  · obtain ⟨_, hsign'⟩ := getElem?_eq_some_iff.mp hsign
    have hoffset : ¬ 23 < oh ∧ ¬ 59 < om := by omega
    rcases hfrac with ⟨hdot, rfl, rfl⟩ | ⟨hdot, hfa⟩
    · cases negative <;>
        simp [need, bind, Except.bind, pure, Except.pure, Option.filter_some, hY, hM, hD, hH, hMi, hS,
          hdashes, hcolons, hranges, hend, hdot, hsign', hOH, hcolon, hOM, hoffset]
    · cases negative <;>
        simp [need, bind, Except.bind, pure, Except.pure, Option.filter_some, hY, hM, hD, hH, hMi, hS,
          hdashes, hcolons, hranges, hend, hdot, hfa, hsign', hOH, hcolon, hOM, hoffset,
          show 10 < p + 6 by omega]

theorem parseRfc3339_of_offsetHour_gt {text : String} {b : ByteArray} {y mo d h mi s nanos p oh : Nat}
    {negative : Bool} (hb : text.toUTF8 = b) (hclock : ClockAt b y mo d h mi s)
    (hfrac : FractionRead b 19 nanos p) (hsign : b[p]? = some (if negative then 45 else 43))
    (hOH : digitsAt b (p + 1) 2 = some (oh, p + 3)) (h23 : 23 < oh) :
    parseRfc3339 text = .error (.component "offset hour") := by
  obtain ⟨hY, hM, hD, hH, hMi, hS, hdashes, hcolons, hsize, hmo, hd, hh, hmi, hs⟩ := hclock
  obtain ⟨hp, hsign'⟩ := getElem?_eq_some_iff.mp hsign
  have hranges : mo ≠ 0 ∧ d ≠ 0 := by omega
  unfold parseRfc3339
  rw [hb]
  rcases hfrac with ⟨hdot, rfl, rfl⟩ | ⟨hdot, hfa⟩
  · cases negative <;>
      simp [need, bind, Except.bind, pure, Except.pure, Option.filter_some, hY, hM, hD, hH, hMi, hS,
        hdashes, hcolons, hranges, hdot, hsign', hp, hOH, h23, show 10 < b.size by omega]
  · cases negative <;>
      simp [need, bind, Except.bind, pure, Except.pure, Option.filter_some, hY, hM, hD, hH, hMi, hS,
        hdashes, hcolons, hranges, hdot, hfa, hsign', hp, hOH, h23, show 10 < b.size by omega]


/-! ### The layout -/

/-- The characters of `YYYY-MM-DDTHH:MM:SS` followed by `rest`. -/
def rfc3339Chars (y mo d h mi s : Nat) (rest : List Char) : List Char :=
  (decimalDigits 4 y).map Nat.digitChar ++ ['-'] ++ (decimalDigits 2 mo).map Nat.digitChar ++ ['-'] ++
    (decimalDigits 2 d).map Nat.digitChar ++ ['T'] ++ (decimalDigits 2 h).map Nat.digitChar ++ [':'] ++
    (decimalDigits 2 mi).map Nat.digitChar ++ [':'] ++ (decimalDigits 2 s).map Nat.digitChar ++ rest

/-- The fraction of a second: nothing for none, else a dot and the kept places. -/
def fractionChars (nanos : Nat) : List Char :=
  if nanos = 0 then [] else '.' :: (fractionPlaces nanos).map Nat.digitChar

/-- The offset: `Z` for UTC, else its sign, hours, a colon and minutes. -/
def offsetChars (offset : Int) : List Char :=
  if offset = 0 then ['Z']
  else (if offset < 0 then '-' else '+') :: ((decimalDigits 2 (offset.natAbs / 3600)).map Nat.digitChar ++
    [':'] ++ (decimalDigits 2 (offset.natAbs % 3600 / 60)).map Nat.digitChar)

theorem bytesAt_rfc3339Chars {b : ByteArray} {j y mo d h mi s : Nat} {rest : List Char} :
    BytesAt b j ((rfc3339Chars y mo d h mi s rest).map Char.toUInt8) ↔
      BytesAt b j (digitBytes 4 y) ∧ b[j + 4]? = some 45 ∧ BytesAt b (j + 5) (digitBytes 2 mo) ∧
      b[j + 7]? = some 45 ∧ BytesAt b (j + 8) (digitBytes 2 d) ∧ b[j + 10]? = some 84 ∧
      BytesAt b (j + 11) (digitBytes 2 h) ∧ b[j + 13]? = some 58 ∧ BytesAt b (j + 14) (digitBytes 2 mi) ∧
      b[j + 16]? = some 58 ∧ BytesAt b (j + 17) (digitBytes 2 s) ∧ BytesAt b (j + 19) (rest.map Char.toUInt8) := by
  simp only [rfc3339Chars, List.map_append, bytesAt_append, bytesAt_singleton, List.length_append,
    List.length_map, decimalDigits_length, List.length_singleton, List.map_cons, List.map_nil]
  simp only [Nat.add_assoc, and_assoc]
  rfl

/-- The layout of valid components holds a date and a time of day in range, and what follows the
seconds from index 19. -/
theorem clockAt_of_bytesAt {b : ByteArray} {y mo d h mi s : Nat} {rest : List Char} (hy : y < 10000)
    (hmo : 1 ≤ mo ∧ mo ≤ 12) (hd : 1 ≤ d ∧ d ≤ daysInMonth y mo) (hh : h ≤ 23) (hmi : mi ≤ 59)
    (hs : s ≤ 59) (hbytes : BytesAt b 0 ((rfc3339Chars y mo d h mi s rest).map Char.toUInt8)) :
    ClockAt b y mo d h mi s ∧ BytesAt b 19 (rest.map Char.toUInt8) := by
  obtain ⟨hY, h4, hM, h7, hD, -, hH, h13, hMi, h16, hS, hrest⟩ := bytesAt_rfc3339Chars.mp hbytes
  have hd31 := daysInMonth_le_31 y hmo.1 hmo.2
  have hsize : 19 ≤ b.size := by
    have h18 := hS 1 (by simp [decimalDigits_length])
    exact (getElem?_eq_some_iff.mp h18).1
  refine ⟨⟨digitsAt_digitBytes (show y < 10 ^ 4 by norm_num; omega) hY,
    digitsAt_digitBytes (show mo < 10 ^ 2 by norm_num; omega) hM,
    digitsAt_digitBytes (show d < 10 ^ 2 by norm_num; omega) hD,
    digitsAt_digitBytes (show h < 10 ^ 2 by norm_num; omega) hH,
    digitsAt_digitBytes (show mi < 10 ^ 2 by norm_num; omega) hMi,
    digitsAt_digitBytes (show s < 10 ^ 2 by norm_num; omega) hS,
    ⟨byteAt_eq_some.mpr ⟨h4, rfl⟩, byteAt_eq_some.mpr ⟨h7, rfl⟩⟩,
    ⟨byteAt_eq_some.mpr ⟨h13, rfl⟩, byteAt_eq_some.mpr ⟨h16, rfl⟩⟩, hsize, hmo, hd, hh, hmi, hs⟩, hrest⟩

theorem digitChars_ascii {ds : List Nat} (hds : ∀ d ∈ ds, d < 10) :
    ∀ c ∈ ds.map Nat.digitChar, c.toNat < 128 := by
  intro c hc
  obtain ⟨e, he, rfl⟩ := List.mem_map.mp hc
  exact digitChar_toNat_lt (hds e he)

theorem rfc3339Chars_ascii_of {y mo d h mi s : Nat} {rest : List Char}
    (hrest : ∀ c ∈ rest, c.toNat < 128) : ∀ c ∈ rfc3339Chars y mo d h mi s rest, c.toNat < 128 := by
  intro c hc
  simp only [rfc3339Chars, List.mem_append, List.mem_singleton, or_assoc] at hc
  rcases hc with hc | hc | hc | hc | hc | hc | hc | hc | hc | hc | hc | hc
  all_goals first
    | (subst hc; decide)
    | exact digitChars_ascii (decimalDigits_lt _ _) c hc
    | exact hrest c hc

theorem rfc3339Chars_ascii (y mo d h mi s n : Nat) (off : Int) :
    ∀ c ∈ rfc3339Chars y mo d h mi s (fractionChars n ++ offsetChars off), c.toNat < 128 := by
  refine rfc3339Chars_ascii_of fun c hc => ?_
  rcases List.mem_append.mp hc with hc | hc
  · by_cases hn : n = 0
    · simp [fractionChars, hn] at hc
    · simp only [fractionChars, hn, if_false, List.mem_cons] at hc
      rcases hc with rfl | hc
      · decide
      · exact digitChars_ascii (fractionPlaces_lt n) c hc
  · by_cases h0 : off = 0
    · simp only [offsetChars, h0, if_true, List.mem_singleton] at hc
      subst hc
      decide
    · simp only [offsetChars, h0, if_false, List.mem_cons, List.mem_append, List.not_mem_nil,
        or_false, or_assoc] at hc
      rcases hc with hc | hc | hc | hc
      · by_cases hneg : off < 0 <;> simp only [hneg, if_true, if_false] at hc <;> subst hc <;> decide
      · exact digitChars_ascii (decimalDigits_lt _ _) c hc
      · subst hc
        decide
      · exact digitChars_ascii (decimalDigits_lt _ _) c hc

/-! ### Reading the pieces after the seconds -/

/-- What the parser meets at the fraction: no dot when there is no fraction, else a dot and the
places, read up to the byte after them. -/
theorem fractionChars_read {b : ByteArray} {j n : Nat} {c : UInt8} (hn : n < 10 ^ 9)
    (hfrac : BytesAt b j ((fractionChars n).map Char.toUInt8))
    (hnext : b[j + (fractionChars n).length]? = some c) (hdigit : (48 ≤ c && c ≤ 57) = false)
    (hdot : c ≠ 46) :
    FractionRead b j n (j + (fractionChars n).length) := by
  by_cases hn0 : n = 0
  · have hlen : (fractionChars n).length = 0 := by simp [fractionChars, hn0]
    rw [hlen, Nat.add_zero] at hnext ⊢
    exact .inl ⟨by simp [byteAt, hnext, hdot], hn0, rfl⟩
  · have hchars : fractionChars n = '.' :: (fractionPlaces n).map Nat.digitChar := by
      simp [fractionChars, hn0]
    have hpos : j + (fractionChars n).length = j + 1 + (fractionPlaces n).length := by
      rw [hchars, List.length_cons, List.length_map]
      omega
    rw [hchars, List.map_cons, List.map_map] at hfrac
    obtain ⟨hdotb, hplaces⟩ := bytesAt_cons.mp hfrac
    rw [hpos] at hnext
    have hsize : j + 1 + (fractionPlaces n).length < b.size := (getElem?_eq_some_iff.mp hnext).1
    have hread := fractionAt_digits (fractionPlaces_lt n) (fractionPlaces_ne_nil hn hn0)
      (fractionPlaces_length_le n) (by simpa using hplaces) (digitsAt_eq_none hnext hdigit) (by omega)
    rw [fractionPlaces_value hn, ← hpos] at hread
    exact .inr ⟨byteAt_eq_some.mpr ⟨hdotb, rfl⟩, hread⟩

/-- The bytes of a signed offset: the sign, two digits of hours, a colon and two digits of
minutes. -/
theorem signedOffset_read {b : ByteArray} {p : Nat} {sign : Char} {hours minutes : Nat}
    (hh : hours < 100) (hm : minutes < 100)
    (h : BytesAt b p ((sign :: ((decimalDigits 2 hours).map Nat.digitChar ++ [':'] ++
      (decimalDigits 2 minutes).map Nat.digitChar)).map Char.toUInt8)) :
    b[p]? = some sign.toUInt8 ∧ digitsAt b (p + 1) 2 = some (hours, p + 3) ∧
      byteAt b (p + 3) 58 = some (p + 4) ∧ digitsAt b (p + 4) 2 = some (minutes, p + 6) := by
  rw [List.map_cons, bytesAt_cons, List.map_append, List.map_append, bytesAt_append, bytesAt_append,
    List.map_singleton, bytesAt_singleton] at h
  obtain ⟨hsign, ⟨hOH, hcolon⟩, hOM⟩ := h
  simp only [List.length_map, decimalDigits_length] at hcolon hOM
  exact ⟨hsign, digitsAt_digitBytes (by norm_num; omega) hOH, byteAt_eq_some.mpr ⟨hcolon, rfl⟩,
    digitsAt_digitBytes (by norm_num; omega) hOM⟩

theorem offsetChars_length (off : Int) : (offsetChars off).length = if off = 0 then 1 else 6 := by
  by_cases h0 : off = 0 <;> simp [offsetChars, h0]

/-- The offset's bytes, up to the end of the text, read as the offset: `Z` for UTC, else a sign,
hours and minutes, which give it back because it is a whole number of minutes. -/
theorem offsetRead_offsetChars {b : ByteArray} {p : Nat} {off : Int} (hoff : off.natAbs / 3600 ≤ 23)
    (hsec : off.natAbs % 60 = 0) (h : BytesAt b p ((offsetChars off).map Char.toUInt8))
    (hsize : b.size = p + (offsetChars off).length) : OffsetRead b p off := by
  rw [offsetChars_length] at hsize
  by_cases h0 : off = 0
  · subst h0
    simp only [offsetChars, if_true, List.map_singleton, bytesAt_singleton] at h hsize
    exact .inl ⟨h, rfl, hsize⟩
  · simp only [offsetChars, h0, if_false] at h
    obtain ⟨hsign, hOH, hcolon, hOM⟩ := signedOffset_read (by omega) (by omega) h
    rw [if_neg h0] at hsize
    refine .inr ⟨decide (off < 0), off.natAbs / 3600, off.natAbs % 3600 / 60, ?_, hOH, hcolon, hOM,
      hoff, by omega, ?_, hsize⟩
    · -- the sign byte: `-` is 45 and `+` is 43
      by_cases hneg : off < 0
      · simp only [hneg, decide_true, if_true] at hsign ⊢
        exact hsign
      · simp only [hneg, decide_false, Bool.false_eq_true, if_false] at hsign ⊢
        exact hsign
    · by_cases hneg : off < 0
      · simp only [hneg, decide_true, if_true]
        omega
      · simp only [hneg, decide_false, Bool.false_eq_true, if_false]
        omega

theorem parseRfc3339_rfc3339Chars {y mo d h mi s n : Nat} {off : Int} (hy : y < 10000)
    (hmo : 1 ≤ mo ∧ mo ≤ 12) (hd : 1 ≤ d ∧ d ≤ daysInMonth y mo) (hh : h ≤ 23) (hmi : mi ≤ 59)
    (hs : s ≤ 59) (hn : n < 10 ^ 9) (hoff : off.natAbs / 3600 ≤ 23) (hsec : off.natAbs % 60 = 0) :
    parseRfc3339 (String.ofList (rfc3339Chars y mo d h mi s (fractionChars n ++ offsetChars off))) =
      .ok (Stamp.ofReading ⟨y, mo, d, h, mi, s, n⟩ off) := by
  have hb := toUTF8_ofList_ascii (rfc3339Chars_ascii y mo d h mi s n off)
  have hbytes := bytesAt_toByteArray
    ((rfc3339Chars y mo d h mi s (fractionChars n ++ offsetChars off)).map Char.toUInt8)
  have hsize : ((rfc3339Chars y mo d h mi s (fractionChars n ++ offsetChars off)).map
      Char.toUInt8).toByteArray.size = 19 + (fractionChars n).length + (offsetChars off).length := by
    simp [rfc3339Chars]
    omega
  generalize ((rfc3339Chars y mo d h mi s (fractionChars n ++ offsetChars off)).map
    Char.toUInt8).toByteArray = b at hb hbytes hsize
  obtain ⟨hclock, hrest⟩ := clockAt_of_bytesAt hy hmo hd hh hmi hs hbytes
  rw [List.map_append, bytesAt_append, List.length_map] at hrest
  obtain ⟨hfrac, hoffb⟩ := hrest
  generalize hp : 19 + (fractionChars n).length = p at hoffb hsize
  have hoffr := offsetRead_offsetChars hoff hsec hoffb hsize
  obtain ⟨c, hc, hdigit, hdot⟩ := hoffr.first
  exact parseRfc3339_of_clockAt hb hclock (hp ▸ fractionChars_read hn hfrac (hp ▸ hc) hdigit hdot) hoffr


/-! ### The text of a stamp -/

theorem fractionText_toList {n : Nat} (h : n < 10 ^ 9) :
    (if n = 0 then "" else "." ++ fractionDigits n).toList = fractionChars n := by
  by_cases hn : n = 0
  · simp [hn, fractionChars]
  · simp [hn, fractionChars, fractionDigits_toList h]

theorem offsetText_toList {off : Int} (h : off.natAbs / 3600 ≤ 23) :
    (if off = 0 then "Z" else offsetText off).toList = offsetChars off := by
  by_cases h0 : off = 0
  · simp [h0, offsetChars]
  · by_cases hneg : off < 0 <;>
      simp [h0, hneg, offsetChars, offsetText, padNat_two_toList (show off.natAbs / 3600 < 100 by omega),
        padNat_two_toList (show off.natAbs % 3600 / 60 < 100 by omega)]

/-- RFC 3339 text is written only for readings in the years 0 to 9999 at offsets of whole
minutes below a day, and it is the layout of the reading at the stamp's own offset. -/
theorem Stamp.rfc3339_toList {s : Stamp} {text : String} (h : s.rfc3339 = .ok text) :
    (0 ≤ s.reading.year ∧ s.reading.year ≤ 9999) ∧ s.offset.natAbs / 3600 ≤ 23 ∧
      s.offset.natAbs % 60 = 0 ∧
      text.toList = rfc3339Chars s.reading.year.toNat s.reading.month s.reading.day s.reading.hour
        s.reading.minute s.reading.second (fractionChars s.reading.nanosecond ++ offsetChars s.offset) := by
  obtain ⟨r, hr⟩ : ∃ r, s.reading = r := ⟨_, rfl⟩
  have hvalid : r.Valid := hr ▸ s.reading_valid
  obtain ⟨⟨-, hm12⟩, -, hd31, hh, hmi, hs, hn⟩ := hvalid.ranges
  unfold Stamp.rfc3339 at h
  rw [hr] at h ⊢
  by_cases hy : r.year < 0 ∨ r.year > 9999
  · simp [hy] at h
  by_cases hoh : s.offset.natAbs / 3600 > 23
  · simp [hy, hoh] at h
  by_cases hos : s.offset.natAbs % 60 ≠ 0
  · simp [hy, hoh, hos] at h
  simp only [hy, hoh, hos, if_false, Except.ok.injEq] at h
  subst h
  refine ⟨by omega, by omega, by omega, ?_⟩
  have hfour : (padNat 4 r.year.toNat).toList = (decimalDigits 4 r.year.toNat).map Nat.digitChar :=
    padNat_toList (by decide) (by norm_num; omega)
  simp only [String.toList_append, Reading.dateText, Reading.clockText, yearText,
    if_neg (show ¬ r.year < 0 by omega), hfour, padNat_two_toList (show r.month < 100 by omega),
    padNat_two_toList (show r.day < 100 by omega), padNat_two_toList (show r.hour < 100 by omega),
    padNat_two_toList (show r.minute < 100 by omega), padNat_two_toList (show r.second < 100 by omega),
    fractionText_toList (show r.nanosecond < 10 ^ 9 by norm_num; omega),
    offsetText_toList (show s.offset.natAbs / 3600 ≤ 23 by omega), rfc3339Chars]
  simp

theorem Stamp.ofReading_reading (s : Stamp) : Stamp.ofReading s.reading s.offset = s := by
  simp only [Stamp.ofReading, Stamp.reading, Reading.nanos_ofNanos, Int.add_sub_cancel]

theorem parseRfc3339_rfc3339 {s : Stamp} {text : String} (h : s.rfc3339 = .ok text) :
    parseRfc3339 text = .ok s := by
  obtain ⟨⟨hy0, hy⟩, hoh, hos, htext⟩ := Stamp.rfc3339_toList h
  obtain ⟨hmo, ⟨hd1, hdim⟩, -, hh, hmi, hs, hn⟩ := s.reading_valid.ranges
  have hyear : ((s.reading.year.toNat : Nat) : Int) = s.reading.year := Int.toNat_of_nonneg hy0
  rw [← String.ofList_toList (s := text), htext]
  rw [parseRfc3339_rfc3339Chars (by omega) hmo ⟨hd1, by rw [hyear]; exact hdim⟩ (by omega) (by omega)
    (by omega) (by norm_num; exact hn) hoh hos]
  rw [hyear]
  exact congrArg Except.ok (Stamp.ofReading_reading s)

end FleetTelemetry.Time
