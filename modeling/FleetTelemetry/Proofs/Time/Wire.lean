import Mathlib
import FleetTelemetry.Time.Loose
import FleetTelemetry.Proofs.Time.Calendar

/-!
# The vendor's time text

An instant goes to the vendor as the text `YYYY-MM-DD HH:MM:SS` of its UTC reading
(`Stamp.wire`) and comes back through `parseWire`, which reads that layout with an optional sign
before the year. Both directions are exact:

* text that `parseWire` reads as an instant is that instant's wire text, up to an explicit sign
  before the year (`wire_of_parseWire`);
* the wire text of an instant in the years 0 to 9999 is read back as the instant cut to the
  second below it, in UTC (`parseWire_wire`).

The proofs work on bytes: `wireChars` is the layout's characters for given components, and
`BytesAt b j l` says that `b` holds the bytes `l` from index `j`. Reading a layout piece by piece
(`readPieces`) is inverted one piece at a time, and the digits of a field are the fixed-width
decimal digits `decimalDigits` of its value.
-/

namespace FleetTelemetry.Time

/-- The last `w` decimal digits of `n`, the most significant first. -/
def decimalDigits : Nat → Nat → List Nat
  | 0, _ => []
  | w + 1, n => decimalDigits w (n / 10) ++ [n % 10]

/-- The value of decimal digits after `acc`, the most significant first. -/
def decimalValue (acc : Nat) (ds : List Nat) : Nat := ds.foldl (fun a d => a * 10 + d) acc

@[simp] theorem decimalDigits_length (w n : Nat) : (decimalDigits w n).length = w := by
  induction w generalizing n with
  | zero => rfl
  | succ w ih => simp [decimalDigits, ih]

theorem decimalDigits_lt (w n : Nat) : ∀ d ∈ decimalDigits w n, d < 10 := by
  induction w generalizing n with
  | zero => simp [decimalDigits]
  | succ w ih =>
    intro d hd
    rcases List.mem_append.mp hd with hd | hd
    · exact ih _ d hd
    · rw [List.mem_singleton.mp hd]
      exact Nat.mod_lt _ (by decide)

theorem decimalDigits_zero (w : Nat) : decimalDigits w 0 = List.replicate w 0 := by
  induction w with
  | zero => rfl
  | succ w ih => simp [decimalDigits, ih, List.replicate_succ']

theorem decimalValue_append (acc : Nat) (ds es : List Nat) :
    decimalValue acc (ds ++ es) = decimalValue (decimalValue acc ds) es := by
  simp [decimalValue, List.foldl_append]

theorem decimalValue_decimalDigits {w n : Nat} (h : n < 10 ^ w) (acc : Nat) :
    decimalValue acc (decimalDigits w n) = acc * 10 ^ w + n := by
  induction w generalizing n acc with
  | zero =>
    simp only [pow_zero] at h
    simp [decimalDigits, decimalValue]
    omega
  | succ w ih =>
    have hn : n / 10 < 10 ^ w := by
      rw [pow_succ] at h
      omega
    rw [decimalDigits, decimalValue_append, ih hn]
    simp only [decimalValue, List.foldl_cons, List.foldl_nil, pow_succ]
    have := Nat.div_add_mod n 10
    rw [Nat.add_mul, Nat.mul_assoc]
    omega

theorem decimalDigits_decimalValue (ds : List Nat) (h : ∀ d ∈ ds, d < 10) :
    decimalDigits ds.length (decimalValue 0 ds) = ds := by
  induction ds using List.reverseRecOn with
  | nil => rfl
  | append_singleton ds d ih =>
    have hd : d < 10 := h d (by simp)
    have hds := ih fun e he => h e (by simp [he])
    rw [List.length_append, List.length_singleton, decimalDigits, decimalValue_append]
    simp only [decimalValue, List.foldl_cons, List.foldl_nil] at hds ⊢
    rw [show ((List.foldl (fun a d => a * 10 + d) 0 ds) * 10 + d) / 10 = List.foldl (fun a d => a * 10 + d) 0 ds by omega,
      show ((List.foldl (fun a d => a * 10 + d) 0 ds) * 10 + d) % 10 = d by omega, hds]

theorem decimalValue_lt (acc : Nat) (ds : List Nat) (h : ∀ d ∈ ds, d < 10) :
    decimalValue acc ds < (acc + 1) * 10 ^ ds.length := by
  induction ds generalizing acc with
  | nil => simp [decimalValue]
  | cons d ds ih =>
    have hd := h d List.mem_cons_self
    have hlt := ih (acc * 10 + d) fun e he => h e (List.mem_cons_of_mem _ he)
    have hle : (acc * 10 + d + 1) * 10 ^ ds.length ≤ (acc + 1) * 10 ^ (ds.length + 1) := by
      rw [pow_succ', ← Nat.mul_assoc]
      exact Nat.mul_le_mul_right (10 ^ ds.length) (by omega)
    simp only [decimalValue, List.foldl_cons, List.length_cons] at hlt ⊢
    omega

theorem toDigits_padded {w n : Nat} (h : (Nat.toDigits 10 n).length ≤ w) :
    List.replicate (w - (Nat.toDigits 10 n).length) '0' ++ Nat.toDigits 10 n =
      (decimalDigits w n).map Nat.digitChar := by
  induction w generalizing n with
  | zero => exact absurd h (by have := Nat.length_toDigits_pos (b := 10) (n := n); omega)
  | succ w ih =>
    rw [decimalDigits, List.map_append, List.map_singleton]
    by_cases hn : n < 10
    · rw [Nat.toDigits_of_lt_base hn, Nat.div_eq_of_lt hn, decimalDigits_zero, Nat.mod_eq_of_lt hn]
      simp
    · rw [Nat.toDigits_eq_if (by decide), if_neg hn] at h ⊢
      rw [List.length_append, List.length_singleton] at h
      rw [← ih (by omega), List.length_append, List.length_singleton, List.append_assoc]
      congr 2
      omega

theorem padNat_toList {w n : Nat} (hw : 0 < w) (h : n < 10 ^ w) :
    (padNat w n).toList = (decimalDigits w n).map Nat.digitChar := by
  rw [← toDigits_padded ((Nat.length_toDigits_le_iff (by decide) hw).mpr h)]
  simp [padNat, Nat.repr_eq_ofList_toDigits]

theorem padNat_two_toList {n : Nat} (h : n < 100) :
    (padNat 2 n).toList = (decimalDigits 2 n).map Nat.digitChar :=
  padNat_toList (by decide) (by norm_num; omega)


/-! ### Bytes of ASCII text -/

theorem getElem?_toByteArray (l : List UInt8) (i : Nat) : l.toByteArray[i]? = l[i]? := by
  by_cases hi : i < l.length
  · rw [getElem?_pos l.toByteArray i (by simpa using hi), List.getElem?_eq_getElem hi,
      List.getElem_toByteArray]
  · rw [getElem?_neg l.toByteArray i (by simpa using hi), List.getElem?_eq_none (by omega)]

theorem toUTF8_ofList_ascii {cs : List Char} (h : ∀ c ∈ cs, c.toNat < 128) :
    (String.ofList cs).toUTF8 = (cs.map Char.toUInt8).toByteArray := by
  rw [String.toUTF8_eq_toByteArray, String.toByteArray_ofList, List.utf8Encode]
  congr 1
  induction cs with
  | nil => rfl
  | cons c cs ih =>
    have hc : c.utf8Size = 1 := Char.utf8Size_eq_one_iff.mpr (by
      have := h c List.mem_cons_self
      simp only [Char.toNat] at this
      exact UInt32.le_iff_toNat_le.mpr (by simpa using (by omega : c.val.toNat ≤ 127)))
    rw [List.flatMap_cons, String.utf8EncodeChar_eq_singleton hc,
      ih fun d hd => h d (List.mem_cons_of_mem _ hd)]
    rfl

theorem digitChar_toNat_lt {d : Nat} (h : d < 10) : (Nat.digitChar d).toNat < 128 := by
  rw [Nat.toNat_digitChar_of_lt_ten h]
  omega

theorem digitByte_read : ∀ d : Nat, d < 10 →
    (48 ≤ (Nat.digitChar d).toUInt8 && (Nat.digitChar d).toUInt8 ≤ 57) = true ∧
      ((Nat.digitChar d).toUInt8 - 48).toNat = d
  | 0, _ | 1, _ | 2, _ | 3, _ | 4, _ | 5, _ | 6, _ | 7, _ | 8, _ | 9, _ => by decide
  | _ + 10, h => absurd h (by omega)

theorem digitByte_of_read (c : UInt8) (h : (48 ≤ c && c ≤ 57) = true) :
    (c - 48).toNat < 10 ∧ (Nat.digitChar (c - 48).toNat).toUInt8 = c := by
  have hn : 48 ≤ c.toNat ∧ c.toNat ≤ 57 := by
    simp only [Bool.and_eq_true, decide_eq_true_eq, UInt8.le_iff_toNat_le] at h
    exact h
  obtain ⟨n, hn'⟩ : ∃ n, c.toNat = n := ⟨_, rfl⟩
  have hc : c = UInt8.ofNat n := by rw [← hn', UInt8.ofNat_toNat]
  subst hc
  rw [hn'] at hn
  obtain rfl | rfl | rfl | rfl | rfl | rfl | rfl | rfl | rfl | rfl :
      n = 48 ∨ n = 49 ∨ n = 50 ∨ n = 51 ∨ n = 52 ∨ n = 53 ∨ n = 54 ∨ n = 55 ∨ n = 56 ∨ n = 57 := by
    omega
  all_goals decide

theorem digitsAt_go_digits (b : ByteArray) (ds : List Nat) (hds : ∀ d ∈ ds, d < 10) (j acc : Nat)
    (hb : ∀ k (hk : k < ds.length), b[j + k]? = some (Nat.digitChar ds[k]).toUInt8) :
    digitsAt.go b j ds.length acc = some (decimalValue acc ds, j + ds.length) := by
  induction ds generalizing j acc with
  | nil => simp [digitsAt.go, decimalValue]
  | cons d ds ih =>
    have hd := digitByte_read d (hds d List.mem_cons_self)
    have hfirst : b[j]? = some (Nat.digitChar d).toUInt8 := by
      have h0 := hb 0 (by simp)
      rwa [List.getElem_cons_zero, Nat.add_zero] at h0
    have hrest := ih (fun e he => hds e (List.mem_cons_of_mem _ he)) (j + 1) (acc * 10 + d)
      fun k hk => by
        have hk' := hb (k + 1) (by simpa using hk)
        rwa [List.getElem_cons_succ, ← Nat.add_assoc, Nat.add_right_comm] at hk'
    simp only [List.length_cons, digitsAt.go, hfirst, hd.1, if_true, hd.2, hrest]
    simp [decimalValue, Nat.add_assoc, Nat.add_comm 1]

theorem digitsAt_go_inv {b : ByteArray} {k : Nat} :
    ∀ {j acc v j' : Nat}, digitsAt.go b j k acc = some (v, j') →
      ∃ ds : List Nat, ds.length = k ∧ (∀ d ∈ ds, d < 10) ∧
        (∀ n (hn : n < ds.length), b[j + n]? = some (Nat.digitChar ds[n]).toUInt8) ∧
        v = decimalValue acc ds ∧ j' = j + k := by
  induction k with
  | zero =>
    intro j acc v j' h
    simp only [digitsAt.go, Option.some.injEq, Prod.mk.injEq] at h
    obtain ⟨rfl, rfl⟩ := h
    exact ⟨[], rfl, by simp, by simp, rfl, rfl⟩
  | succ k ih =>
    intro j acc v j' h
    cases hb : b[j]? with
    | none => simp [digitsAt.go, hb] at h
    | some c =>
      by_cases hc : (48 ≤ c && c ≤ 57) = true
      · simp only [digitsAt.go, hb, hc, if_true] at h
        obtain ⟨ds, hlen, hdig, hbytes, rfl, rfl⟩ := ih h
        have hcd := digitByte_of_read c hc
        refine ⟨(c - 48).toNat :: ds, by simp [hlen], ?_, ?_, rfl, by omega⟩
        · intro d hd
          rcases List.mem_cons.mp hd with rfl | hd
          · exact hcd.1
          · exact hdig d hd
        · intro n hn
          cases n with
          | zero => simpa [hcd.2] using hb
          | succ n =>
            simpa [Nat.add_assoc, Nat.add_comm 1 n] using hbytes n (by simpa using hn)
      · simp [digitsAt.go, hb, hc] at h

theorem byteAt_eq_some {b : ByteArray} {i j : Nat} {c : UInt8} :
    byteAt b i c = some j ↔ b[i]? = some c ∧ j = i + 1 := by
  unfold byteAt
  cases hb : b[i]? with
  | none => simp
  | some d =>
    by_cases hd : d = c
    · subst hd
      simp [eq_comm]
    · simp [hd]


/-- The bytes of `b` from index `j` on are those of `l`. -/
def BytesAt (b : ByteArray) (j : Nat) (l : List UInt8) : Prop :=
  ∀ n (hn : n < l.length), b[j + n]? = some l[n]

theorem bytesAt_nil (b : ByteArray) (j : Nat) : BytesAt b j [] := fun _ hn => absurd hn (by simp)

theorem bytesAt_append {b : ByteArray} {j : Nat} {l₁ l₂ : List UInt8} :
    BytesAt b j (l₁ ++ l₂) ↔ BytesAt b j l₁ ∧ BytesAt b (j + l₁.length) l₂ := by
  constructor
  · intro h
    refine ⟨fun n hn => ?_, fun n hn => ?_⟩
    · rw [h n (by simp; omega), List.getElem_append_left hn]
    · rw [Nat.add_assoc, h (l₁.length + n) (by simp; omega),
        List.getElem_append_right (by omega)]
      simp
  · rintro ⟨h₁, h₂⟩ n hn
    by_cases hlt : n < l₁.length
    · rw [h₁ n hlt, List.getElem_append_left hlt]
    · have h := h₂ (n - l₁.length) (by simp at hn; omega)
      rw [show j + l₁.length + (n - l₁.length) = j + n by omega] at h
      rw [h, List.getElem_append_right (by omega)]

theorem bytesAt_singleton {b : ByteArray} {j : Nat} {c : UInt8} : BytesAt b j [c] ↔ b[j]? = some c := by
  constructor
  · intro h
    simpa using h 0 (by simp)
  · intro h n hn
    obtain rfl : n = 0 := by simpa using hn
    simpa using h

theorem bytesAt_toByteArray (l : List UInt8) : BytesAt l.toByteArray 0 l := by
  intro n hn
  rw [Nat.zero_add, getElem?_toByteArray, List.getElem?_eq_getElem hn]

theorem eq_toByteArray_of_bytesAt {b : ByteArray} {l : List UInt8} (h : BytesAt b 0 l)
    (hsize : b.size = l.length) : b = l.toByteArray := by
  apply ByteArray.ext
  apply Array.ext
  · simp [ByteArray.size_data, hsize]
  · intro n hn₁ hn₂
    have hn : n < l.length := by simpa [ByteArray.size_data, hsize] using hn₁
    have hb := h n hn
    rw [Nat.zero_add, getElem?_pos b n (by simpa [ByteArray.size_data] using hn₁)] at hb
    rw [← ByteArray.getElem_eq_getElem_data, Option.some.inj hb, ← List.getElem_toByteArray]
    rfl

theorem digitsAt_of_bytesAt {b : ByteArray} {j : Nat} {ds : List Nat} (hds : ∀ d ∈ ds, d < 10)
    (h : BytesAt b j ((ds.map Nat.digitChar).map Char.toUInt8)) :
    digitsAt b j ds.length = some (decimalValue 0 ds, j + ds.length) :=
  digitsAt_go_digits b ds hds j 0 fun k hk => by
    simpa using h k (by simpa using hk)

theorem bytesAt_of_digitsAt {b : ByteArray} {j k v j' : Nat} (h : digitsAt b j k = some (v, j')) :
    ∃ ds : List Nat, ds.length = k ∧ (∀ d ∈ ds, d < 10) ∧
      BytesAt b j ((ds.map Nat.digitChar).map Char.toUInt8) ∧ v = decimalValue 0 ds ∧ j' = j + k := by
  obtain ⟨ds, hlen, hdig, hbytes, hv, hj⟩ := digitsAt_go_inv h
  exact ⟨ds, hlen, hdig, fun n hn => by simpa using hbytes n (by simpa using hn), hv, hj⟩


/-! ### Reading pieces -/

section Pieces

variable {b : ByteArray} {ps : Pattern} {i : Nat} {f : Found} {r : Found × Nat}

/-! Each piece is one step of the reader, stated with `Option.bind`. The steps reduce the reader's
head instead of rewriting with its equation lemmas: those are large, and generating them from
many proofs at once makes every proof wait for the first. -/

theorem readPieces_nil_eq : readPieces b [] i f = some (f, i) := rfl

theorem readPieces_sep_cons (c : Char) : readPieces b (.sep c :: ps) i f =
    (byteAt b i c.toNat.toUInt8).bind fun j => readPieces b ps j f := by
  conv => lhs; whnf
  cases byteAt b i c.toNat.toUInt8 <;> rfl

theorem readPieces_month_cons : readPieces b (.month :: ps) i f =
    (digitsAt b i 2).bind fun p =>
      if 1 ≤ p.1 ∧ p.1 ≤ 12 then readPieces b ps p.2 { f with month := some p.1 } else none := by
  conv => lhs; whnf
  cases digitsAt b i 2 <;> rfl

theorem readPieces_day_cons : readPieces b (.day :: ps) i f =
    (digitsAt b i 2).bind fun p =>
      if 1 ≤ p.1 ∧ p.1 ≤ 31 then readPieces b ps p.2 { f with day := some p.1 } else none := by
  conv => lhs; whnf
  cases digitsAt b i 2 <;> rfl

theorem readPieces_hour_cons : readPieces b (.hour :: ps) i f =
    (digitsAt b i 2).bind fun p =>
      if p.1 ≤ 23 then readPieces b ps p.2 { f with hour := some p.1 } else none := by
  conv => lhs; whnf
  cases digitsAt b i 2 <;> rfl

theorem readPieces_minute_cons : readPieces b (.minute :: ps) i f =
    (digitsAt b i 2).bind fun p =>
      if p.1 ≤ 59 then readPieces b ps p.2 { f with minute := some p.1 } else none := by
  conv => lhs; whnf
  cases digitsAt b i 2 <;> rfl

theorem readPieces_second_cons : readPieces b (.second :: ps) i f =
    (digitsAt b i 2).bind fun p =>
      if p.1 ≤ 59 then readPieces b ps p.2 { f with second := some p.1 } else none := by
  conv => lhs; whnf
  cases digitsAt b i 2 <;> rfl

theorem readPieces_sep_inv {c : Char} (h : readPieces b (.sep c :: ps) i f = some r) :
    b[i]? = some c.toNat.toUInt8 ∧ readPieces b ps (i + 1) f = some r := by
  rw [readPieces_sep_cons] at h
  cases hc : byteAt b i c.toNat.toUInt8 with
  | none => simp [hc] at h
  | some j =>
    obtain ⟨hb, rfl⟩ := byteAt_eq_some.mp hc
    simp only [hc, Option.bind_some] at h
    exact ⟨hb, h⟩

theorem bind_digits_inv {α : Type} {j n : Nat} (P : Nat → Prop) [DecidablePred P]
    {g : Nat × Nat → Option α} {a : α}
    (h : ((digitsAt b j n).bind fun p => if P p.1 then g p else none) = some a) :
    ∃ v, digitsAt b j n = some (v, j + n) ∧ P v ∧ g (v, j + n) = some a := by
  obtain ⟨⟨v, j'⟩, hd, hg⟩ := Option.bind_eq_some_iff.mp h
  obtain ⟨-, -, -, -, -, rfl⟩ := bytesAt_of_digitsAt hd
  by_cases hv : P v
  · rw [if_pos hv] at hg
    exact ⟨v, hd, hv, hg⟩
  · rw [if_neg hv] at hg
    cases hg

theorem readPieces_month_inv (h : readPieces b (.month :: ps) i f = some r) :
    ∃ m, digitsAt b i 2 = some (m, i + 2) ∧ (1 ≤ m ∧ m ≤ 12) ∧
      readPieces b ps (i + 2) { f with month := some m } = some r := by
  rw [readPieces_month_cons] at h
  exact bind_digits_inv (fun m => 1 ≤ m ∧ m ≤ 12) h

theorem readPieces_day_inv (h : readPieces b (.day :: ps) i f = some r) :
    ∃ v, digitsAt b i 2 = some (v, i + 2) ∧ (1 ≤ v ∧ v ≤ 31) ∧
      readPieces b ps (i + 2) { f with day := some v } = some r := by
  rw [readPieces_day_cons] at h
  exact bind_digits_inv (fun v => 1 ≤ v ∧ v ≤ 31) h

theorem readPieces_hour_inv (h : readPieces b (.hour :: ps) i f = some r) :
    ∃ v, digitsAt b i 2 = some (v, i + 2) ∧ v ≤ 23 ∧
      readPieces b ps (i + 2) { f with hour := some v } = some r := by
  rw [readPieces_hour_cons] at h
  exact bind_digits_inv (· ≤ 23) h

theorem readPieces_minute_inv (h : readPieces b (.minute :: ps) i f = some r) :
    ∃ v, digitsAt b i 2 = some (v, i + 2) ∧ v ≤ 59 ∧
      readPieces b ps (i + 2) { f with minute := some v } = some r := by
  rw [readPieces_minute_cons] at h
  exact bind_digits_inv (· ≤ 59) h

theorem readPieces_second_inv (h : readPieces b (.second :: ps) i f = some r) :
    ∃ v, digitsAt b i 2 = some (v, i + 2) ∧ v ≤ 59 ∧
      readPieces b ps (i + 2) { f with second := some v } = some r := by
  rw [readPieces_second_cons] at h
  exact bind_digits_inv (· ≤ 59) h

theorem readPieces_year_inv (h : readPieces b (.year :: ps) i f = some r) :
    ∃ (sg : List Char) (y : Nat), (sg = [] ∨ sg = ['+'] ∨ sg = ['-']) ∧
      BytesAt b i (sg.map Char.toUInt8) ∧ digitsAt b (i + sg.length) 4 = some (y, i + sg.length + 4) ∧
      readPieces b ps (i + sg.length + 4)
        { f with year := some (if sg = ['-'] then -(y : Int) else y) } = some r := by
  -- the sign decides where the digits start; the digits end four bytes later
  conv at h => lhs; whnf
  cases hb : b[i]? with
  | none =>
    simp only [hb] at h
    cases hd : digitsAt b i 4 with
    | none => simp [hd] at h
    | some p =>
      obtain ⟨y, j⟩ := p
      obtain ⟨-, -, -, -, -, rfl⟩ := bytesAt_of_digitsAt hd
      exact ⟨[], y, .inl rfl, bytesAt_nil b i, hd, by simpa [hd] using h⟩
  | some c =>
    by_cases h45 : c = 45
    · subst h45
      simp only [hb] at h
      cases hd : digitsAt b (i + 1) 4 with
      | none => simp [hd] at h
      | some p =>
        obtain ⟨y, j⟩ := p
        obtain ⟨-, -, -, -, -, rfl⟩ := bytesAt_of_digitsAt hd
        exact ⟨['-'], y, .inr (.inr rfl), bytesAt_singleton.mpr hb, hd, by simpa [hd] using h⟩
    · by_cases h43 : c = 43
      · subst h43
        simp only [hb] at h
        cases hd : digitsAt b (i + 1) 4 with
        | none => simp [hd] at h
        | some p =>
          obtain ⟨y, j⟩ := p
          obtain ⟨-, -, -, -, -, rfl⟩ := bytesAt_of_digitsAt hd
          exact ⟨['+'], y, .inr (.inl rfl), bytesAt_singleton.mpr hb, hd, by simpa [hd] using h⟩
      · simp only [hb] at h
        cases hd : digitsAt b i 4 with
        | none => simp [hd, h45, h43] at h
        | some p =>
          obtain ⟨y, j⟩ := p
          obtain ⟨-, -, -, -, -, rfl⟩ := bytesAt_of_digitsAt hd
          exact ⟨[], y, .inl rfl, bytesAt_nil b i, hd, by simpa [hd, h45, h43] using h⟩

end Pieces


/-! ### The wire layout -/

def wireChars (y mo d h mi s : Nat) : List Char :=
  (decimalDigits 4 y).map Nat.digitChar ++ ['-'] ++ (decimalDigits 2 mo).map Nat.digitChar ++ ['-'] ++
    (decimalDigits 2 d).map Nat.digitChar ++ [' '] ++ (decimalDigits 2 h).map Nat.digitChar ++ [':'] ++
    (decimalDigits 2 mi).map Nat.digitChar ++ [':'] ++ (decimalDigits 2 s).map Nat.digitChar

abbrev digitBytes (w n : Nat) : List UInt8 := ((decimalDigits w n).map Nat.digitChar).map Char.toUInt8

theorem bytesAt_wireChars {b : ByteArray} {j y mo d h mi s : Nat} :
    BytesAt b j ((wireChars y mo d h mi s).map Char.toUInt8) ↔
      BytesAt b j (digitBytes 4 y) ∧ b[j + 4]? = some 45 ∧ BytesAt b (j + 5) (digitBytes 2 mo) ∧
      b[j + 7]? = some 45 ∧ BytesAt b (j + 8) (digitBytes 2 d) ∧ b[j + 10]? = some 32 ∧
      BytesAt b (j + 11) (digitBytes 2 h) ∧ b[j + 13]? = some 58 ∧ BytesAt b (j + 14) (digitBytes 2 mi) ∧
      b[j + 16]? = some 58 ∧ BytesAt b (j + 17) (digitBytes 2 s) := by
  simp only [wireChars, List.map_append, bytesAt_append, bytesAt_singleton, List.length_append,
    List.length_map, decimalDigits_length, List.length_singleton, List.map_cons, List.map_nil]
  simp only [Nat.add_assoc, and_assoc]
  rfl


theorem digitsAt_digitBytes {b : ByteArray} {j w n : Nat} (hn : n < 10 ^ w)
    (h : BytesAt b j (digitBytes w n)) : digitsAt b j w = some (n, j + w) := by
  have hread := digitsAt_of_bytesAt (decimalDigits_lt w n) h
  rwa [decimalDigits_length, decimalValue_decimalDigits hn, Nat.zero_mul, Nat.zero_add] at hread

theorem digitBytes_of_digitsAt {b : ByteArray} {j w v j' : Nat} (h : digitsAt b j w = some (v, j')) :
    BytesAt b j (digitBytes w v) ∧ v < 10 ^ w ∧ j' = j + w := by
  obtain ⟨ds, rfl, hdig, hbytes, rfl, rfl⟩ := bytesAt_of_digitsAt h
  refine ⟨?_, by simpa using decimalValue_lt 0 ds hdig, rfl⟩
  rw [digitBytes, decimalDigits_decimalValue ds hdig]
  exact hbytes

theorem readPieces_wireChars {y mo d h mi s : Nat} (hy : y < 10000) (hmo : 1 ≤ mo ∧ mo ≤ 12)
    (hd : 1 ≤ d ∧ d ≤ 31) (hh : h ≤ 23) (hmi : mi ≤ 59) (hs : s ≤ 59) :
    readPieces ((wireChars y mo d h mi s).map Char.toUInt8).toByteArray wirePattern 0 {} =
      some ({ year := some (y : Int), month := some mo, day := some d, hour := some h,
              minute := some mi, second := some s }, 19) := by
  have hbytes := bytesAt_toByteArray ((wireChars y mo d h mi s).map Char.toUInt8)
  generalize ((wireChars y mo d h mi s).map Char.toUInt8).toByteArray = b at hbytes ⊢
  obtain ⟨hY, h4, hM, h7, hD, h10, hH, h13, hMi, h16, hS⟩ := bytesAt_wireChars.mp hbytes
  have h0 := hY 0 (by simp)
  rw [Nat.zero_add, List.getElem_map, List.getElem_map] at h0
  have hdigit := (digitByte_read _ (decimalDigits_lt 4 y _
    (List.getElem_mem (show 0 < (decimalDigits 4 y).length by simp)))).1
  have h45 : (Nat.digitChar (decimalDigits 4 y)[0]).toUInt8 ≠ 45 := by
    intro he
    rw [he] at hdigit
    exact absurd hdigit (by decide)
  have h43 : (Nat.digitChar (decimalDigits 4 y)[0]).toUInt8 ≠ 43 := by
    intro he
    rw [he] at hdigit
    exact absurd hdigit (by decide)
  simp only [Nat.zero_add] at hM hD hH hMi hS h4 h7 h10 h13 h16
  simp only [wirePattern, readPieces, h0]
  simp [h45, h43, digitsAt_digitBytes (show y < 10 ^ 4 by norm_num; omega) hY, byteAt, h4, h7, h10, h13, h16, digitsAt_digitBytes (show mo < 10 ^ 2 by norm_num; omega) hM,
    digitsAt_digitBytes (show d < 10 ^ 2 by norm_num; omega) hD,
    digitsAt_digitBytes (show h < 10 ^ 2 by norm_num; omega) hH,
    digitsAt_digitBytes (show mi < 10 ^ 2 by norm_num; omega) hMi,
    digitsAt_digitBytes (show s < 10 ^ 2 by norm_num; omega) hS, hmo, hd, hh, hmi, hs]


theorem readPieces_wirePattern_inv {b : ByteArray} {f : Found} {i : Nat}
    (h : readPieces b wirePattern 0 {} = some (f, i)) :
    ∃ (sg : List Char) (y mo d hh mi s : Nat), (sg = [] ∨ sg = ['+'] ∨ sg = ['-']) ∧
      y < 10000 ∧ (1 ≤ mo ∧ mo ≤ 12) ∧ (1 ≤ d ∧ d ≤ 31) ∧ hh ≤ 23 ∧ mi ≤ 59 ∧ s ≤ 59 ∧
      BytesAt b 0 ((sg ++ wireChars y mo d hh mi s).map Char.toUInt8) ∧ i = sg.length + 19 ∧
      f = { year := some (if sg = ['-'] then -(y : Int) else y), month := some mo, day := some d,
            hour := some hh, minute := some mi, second := some s } := by
  simp only [wirePattern] at h
  obtain ⟨sg, y, hsg, hsign, hy, h⟩ := readPieces_year_inv h
  obtain ⟨h4, h⟩ := readPieces_sep_inv h
  obtain ⟨mo, hmo, hmo', h⟩ := readPieces_month_inv h
  obtain ⟨h7, h⟩ := readPieces_sep_inv h
  obtain ⟨d, hd, hd', h⟩ := readPieces_day_inv h
  obtain ⟨h10, h⟩ := readPieces_sep_inv h
  obtain ⟨hh, hhh, hhh', h⟩ := readPieces_hour_inv h
  obtain ⟨h13, h⟩ := readPieces_sep_inv h
  obtain ⟨mi, hmi, hmi', h⟩ := readPieces_minute_inv h
  obtain ⟨h16, h⟩ := readPieces_sep_inv h
  obtain ⟨s, hs, hs', h⟩ := readPieces_second_inv h
  simp only [readPieces_nil_eq, Option.some.injEq, Prod.mk.injEq] at h
  obtain ⟨rfl, rfl⟩ := h
  obtain ⟨hY, hy4, -⟩ := digitBytes_of_digitsAt hy
  obtain ⟨hM, -, -⟩ := digitBytes_of_digitsAt hmo
  obtain ⟨hD, -, -⟩ := digitBytes_of_digitsAt hd
  obtain ⟨hH, -, -⟩ := digitBytes_of_digitsAt hhh
  obtain ⟨hMi, -, -⟩ := digitBytes_of_digitsAt hmi
  obtain ⟨hS, -, -⟩ := digitBytes_of_digitsAt hs
  refine ⟨sg, y, mo, d, hh, mi, s, hsg, by simpa using hy4, hmo', hd', hhh', hmi', hs', ?_, by omega, rfl⟩
  rw [List.map_append, bytesAt_append, bytesAt_wireChars]
  simp only [List.length_map, Nat.zero_add, Nat.add_assoc, Nat.reduceAdd] at *
  exact ⟨hsign, hY, h4, hM, h7, hD, h10, hH, h13, hMi, h16, hS⟩


theorem wireChars_length (y mo d h mi s : Nat) : (wireChars y mo d h mi s).length = 19 := by
  simp [wireChars]

theorem wireChars_ascii (y mo d h mi s : Nat) : ∀ c ∈ wireChars y mo d h mi s, c.toNat < 128 := by
  intro c hc
  simp only [wireChars, List.mem_append, List.mem_map, List.mem_singleton, or_assoc] at hc
  rcases hc with ⟨e, he, rfl⟩ | rfl | ⟨e, he, rfl⟩ | rfl | ⟨e, he, rfl⟩ | rfl | ⟨e, he, rfl⟩ | rfl |
    ⟨e, he, rfl⟩ | rfl | ⟨e, he, rfl⟩
  all_goals first
    | exact digitChar_toNat_lt (decimalDigits_lt _ _ e he)
    | decide

theorem isBlank_digitChar : ∀ d : Nat, d < 10 → Text.isBlank (Nat.digitChar d) = false
  | 0, _ | 1, _ | 2, _ | 3, _ | 4, _ | 5, _ | 6, _ | 7, _ | 8, _ | 9, _ => by decide
  | _ + 10, h => absurd h (by omega)

theorem trim_ofList {cs : List Char} (hhead : ∀ c ∈ cs.head?, Text.isBlank c = false)
    (hlast : ∀ c ∈ cs.getLast?, Text.isBlank c = false) : Text.trim (String.ofList cs) = String.ofList cs := by
  unfold Text.trim
  rw [String.toList_ofList]
  rcases List.eq_nil_or_concat cs with rfl | ⟨l, e, rfl⟩
  · rfl
  · rw [List.concat_eq_append] at hhead hlast ⊢
    have he : Text.isBlank e = false := hlast e (by simp)
    have hfront : (l ++ [e]).dropWhile Text.isBlank = l ++ [e] := by
      cases l with
      | nil => simp [he]
      | cons c l => simp [hhead c (by simp)]
    rw [hfront, List.reverse_append, List.reverse_singleton, List.singleton_append,
      List.dropWhile_cons_of_neg (by simp [he]), List.reverse_cons, List.reverse_reverse]

theorem trim_wireChars (y mo d h mi s : Nat) :
    Text.trim (String.ofList (wireChars y mo d h mi s)) = String.ofList (wireChars y mo d h mi s) := by
  apply trim_ofList
  · intro c hc
    simp only [wireChars, decimalDigits, List.map_cons, List.map_nil, List.nil_append,
      List.cons_append, List.head?_cons, Option.mem_def, Option.some.injEq] at hc
    subst hc
    exact isBlank_digitChar _ (Nat.mod_lt _ (by decide))
  · intro c hc
    simp only [wireChars, decimalDigits, List.map_append, List.map_cons, List.map_nil, List.nil_append,
      List.getLast?_append, List.getLast?_singleton, Option.mem_def] at hc
    simp at hc
    subst hc
    exact isBlank_digitChar _ (Nat.mod_lt _ (by decide))


/-- The text of a reading in the wire layout: a minus sign before a negative year, then the
layout's characters. -/
theorem wireText_toList {r : Reading} (hy : -9999 ≤ r.year ∧ r.year ≤ 9999) (hmo : r.month < 100)
    (hd : r.day < 100) (hh : r.hour < 100) (hmi : r.minute < 100) (hs : r.second < 100) :
    (r.dateText ++ " " ++ r.clockText).toList =
      (if r.year < 0 then ['-'] else []) ++
        wireChars r.year.natAbs r.month r.day r.hour r.minute r.second := by
  have hfour : (padNat 4 r.year.natAbs).toList = (decimalDigits 4 r.year.natAbs).map Nat.digitChar :=
    padNat_toList (by decide) (by norm_num; omega)
  simp only [Reading.dateText, Reading.clockText, yearText, String.toList_append, padNat_two_toList hmo,
    padNat_two_toList hd, padNat_two_toList hh, padNat_two_toList hmi, padNat_two_toList hs]
  by_cases hneg : r.year < 0
  · simp [hneg, hfour, wireChars]
  · rw [show r.year.toNat = r.year.natAbs by omega]
    simp [hneg, hfour, wireChars]


theorem Stamp.wire_eq {u : Stamp} (hy : -9999 ≤ (Stamp.mk u.utc 0).reading.year ∧
      (Stamp.mk u.utc 0).reading.year ≤ 9999) :
    u.wire = .ok ((Stamp.mk u.utc 0).reading.dateText ++ " " ++ (Stamp.mk u.utc 0).reading.clockText) := by
  have hrange : (Stamp.mk u.utc 0).inRange = true := by simp [Stamp.inRange, hy.1, hy.2]
  simp only [Stamp.wire, Stamp.toUtc, Stamp.toOffset, utcOffset, hrange, if_true]
  rfl

/-- The wire text of an instant in the years 0 to 9999 is read back as that instant, to the
second below it, in UTC. -/
theorem parseWire_wire (u : Stamp) (hy : 0 ≤ (Stamp.mk u.utc 0).reading.year ∧
      (Stamp.mk u.utc 0).reading.year ≤ 9999) :
    ∃ w, u.wire = .ok w ∧ parseWire w = some ⟨u.utc - u.utc % 1000000000, 0⟩ := by
  obtain ⟨r, hr⟩ : ∃ r, (Stamp.mk u.utc 0).reading = r := ⟨_, rfl⟩
  have hvalid : r.Valid := hr ▸ Stamp.reading_valid _
  obtain ⟨⟨hm1, hm12⟩, ⟨hd1, -⟩, hd31, hh, hmi, hs, -⟩ := hvalid.ranges
  have hnanos : r.nanos = u.utc := by
    rw [← hr]
    simpa [Stamp.reading] using Reading.nanos_ofNanos (u.utc + 0 * nanosPerSecond)
  have hfrac : (r.nanosecond : Int) = u.utc % 1000000000 := by
    rw [← hr]
    simpa [Stamp.reading] using Reading.nanosecond_ofNanos (u.utc + 0 * nanosPerSecond)
  rw [hr] at hy
  refine ⟨_, Stamp.wire_eq (by rw [hr]; omega), ?_⟩
  rw [hr]
  have htext := wireText_toList (r := r) (by omega) (by omega) (by omega) (by omega) (by omega) (by omega)
  rw [if_neg (by omega), List.nil_append] at htext
  have hbounds : r.year.natAbs < 10000 := by omega
  rw [← String.ofList_toList (s := r.dateText ++ " " ++ r.clockText), htext]
  unfold parseWire Pattern.readLocal
  rw [trim_wireChars, toUTF8_ofList_ascii (wireChars_ascii _ _ _ _ _ _)]
  dsimp only
  rw [readPieces_wireChars hbounds ⟨hm1, hm12⟩ ⟨hd1, by omega⟩ (by omega) (by omega) (by omega)]
  have hyear : (r.year.natAbs : Int) = r.year := by omega
  simp [wireChars_length, Found.reading?, hyear, hvalid.1, Stamp.ofReading, utcOffset, Reading.nanos]
  rw [← hfrac, ← hnanos]
  simp only [Reading.nanos]
  push_cast
  omega


theorem readLocal_eq_some {p : Pattern} {s : String} {r : Reading} (h : p.readLocal s = some r) :
    ∃ f, readPieces s.toUTF8 p 0 {} = some (f, s.toUTF8.size) ∧ f.reading? = some r := by
  unfold Pattern.readLocal at h
  dsimp only at h
  cases hp : readPieces s.toUTF8 p 0 {} with
  | none =>
    rw [hp] at h
    simp at h
  | some q =>
    obtain ⟨f, i⟩ := q
    rw [hp] at h
    by_cases hi : i = s.toUTF8.size
    · subst hi
      simp only [Option.bind_eq_bind, Option.bind_some, if_true] at h
      exact ⟨f, rfl, h⟩
    · rw [String.toUTF8_eq_toByteArray, String.size_toByteArray] at hi
      simp [hi] at h

/-- Wire text that is read as an instant is that instant's wire text, up to an explicit sign
before the year: `+` before any year, `-` before the year 0. -/
theorem wire_of_parseWire {m : String} {t : Stamp} (h : parseWire m = some t) :
    ∃ w, t.wire = .ok w ∧ (Text.trim m = w ∨ Text.trim m = "+" ++ w ∨ Text.trim m = "-" ++ w) := by
  unfold parseWire at h
  obtain ⟨r, hread, rfl⟩ := Option.map_eq_some_iff.mp h
  obtain ⟨f, hp, hf⟩ := readLocal_eq_some hread
  obtain ⟨sg, y, mo, d, hh, mi, s, hsg, hy, hmo, hd, hhh, hmi, hs, hbytes, hsize, rfl⟩ :=
    readPieces_wirePattern_inv hp
  have hascii : ∀ c ∈ sg ++ wireChars y mo d hh mi s, c.toNat < 128 := by
    intro c hc
    rcases List.mem_append.mp hc with hc | hc
    · rcases hsg with rfl | rfl | rfl <;> simp at hc <;> subst hc <;> decide
    · exact wireChars_ascii y mo d hh mi s c hc
  have htrim : Text.trim m = String.ofList (sg ++ wireChars y mo d hh mi s) := by
    apply String.toByteArray_inj.mp
    rw [← String.toUTF8_eq_toByteArray, ← String.toUTF8_eq_toByteArray, toUTF8_ofList_ascii hascii]
    exact eq_toByteArray_of_bytesAt hbytes (by simp [← hsize, wireChars_length])
  simp only [Found.reading?, Option.bind_eq_bind, Option.bind_some] at hf
  by_cases hvalid : isValidDate (if sg = ['-'] then -(y : Int) else y) mo d = true
  · simp only [hvalid, if_true, Option.some.injEq, Option.getD_some, Option.getD_none] at hf
    subst hf
    generalize hY : (if sg = ['-'] then -(y : Int) else y) = Y at hvalid
    have hrange : -9999 ≤ Y ∧ Y ≤ 9999 := by
      rw [← hY]
      by_cases hneg : sg = ['-'] <;> simp only [hneg, if_true, if_false] <;> omega
    have hreading : (Stamp.mk (Stamp.ofReading ⟨Y, mo, d, hh, mi, s, 0⟩ utcOffset).utc 0).reading =
        ⟨Y, mo, d, hh, mi, s, 0⟩ :=
      Stamp.reading_ofReading ⟨hvalid, show hh < 24 by omega, show mi < 60 by omega,
        show s < 60 by omega, show 0 < 1000000000 by decide⟩ utcOffset
    refine ⟨_, Stamp.wire_eq (by rw [hreading]; exact hrange), ?_⟩
    rw [hreading, htrim]
    have htext := wireText_toList (r := ⟨Y, mo, d, hh, mi, s, 0⟩) hrange (show mo < 100 by omega)
      (show d < 100 by omega) (show hh < 100 by omega) (show mi < 100 by omega) (show s < 100 by omega)
    dsimp only at htext
    rcases hsg with rfl | rfl | rfl
    · left
      have hpos : Y = y := by rw [← hY]; simp
      apply String.toList_injective
      rw [String.toList_ofList, htext, hpos]
      simp
    · right; left
      have hpos : Y = y := by rw [← hY]; simp
      apply String.toList_injective
      rw [String.toList_ofList, String.toList_append, htext, hpos]
      simp
    · have hneg : Y = -(y : Int) := by rw [← hY]; simp
      by_cases hy0 : y = 0
      · right; right
        subst hy0
        apply String.toList_injective
        rw [String.toList_ofList, String.toList_append, htext, hneg]
        simp
      · left
        apply String.toList_injective
        rw [String.toList_ofList, htext, hneg, if_pos (by omega)]
        simp
  · simp [hvalid] at hf

end FleetTelemetry.Time
