import FleetTelemetry.Json.ShapeText
import FleetTelemetry.Json.Print
import FleetTelemetry.Proofs.Time.Rfc3339

/-!
# Reading a known text

Completeness of the reader: when the bytes at the cursor are a text of a known layout, the
reader's run is given outright. `Reads b m l a` says that the cursor computation `m`, started
anywhere the bytes `l` stand in `b`, answers `a` and moves just past them. The lemmas compose
`Reads` along binds, so a reader's run is read off its layout one piece at a time.

This module covers blanks and string literals: every string, escaped the way the printer
writes it, reads back as itself.
-/

namespace FleetTelemetry.Json

open Time (BytesAt bytesAt_append bytesAt_singleton)

variable {α β : Type} {b : ByteArray}

/-- `m` reads the bytes `l` wherever they stand, answering `a`. -/
def Reads (b : ByteArray) (m : Cursor α) (l : List UInt8) (a : α) : Prop :=
  ∀ i, BytesAt b i l → m i = .ok (a, i + l.length)

theorem cursor_bind_run {m : Cursor α} {f : α → Cursor β} {i j : Nat} {a : α}
    (h : m i = .ok (a, j)) : (m >>= f) i = f a j := by
  show StateT.bind m f i = f a j
  simp only [StateT.bind, h]
  rfl

theorem cursor_map_run {m : Cursor α} {f : α → β} {i j : Nat} {a : α}
    (h : m i = .ok (a, j)) : (f <$> m) i = .ok (f a, j) := by
  show StateT.map f m i = _
  simp only [StateT.map, h]
  rfl

theorem advance_run (i : Nat) : advance i = .ok ((), i + 1) := rfl

theorem peek_run (i : Nat) : peek b i = .ok (b[i]?, i) := by
  show Except.ok ((if h : i < b.size then some b[i] else none), i) = _
  by_cases h : i < b.size
  · simp [h]
  · simp [h]

theorem next_run {i : Nat} {c : UInt8} (h : b[i]? = some c) : next b i = .ok (some c, i + 1) := by
  unfold next
  rw [cursor_bind_run (peek_run i), h]
  rfl

theorem Reads.bind {m : Cursor α} {f : α → Cursor β} {l₁ l₂ : List UInt8} {a : α} {c : β}
    (h₁ : Reads b m l₁ a) (h₂ : Reads b (f a) l₂ c) : Reads b (m >>= f) (l₁ ++ l₂) c := by
  intro i hi
  obtain ⟨hi₁, hi₂⟩ := bytesAt_append.mp hi
  rw [cursor_bind_run (h₁ i hi₁), h₂ _ hi₂, List.length_append, Nat.add_assoc]

theorem Reads.map {m : Cursor α} {f : α → β} {l : List UInt8} {a : α} (h : Reads b m l a) :
    Reads b (f <$> m) l (f a) := fun i hi => cursor_map_run (h i hi)

theorem reads_pure (a : α) : Reads b (pure a) [] a := fun _ _ => rfl

theorem reads_advance (c : UInt8) : Reads b advance [c] () := fun i _ => advance_run i

theorem reads_next {c : UInt8} : Reads b (next b) [c] (some c) := fun _ hi =>
  next_run (bytesAt_singleton.mp hi)


def bytesOf (s : String) : List UInt8 := s.toByteArray.data.toList

theorem bytesOf_append (s t : String) : bytesOf (s ++ t) = bytesOf s ++ bytesOf t := by
  simp [bytesOf, String.toByteArray_append]

theorem bytesOf_singleton (c : Char) : bytesOf (String.singleton c) = String.utf8EncodeChar c := by
  simp [bytesOf, List.utf8Encode_singleton]

theorem bytesOf_join (l : List String) : bytesOf (String.join l) = (l.map bytesOf).flatten := by
  induction l with
  | nil => rfl
  | cons s l ih => rw [String.join_cons, bytesOf_append, ih, List.map_cons, List.flatten_cons]

theorem bytesOf_toList (s : String) : bytesOf s = s.toList.flatMap String.utf8EncodeChar := by
  obtain ⟨l, rfl⟩ : ∃ l, s = String.ofList l := ⟨s.toList, by simp⟩
  simp [bytesOf, String.toByteArray_ofList, List.utf8Encode]

theorem byteArray_toList_loop (bs : ByteArray) (i : Nat) (r : List UInt8) :
    ByteArray.toList.loop bs i r = r.reverse ++ bs.data.toList.drop i := by
  fun_induction ByteArray.toList.loop bs i r with
  | case1 i r h ih =>
    rw [ih]
    have hi : i < bs.data.toList.length := by simpa using h
    rw [List.drop_eq_getElem_cons hi]
    simp [ByteArray.get!, h]
  | case2 i r h =>
    rw [List.drop_eq_nil_of_le (by simpa using h), List.append_nil]


theorem skipBlanks_go {pre : List UInt8} (hpre : ∀ x ∈ pre, isBlank x = true) {c : UInt8}
    (hc : isBlank c = false) : ∀ {j fuel : Nat}, BytesAt b j (pre ++ [c]) → pre.length < fuel →
      skipBlanks.go b j fuel = j + pre.length := by
  induction pre with
  | nil =>
    intro j fuel h hfuel
    obtain ⟨f, rfl⟩ : ∃ f, fuel = f + 1 := ⟨fuel - 1, by simp at hfuel; omega⟩
    obtain ⟨hj, hbj⟩ := getElem?_eq_some_iff.mp (bytesAt_singleton.mp h)
    simp [skipBlanks.go, hj, hbj, hc]
  | cons x pre ih =>
    intro j fuel h hfuel
    obtain ⟨f, rfl⟩ : ∃ f, fuel = f + 1 := ⟨fuel - 1, by simp at hfuel; omega⟩
    rw [List.cons_append, Time.bytesAt_cons] at h
    obtain ⟨hj, hbj⟩ := getElem?_eq_some_iff.mp h.1
    have hx : isBlank x = true := hpre x List.mem_cons_self
    rw [skipBlanks.go, dif_pos hj, hbj, if_pos hx,
      ih (fun y hy => hpre y (List.mem_cons_of_mem _ hy)) h.2 (by simp at hfuel; omega)]
    simp
    omega

theorem skipBlanks_run {pre : List UInt8} (hpre : ∀ x ∈ pre, isBlank x = true) {c : UInt8}
    (hc : isBlank c = false) {i : Nat} (h : BytesAt b i (pre ++ [c])) :
    skipBlanks b i = .ok (some c, i + pre.length) := by
  have hc' : b[i + pre.length]? = some c := bytesAt_singleton.mp (bytesAt_append.mp h).2
  have hlt : i + pre.length < b.size := (getElem?_eq_some_iff.mp hc').1
  have hgo := @skipBlanks_go b pre hpre c hc i (b.size - i) h (by omega)
  show (do let i ← get; let j := skipBlanks.go b i (b.size - i); set j; peek b : Cursor _) i = _
  simp only [bind, StateT.bind, get, getThe, MonadStateOf.get, StateT.get, set, StateT.set, pure,
    Except.pure, Except.bind, hgo]
  rw [peek_run, hc']

theorem Reads.skipBlanks_bind {pre l : List UInt8} (hpre : ∀ x ∈ pre, isBlank x = true) {c : UInt8}
    (hc : isBlank c = false) {f : Option UInt8 → Cursor α} {a : α}
    (h : Reads b (f (some c)) (c :: l) a) : Reads b (skipBlanks b >>= f) (pre ++ c :: l) a := by
  intro i hi
  obtain ⟨hpreb, hrest⟩ := bytesAt_append.mp hi
  have hfirst : BytesAt b i (pre ++ [c]) :=
    bytesAt_append.mpr ⟨hpreb, bytesAt_singleton.mpr (Time.bytesAt_cons.mp hrest).1⟩
  rw [cursor_bind_run (skipBlanks_run hpre hc hfirst), h _ hrest]
  simp [Nat.add_assoc]


/-! ### Strings -/

theorem readString_go_quote {acc : Array UInt8} {i fuel : Nat} (h : b[i]? = some 34) :
    readString.go b acc (fuel + 1) i = .ok (acc, i + 1) := by
  rw [readString.go, cursor_bind_run (next_run h)]
  rfl

def PlainByte (x : UInt8) : Prop := 32 ≤ x ∧ x ≠ 34 ∧ x ≠ 92

theorem readString_go_plain {bs : List UInt8} (hbs : ∀ x ∈ bs, PlainByte x) :
    ∀ {acc : Array UInt8} {i fuel : Nat}, BytesAt b i bs →
      readString.go b acc (fuel + bs.length) i = readString.go b (acc ++ bs.toArray) fuel (i + bs.length) := by
  induction bs with
  | nil => intro acc i fuel _; simp
  | cons x bs ih =>
    intro acc i fuel h
    obtain ⟨hx32, hx34, hx92⟩ := hbs x List.mem_cons_self
    obtain ⟨hx, hrest⟩ := Time.bytesAt_cons.mp h
    have hstep : readString.go b acc (fuel + bs.length + 1) i =
        readString.go b (acc.push x) (fuel + bs.length) (i + 1) := by
      rw [readString.go, cursor_bind_run (next_run hx)]
      have h34 : (x == 34) = false := by simpa using hx34
      have h92 : (x == 92) = false := by simpa using hx92
      have h32 : ¬ x < 32 := UInt8.not_lt.mpr hx32
      simp only [h34, h92, h32, Bool.false_eq_true, if_false]
    rw [List.length_cons, ← Nat.add_assoc, hstep, ih (fun y hy => hbs y (List.mem_cons_of_mem _ hy)) hrest]
    simp [Nat.add_assoc, Nat.add_comm 1]

theorem readString_go_escape {t e : List UInt8} (ht : Reads b (readEscape b) t e)
    {acc : Array UInt8} {i fuel : Nat} (h : BytesAt b i (92 :: t)) :
    readString.go b acc (fuel + 1) i = readString.go b (acc ++ e.toArray) fuel (i + 1 + t.length) := by
  obtain ⟨h92, hrest⟩ := Time.bytesAt_cons.mp h
  rw [readString.go, cursor_bind_run (next_run h92)]
  simp only [show ((92 : UInt8) == 34) = false by decide, Bool.false_eq_true, if_false, if_true,
    beq_self_eq_true]
  rw [cursor_bind_run (ht _ hrest)]


theorem reads_readEscape_short {x y : UInt8}
    (h : (x, y) ∈ [(34, 34), (92, 92), (98, 8), (102, 12), (110, 10), (114, 13), (116, 9)]) :
    Reads b (readEscape b) [x] [y] := by
  intro i hi
  rw [readEscape, cursor_bind_run (next_run (bytesAt_singleton.mp hi))]
  simp only [List.mem_cons, Prod.mk.injEq, List.not_mem_nil, or_false] at h
  rcases h with ⟨rfl, rfl⟩ | ⟨rfl, rfl⟩ | ⟨rfl, rfl⟩ | ⟨rfl, rfl⟩ | ⟨rfl, rfl⟩ | ⟨rfl, rfl⟩ | ⟨rfl, rfl⟩
  all_goals rfl

theorem hexValue_hexDigitLower : ∀ d : Nat, d < 16 → hexValue (hexDigitLower d).toUInt8 = some d
  | 0, _ | 1, _ | 2, _ | 3, _ | 4, _ | 5, _ | 6, _ | 7, _ | 8, _ | 9, _ | 10, _ | 11, _ | 12, _
  | 13, _ | 14, _ | 15, _ => by decide
  | _ + 16, h => absurd h (by omega)

theorem readHex4_run {i a c d e : Nat} {x₀ x₁ x₂ x₃ : UInt8} (h : BytesAt b i [x₀, x₁, x₂, x₃])
    (h₀ : hexValue x₀ = some a) (h₁ : hexValue x₁ = some c) (h₂ : hexValue x₂ = some d)
    (h₃ : hexValue x₃ = some e) : readHex4 b i = .ok (((a * 16 + c) * 16 + d) * 16 + e, i + 4) := by
  have hb : ∀ n (hn : n < 4), b[i + n]? = some [x₀, x₁, x₂, x₃][n] := h
  have hsize : i + 4 ≤ b.size := by
    have := (getElem?_eq_some_iff.mp (hb 3 (by decide))).1
    omega
  have e₀ := hb 0 (by decide)
  have e₁ := hb 1 (by decide)
  have e₂ := hb 2 (by decide)
  have e₃ := hb 3 (by decide)
  simp only [Nat.add_zero, List.getElem_cons_zero, List.getElem_cons_succ] at e₀ e₁ e₂ e₃
  unfold readHex4
  simp [bind, StateT.bind, get, getThe, MonadStateOf.get, StateT.get, set, StateT.set, pure,
    Except.pure, Except.bind, hsize, e₀, e₁, e₂, e₃, h₀, h₁, h₂, h₃, StateT.pure]


theorem byteArray_toList (bs : ByteArray) : bs.toList = bs.data.toList := by
  simp [ByteArray.toList, byteArray_toList_loop]

theorem utf8Bytes_toNat (c : Char) : utf8Bytes c.toNat = String.utf8EncodeChar c := by
  rw [utf8Bytes, Char.ofNat_toNat, String.toUTF8_eq_toByteArray, byteArray_toList, ← bytesOf_singleton]
  rfl

theorem reads_readEscape_control {c : Char} (hc : c.toNat < 32) :
    Reads b (readEscape b) [117, 48, 48, (hexDigitLower (c.toNat / 16)).toUInt8,
      (hexDigitLower (c.toNat % 16)).toUInt8] (String.utf8EncodeChar c) := by
  intro i hi
  obtain ⟨hu, hhex⟩ := Time.bytesAt_cons.mp hi
  have hhex4 := readHex4_run hhex (show hexValue 48 = some 0 by decide)
    (show hexValue 48 = some 0 by decide) (hexValue_hexDigitLower _ (by omega))
    (hexValue_hexDigitLower _ (by omega))
  have hn : ((0 * 16 + 0) * 16 + c.toNat / 16) * 16 + c.toNat % 16 = c.toNat := by omega
  rw [hn] at hhex4
  rw [readEscape, cursor_bind_run (next_run hu)]
  simp only [show ((117 : UInt8) == 34) = false by decide, show ((117 : UInt8) == 92) = false by decide,
    show ((117 : UInt8) == 47) = false by decide, show ((117 : UInt8) == 98) = false by decide,
    show ((117 : UInt8) == 102) = false by decide, show ((117 : UInt8) == 110) = false by decide,
    show ((117 : UInt8) == 114) = false by decide, show ((117 : UInt8) == 116) = false by decide,
    beq_self_eq_true, Bool.false_eq_true, if_false, if_true]
  rw [readUnicodeEscape, cursor_bind_run hhex4]
  simp only [show ¬ (0xDC00 ≤ c.toNat ∧ c.toNat ≤ 0xDFFF) by omega,
    show c.toNat < 0xD800 ∨ c.toNat > 0xDBFF by omega, if_true, if_false, utf8Bytes_toNat]
  rfl

/-- Every byte of a character's encoding passes a test that the character's own byte passes when
it is ASCII and that every byte from 128 on passes: a longer encoding sets the top bit of each of
its bytes. -/
theorem utf8EncodeChar_forall {P : UInt8 → Prop} {c : Char}
    (hascii : ∀ x : UInt8, x.toNat = c.toNat → c.toNat < 128 → P x)
    (hhigh : ∀ x : UInt8, 128 ≤ x → P x) : ∀ x ∈ String.utf8EncodeChar c, P x := by
  have hpos := c.utf8Size_pos
  have hle := c.utf8Size_le_four
  obtain h1 | h2 | h3 | h4 : c.utf8Size = 1 ∨ c.utf8Size = 2 ∨ c.utf8Size = 3 ∨ c.utf8Size = 4 := by omega
  · rw [String.utf8EncodeChar_eq_singleton h1]
    intro x hx
    rw [List.mem_singleton] at hx
    subst hx
    have hlt : c.val.toNat < 128 := by
      have := Char.utf8Size_eq_one_iff.mp h1
      simp only [UInt32.le_iff_toNat_le, UInt32.reduceToNat] at this
      omega
    have hval : c.val.toUInt8.toNat = c.toNat := by
      simp only [UInt32.toNat_toUInt8, Char.toNat]
      exact Nat.mod_eq_of_lt (by omega)
    exact hascii _ hval hlt
  · rw [String.utf8EncodeChar_eq_cons_cons h2]
    intro x hx
    simp only [List.mem_cons, List.not_mem_nil, or_false] at hx
    rcases hx with rfl | rfl <;> exact hhigh _ (UInt8.le_trans (by decide) UInt8.right_le_or)
  · rw [String.utf8EncodeChar_eq_cons_cons_cons h3]
    intro x hx
    simp only [List.mem_cons, List.not_mem_nil, or_false] at hx
    rcases hx with rfl | rfl | rfl <;> exact hhigh _ (UInt8.le_trans (by decide) UInt8.right_le_or)
  · rw [String.utf8EncodeChar_eq_cons_cons_cons_cons h4]
    intro x hx
    simp only [List.mem_cons, List.not_mem_nil, or_false] at hx
    rcases hx with rfl | rfl | rfl | rfl <;> exact hhigh _ (UInt8.le_trans (by decide) UInt8.right_le_or)

theorem plainByte_of_le {x : UInt8} (h : 128 ≤ x) : PlainByte x := by
  simp only [PlainByte, UInt8.le_iff_toNat_le, ne_eq, ← UInt8.toNat_inj] at h ⊢
  simp only [UInt8.reduceToNat] at h ⊢
  omega

theorem utf8EncodeChar_plain {c : Char} (h32 : 32 ≤ c.toNat) (h34 : c ≠ '"') (h92 : c ≠ '\\') :
    ∀ x ∈ String.utf8EncodeChar c, PlainByte x := by
  refine utf8EncodeChar_forall (fun x hval _ => ?_) fun _ => plainByte_of_le
  have h34' : c.toNat ≠ 34 := fun h => h34 (Char.toNat_inj.mp (by rw [h]; rfl))
  have h92' : c.toNat ≠ 92 := fun h => h92 (Char.toNat_inj.mp (by rw [h]; rfl))
  simp only [PlainByte, UInt8.le_iff_toNat_le, ne_eq, ← UInt8.toNat_inj, hval, UInt8.reduceToNat]
  omega


theorem bytesOf_ofList_ascii {cs : List Char} (h : ∀ c ∈ cs, c.toNat < 128) :
    bytesOf (String.ofList cs) = cs.map Char.toUInt8 := by
  have hutf := Time.toUTF8_ofList_ascii h
  rw [String.toUTF8_eq_toByteArray] at hutf
  rw [bytesOf, hutf]
  simp

theorem hexDigitLower_ascii : ∀ d : Nat, d < 16 → (hexDigitLower d).toNat < 128
  | 0, _ | 1, _ | 2, _ | 3, _ | 4, _ | 5, _ | 6, _ | 7, _ | 8, _ | 9, _ | 10, _ | 11, _ | 12, _
  | 13, _ | 14, _ | 15, _ => by decide
  | _ + 16, h => absurd h (by omega)

/-- Each character of a string literal is either an escape the reader turns back into the
character's bytes, or the character's own bytes, none of which ends or escapes the literal. -/
theorem escapeChar_read (c : Char) :
    (∃ t, bytesOf (escapeChar c) = 92 :: t ∧ Reads b (readEscape b) t (String.utf8EncodeChar c)) ∨
      (bytesOf (escapeChar c) = String.utf8EncodeChar c ∧ ∀ x ∈ String.utf8EncodeChar c, PlainByte x) := by
  have hshort : ∀ {x y : UInt8}, bytesOf (escapeChar c) = [92, x] → String.utf8EncodeChar c = [y] →
      (x, y) ∈ [(34, 34), (92, 92), (98, 8), (102, 12), (110, 10), (114, 13), (116, 9)] →
      ∃ t, bytesOf (escapeChar c) = 92 :: t ∧ Reads b (readEscape b) t (String.utf8EncodeChar c) :=
    fun hbytes henc hxy => ⟨_, hbytes, henc ▸ reads_readEscape_short hxy⟩
  by_cases hq : c = '"'
  · subst hq; exact .inl (hshort (x := 34) (y := 34) (by decide) (by decide) (by decide))
  by_cases hb : c = '\\'
  · subst hb; exact .inl (hshort (x := 92) (y := 92) (by decide) (by decide) (by decide))
  by_cases hn : c = '\n'
  · subst hn; exact .inl (hshort (x := 110) (y := 10) (by decide) (by decide) (by decide))
  by_cases hr : c = '\r'
  · subst hr; exact .inl (hshort (x := 114) (y := 13) (by decide) (by decide) (by decide))
  by_cases ht : c = '\t'
  · subst ht; exact .inl (hshort (x := 116) (y := 9) (by decide) (by decide) (by decide))
  by_cases h8 : c.toNat = 8
  · obtain rfl : c = Char.ofNat 8 := by rw [← h8, Char.ofNat_toNat]
    exact .inl (hshort (x := 98) (y := 8) (by decide) (by decide) (by decide))
  by_cases h12 : c.toNat = 12
  · obtain rfl : c = Char.ofNat 12 := by rw [← h12, Char.ofNat_toNat]
    exact .inl (hshort (x := 102) (y := 12) (by decide) (by decide) (by decide))
  by_cases hctl : c.toNat < 32
  · have hesc : escapeChar c =
        "\\u00" ++ String.ofList [hexDigitLower (c.toNat / 16), hexDigitLower (c.toNat % 16)] := by
      simp [escapeChar, hq, hb, hn, hr, ht, h8, h12, hctl]
    refine .inl ⟨_, ?_, reads_readEscape_control hctl⟩
    have hascii : ∀ x ∈ [hexDigitLower (c.toNat / 16), hexDigitLower (c.toNat % 16)], x.toNat < 128 := by
      simp only [List.mem_cons, List.not_mem_nil, or_false]
      rintro x (rfl | rfl)
      · exact hexDigitLower_ascii _ (by omega)
      · exact hexDigitLower_ascii _ (by omega)
    rw [hesc, bytesOf_append, bytesOf_ofList_ascii hascii]
    rfl
  · have hesc : escapeChar c = String.singleton c := by
      simp [escapeChar, hq, hb, hn, hr, ht, h8, h12, hctl]
    exact .inr ⟨by rw [hesc, bytesOf_singleton], utf8EncodeChar_plain (by omega) hq hb⟩


def escapedBytes (cs : List Char) : List UInt8 := (cs.map fun c => bytesOf (escapeChar c)).flatten

theorem escapedBytes_cons (c : Char) (cs : List Char) :
    escapedBytes (c :: cs) = bytesOf (escapeChar c) ++ escapedBytes cs := rfl

theorem bytesOf_escapeChar_ne_nil (c : Char) : bytesOf (escapeChar c) ≠ [] := by
  rcases escapeChar_read (b := ByteArray.empty) c with ⟨t, h, -⟩ | ⟨h, -⟩
  · rw [h]; exact List.cons_ne_nil _ _
  · rw [h]; exact String.utf8EncodeChar_ne_nil

/-- The string loop reads the escaped characters up to the closing quote, collecting the
characters' UTF-8 bytes; every character takes at least one round of the loop, so the fuel
needed is below the length read. -/
theorem readString_go_chars (cs : List Char) :
    ∀ {acc : Array UInt8} {i fuel : Nat}, BytesAt b i (escapedBytes cs ++ [34]) →
      (escapedBytes cs).length < fuel →
      readString.go b acc fuel i =
        .ok (acc ++ (cs.flatMap String.utf8EncodeChar).toArray, i + (escapedBytes cs).length + 1) := by
  induction cs with
  | nil =>
    intro acc i fuel h hfuel
    obtain ⟨f, rfl⟩ : ∃ f, fuel = f + 1 := ⟨fuel - 1, by omega⟩
    rw [readString_go_quote (bytesAt_singleton.mp h)]
    simp [escapedBytes]
  | cons c cs ih =>
    intro acc i fuel h hfuel
    rw [escapedBytes_cons, List.append_assoc, bytesAt_append] at h
    obtain ⟨hc, hrest⟩ := h
    rw [escapedBytes_cons, List.length_append] at hfuel ⊢
    have hne := bytesOf_escapeChar_ne_nil c
    rcases escapeChar_read (b := b) c with ⟨t, ht, hreads⟩ | ⟨hplain, hbytes⟩
    · -- an escape: one round of the loop
      rw [ht] at hc hrest hfuel ⊢
      obtain ⟨f, rfl⟩ : ∃ f, fuel = f + 1 := ⟨fuel - 1, by simp at hfuel; omega⟩
      rw [readString_go_escape hreads hc, ih (by simpa [Nat.add_assoc, Nat.add_comm 1] using hrest)
        (by simp at hfuel; omega)]
      simp [Nat.add_assoc, Nat.add_comm 1, Array.append_assoc]
    · -- plain bytes: one round each
      rw [hplain] at hc hrest hfuel ⊢
      obtain ⟨f, rfl⟩ : ∃ f, fuel = f + (String.utf8EncodeChar c).length :=
        ⟨fuel - (String.utf8EncodeChar c).length, by omega⟩
      rw [readString_go_plain hbytes hc, ih hrest (by omega)]
      simp [Nat.add_assoc, Array.append_assoc]

theorem fromUTF8?_toByteArray (s : String) : String.fromUTF8? s.toByteArray = some s := by
  simp [String.fromUTF8?, s.isValidUTF8, String.fromUTF8]

theorem reads_readString (s : String) : Reads b (readString b) (escapedBytes s.toList ++ [34]) s := by
  intro i hi
  have hsize : i + (escapedBytes s.toList ++ [34]).length ≤ b.size := by
    have := (getElem?_eq_some_iff.mp (hi ((escapedBytes s.toList ++ [34]).length - 1) (by simp))).1
    simp at this ⊢
    omega
  have hgo := @readString_go_chars b s.toList #[] i (b.size + 1) hi (by simp at hsize; omega)
  unfold readString
  rw [cursor_bind_run hgo]
  have hdata : ByteArray.mk (#[] ++ (s.toList.flatMap String.utf8EncodeChar).toArray) = s.toByteArray := by
    apply ByteArray.ext
    rw [← Array.toList_inj, Array.toList_append, List.toList_toArray]
    simpa [bytesOf] using (bytesOf_toList s).symm
  simp only [hdata, fromUTF8?_toByteArray, Option.getD_some, List.length_append, List.length_singleton,
    Nat.add_assoc]
  rfl

end FleetTelemetry.Json
