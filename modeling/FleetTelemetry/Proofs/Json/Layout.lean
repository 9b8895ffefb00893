import FleetTelemetry.Proofs.Json.Reads

/-!
# Reading the printer's layout

The printer lays an object out as its opening brace, the members (key, colon, value text) with
a comma and a line break before each but the first, and the closing brace on a line of its own;
an array the same way with its elements. `membersText` and `itemsText` describe those layouts
with any blanks between the tokens, and the lemmas here read them:

* `readFieldMembers_run` reads the members of a record object, splitting them into the fields
  of the record and the members kept aside, and `reads_read_record` reads the whole record;
* `readItems_run` and `reads_read_list` do the same for a list of objects;
* `bytesOf_prettyAt_obj` and `bytesOf_prettyAt_arr` show the pretty printer's output is such a
  layout, and `readText_of_reads` turns a reading of a whole text into its decoding.
-/

namespace FleetTelemetry.Json

open Time (BytesAt bytesAt_append bytesAt_singleton)

variable {b : ByteArray}

def Blanks (l : List UInt8) : Prop := ∀ x ∈ l, isBlank x = true

theorem blanks_nil : Blanks [] := fun _ h => absurd h List.not_mem_nil

theorem blanks_space : Blanks [32] := fun x hx => by rw [List.mem_singleton.mp hx]; decide

theorem bytesOf_quote (s : String) : bytesOf (quote s) = 34 :: (escapedBytes s.toList ++ [34]) := by
  rw [quote, bytesOf_append, bytesOf_append, bytesOf_join, List.map_map]
  rfl

theorem Reads.of_eq {α : Type} {m : Cursor α} {l l' : List UInt8} {a : α} (h : Reads b m l a)
    (hl : l = l') : Reads b m l' a := hl ▸ h

theorem reads_read_string {pre : List UInt8} (hpre : Blanks pre) (depth : Nat) (s : String) :
    Reads b (Shape.read b depth .string) (pre ++ bytesOf (quote s)) (.str s) := by
  rw [bytesOf_quote, Shape.read.eq_3]
  exact Reads.skipBlanks_bind hpre (by decide) (Reads.bind (reads_advance 34) (reads_readString s).map)

theorem reads_read_parsed {pre : List UInt8} (hpre : Blanks pre) (depth : Nat) {expecting : String}
    {check : String → Option String} {s : String} (hs : check s = none) :
    Reads b (Shape.read b depth (.parsed expecting check)) (pre ++ bytesOf (quote s)) (.str s) := by
  rw [bytesOf_quote, Shape.read.eq_4]
  refine Reads.skipBlanks_bind hpre (by decide) (Reads.bind (reads_advance 34) ?_)
  refine (Reads.bind (reads_readString s) ?_).of_eq (List.append_nil _)
  simp only [hs]
  exact reads_pure _

theorem reads_readValue_string {pre : List UInt8} (hpre : Blanks pre) (depth : Nat) (s : String) :
    Reads b (readValue b depth) (pre ++ bytesOf (quote s)) (.str s) := by
  rw [bytesOf_quote]
  unfold readValue
  exact Reads.skipBlanks_bind hpre (by decide) (Reads.bind (reads_advance 34) (reads_readString s).map)

theorem reads_expectLiteral (l : List UInt8) : Reads b (expectLiteral b l) l () := by
  induction l with
  | nil => exact reads_pure ()
  | cons x l ih =>
    rw [expectLiteral]
    refine (Reads.bind reads_next ?_).of_eq (List.singleton_append)
    simp only [beq_self_eq_true, if_true]
    exact ih

theorem reads_read_option_null {pre : List UInt8} (hpre : Blanks pre) (depth : Nat) (inner : Shape) :
    Reads b (Shape.read b depth (.option inner)) (pre ++ [110, 117, 108, 108]) .null := by
  rw [Shape.read.eq_2]
  refine Reads.skipBlanks_bind hpre (by decide) (Reads.bind (reads_advance 110) ?_)
  exact (Reads.bind (reads_expectLiteral _) (reads_pure Json.null)).of_eq (List.append_nil _)

theorem reads_read_option_string {pre l : List UInt8} (hpre : Blanks pre) {depth : Nat}
    {inner : Shape} {w : Json} (h : Reads b (inner.read b depth) (34 :: l) w) :
    Reads b (Shape.read b depth (.option inner)) (pre ++ 34 :: l) w := by
  rw [Shape.read.eq_2]
  exact Reads.skipBlanks_bind hpre (by decide) h

/-! ### Objects -/

/-- A member's key as laid out: a comma unless it is the first, blanks, and the key's literal. -/
def keyText (gap : List UInt8) (first : Bool) (k : String) : List UInt8 :=
  (if first then [] else [44]) ++ gap ++ bytesOf (quote k)

/-- The members of an object as laid out after its opening brace: each key, the colon right
after it, and the value's text. -/
def membersText (gap : List UInt8) : Bool → List (String × List UInt8) → List UInt8
  | _, [] => []
  | first, (k, t) :: ms => keyText gap first k ++ [58] ++ t ++ membersText gap false ms

theorem reads_nextKey_key {gap : List UInt8} (hgap : Blanks gap) (first : Bool) (k : String) :
    Reads b (nextKey b first) (keyText gap first k) (some k) := by
  rw [keyText, bytesOf_quote, nextKey]
  cases first with
  | true =>
    refine (Reads.skipBlanks_bind (c := 34) (l := escapedBytes k.toList ++ [34]) hgap (by decide) ?_).of_eq
      (by simp)
    simp only [show ((34 : UInt8) == 125) = false by decide, show ((34 : UInt8) == 44) = false by decide,
      Bool.false_and, Bool.false_eq_true, if_false, if_true, beq_self_eq_true]
    exact (Reads.bind (reads_advance 34) (Reads.bind (reads_readString k) (reads_pure (some k)))).of_eq (by simp)
  | false =>
    refine (Reads.skipBlanks_bind (c := 44) (l := gap ++ 34 :: (escapedBytes k.toList ++ [34])) blanks_nil
      (by decide) ?_).of_eq (by simp)
    simp only [show ((44 : UInt8) == 125) = false by decide, Bool.not_false, Bool.and_true,
      beq_self_eq_true, Bool.false_eq_true, if_false, if_true]
    refine Reads.bind (reads_advance 44) (Reads.skipBlanks_bind hgap (by decide) ?_)
    exact (Reads.bind (reads_advance 34) (Reads.bind (reads_readString k) (reads_pure (some k)))).of_eq (by simp)

theorem nextKey_close_run {close : List UInt8} (hclose : Blanks close) (first : Bool) {i : Nat}
    (h : BytesAt b i (close ++ [125])) : nextKey b first i = .ok (none, i + close.length) := by
  rw [nextKey, cursor_bind_run (skipBlanks_run hclose (by decide) h)]
  rfl

theorem reads_expectColon : Reads b (expectColon b) [58] () :=
  Reads.skipBlanks_bind blanks_nil (by decide) (reads_advance 58)

def isFieldKey (fields : List (String × Shape × Option Json)) (k : String) : Bool :=
  fields.any (·.1 == k)

/-- A member's value text is read by the reader its key gets: the shape of the field it names,
or the plain reader when it names none. -/
def MemberReads (b : ByteArray) (depth : Nat) (fields : List (String × Shape × Option Json))
    (m : String × List UInt8 × Json) : Prop :=
  (∀ s d, (m.1, s, d) ∈ fields → Reads b (s.read b depth) m.2.1 m.2.2) ∧
    (isFieldKey fields m.1 = false → Reads b (readValue b depth) m.2.1 m.2.2)

def fieldMembers (fields : List (String × Shape × Option Json)) (ms : List (String × List UInt8 × Json)) :
    List (String × Json) :=
  (ms.filter fun m => isFieldKey fields m.1).map fun m => (m.1, m.2.2)

def otherMembers (fields : List (String × Shape × Option Json)) (ms : List (String × List UInt8 × Json)) :
    List (String × Json) :=
  (ms.filter fun m => !isFieldKey fields m.1).map fun m => (m.1, m.2.2)

theorem find?_field {fields : List (String × Shape × Option Json)} (hfields : (fields.map (·.1)).Nodup)
    {k : String} {s : Shape} {d : Option Json} (hmem : (k, s, d) ∈ fields)
    {p : String × Shape × Option Json → Bool} (hp : ∀ f s d, p (f, s, d) = (f == k)) :
    fields.find? p = some (k, s, d) := by
  obtain ⟨as, bs, rfl⟩ := List.append_of_mem hmem
  rw [List.find?_eq_some_iff_append]
  refine ⟨by simp [hp], as, bs, rfl, ?_⟩
  rintro ⟨f, s', d'⟩ hf
  have hk : k ∉ as.map (·.1) := by
    simp only [List.map_append, List.map_cons] at hfields
    exact fun hk => List.disjoint_of_nodup_append hfields hk List.mem_cons_self
  have hne : f ≠ k := fun h => hk (List.mem_map.mpr ⟨_, hf, h⟩)
  simp [hp, hne]

theorem find?_not_field {fields : List (String × Shape × Option Json)} {k : String}
    (hk : isFieldKey fields k = false) {p : String × Shape × Option Json → Bool}
    (hp : ∀ f s d, p (f, s, d) = (f == k)) : fields.find? p = none := by
  rw [List.find?_eq_none]
  rintro ⟨f, s, d⟩ hx
  simp only [isFieldKey, List.any_eq_false, beq_iff_eq] at hk
  simpa [hp] using hk _ hx

theorem any_key_eq_false {own : List (String × Json)} {k : String} (hown : ∀ x ∈ own, x.1 ≠ k)
    {p : String × Json → Bool} (hp : ∀ f v, p (f, v) = (f == k)) : own.any p = false := by
  rw [List.any_eq_false]
  rintro ⟨f, v⟩ hx
  simpa [hp] using hown _ hx

section Members

variable {depth : Nat} {fields : List (String × Shape × Option Json)} {gap : List UInt8}
  {first : Bool} {own rest : List (String × Json)} {k : String} {t : List UInt8} {w : Json}
  {i fuel : Nat}

theorem readFieldMembers_field_step (hfields : (fields.map (·.1)).Nodup) (hgap : Blanks gap)
    {s : Shape} {d : Option Json} (hmem : (k, s, d) ∈ fields) (ht : Reads b (s.read b depth) t w)
    (hown : ∀ x ∈ own, x.1 ≠ k) (h : BytesAt b i (keyText gap first k ++ [58] ++ t)) :
    Shape.readFieldMembers b depth fields first own rest (fuel + 1) i =
      Shape.readFieldMembers b depth fields false (own ++ [(k, w)]) rest fuel
        (i + (keyText gap first k ++ [58] ++ t).length) := by
  obtain ⟨hkc, hval⟩ := bytesAt_append.mp h
  obtain ⟨hkey, hcolon⟩ := bytesAt_append.mp hkc
  rw [List.length_append, ← Nat.add_assoc] at hval
  rw [Shape.readFieldMembers.eq_2, cursor_bind_run (reads_nextKey_key hgap first k _ hkey)]
  dsimp only
  rw [find?_field hfields hmem (fun _ _ _ => rfl)]
  dsimp only
  rw [any_key_eq_false hown (fun _ _ => rfl), if_neg Bool.false_ne_true,
    cursor_bind_run (reads_expectColon _ hcolon), cursor_bind_run (ht _ hval)]
  simp only [List.length_append, List.length_singleton, Nat.add_assoc]

theorem readFieldMembers_other_step (hgap : Blanks gap) (hk : isFieldKey fields k = false)
    (ht : Reads b (readValue b depth) t w) (h : BytesAt b i (keyText gap first k ++ [58] ++ t)) :
    Shape.readFieldMembers b depth fields first own rest (fuel + 1) i =
      Shape.readFieldMembers b depth fields false own (rest ++ [(k, w)]) fuel
        (i + (keyText gap first k ++ [58] ++ t).length) := by
  obtain ⟨hkc, hval⟩ := bytesAt_append.mp h
  obtain ⟨hkey, hcolon⟩ := bytesAt_append.mp hkc
  rw [List.length_append, ← Nat.add_assoc] at hval
  rw [Shape.readFieldMembers.eq_2, cursor_bind_run (reads_nextKey_key hgap first k _ hkey)]
  dsimp only
  rw [find?_not_field hk (fun _ _ _ => rfl)]
  dsimp only
  rw [cursor_bind_run (reads_expectColon _ hcolon), cursor_bind_run (ht _ hval)]
  simp only [List.length_append, List.length_singleton, Nat.add_assoc]

theorem isFieldKey_of_mem {k : String} {s : Shape} {d : Option Json} (hmem : (k, s, d) ∈ fields) :
    isFieldKey fields k = true :=
  List.any_eq_true.mpr ⟨_, hmem, beq_self_eq_true k⟩

theorem memberReads_field (hfields : (fields.map (·.1)).Nodup) {s : Shape} {d : Option Json}
    (hmem : (k, s, d) ∈ fields) (h : Reads b (s.read b depth) t w) :
    MemberReads b depth fields (k, t, w) := by
  refine ⟨fun s' d' hmem' => ?_, fun hk => ?_⟩
  · -- the keys are distinct, so the field under `k` is this one
    obtain ⟨-, rfl, -⟩ := Prod.mk.injEq _ _ _ _ ▸ List.inj_on_of_nodup_map hfields hmem hmem' rfl
    exact h
  · rw [isFieldKey_of_mem hmem] at hk
    exact Bool.noConfusion hk

theorem memberReads_other (hk : isFieldKey fields k = false) (h : Reads b (readValue b depth) t w) :
    MemberReads b depth fields (k, t, w) := by
  refine ⟨fun s d hmem => ?_, fun _ => h⟩
  rw [isFieldKey_of_mem hmem] at hk
  exact Bool.noConfusion hk

theorem fieldMembers_cons (m : String × List UInt8 × Json) (ms : List (String × List UInt8 × Json)) :
    fieldMembers fields (m :: ms) =
      (if isFieldKey fields m.1 then [(m.1, m.2.2)] else []) ++ fieldMembers fields ms := by
  by_cases h : isFieldKey fields m.1 <;> simp [fieldMembers, h]

theorem otherMembers_cons (m : String × List UInt8 × Json) (ms : List (String × List UInt8 × Json)) :
    otherMembers fields (m :: ms) =
      (if isFieldKey fields m.1 then [] else [(m.1, m.2.2)]) ++ otherMembers fields ms := by
  by_cases h : isFieldKey fields m.1 <;> simp [otherMembers, h]

/-- The members loop reads every member up to the closing brace: the members naming fields
become the fields read and the others are kept aside, both in reading order. The induction is
on the members; `own` gathers the fields read so far, none of which a later key repeats. -/
theorem readFieldMembers_run (hfields : (fields.map (·.1)).Nodup) (hgap : Blanks gap)
    {close : List UInt8} (hclose : Blanks close) (ms : List (String × List UInt8 × Json)) :
    (ms.map (·.1)).Nodup → (∀ m ∈ ms, MemberReads b depth fields m) →
      (∀ m ∈ ms, ∀ x ∈ own, x.1 ≠ m.1) →
      BytesAt b i (membersText gap first (ms.map fun m => (m.1, m.2.1)) ++ close ++ [125]) →
      ms.length < fuel →
      Shape.readFieldMembers b depth fields first own rest fuel i =
        .ok ((own ++ fieldMembers fields ms, rest ++ otherMembers fields ms),
          i + (membersText gap first (ms.map fun m => (m.1, m.2.1))).length + close.length) := by
  induction ms generalizing first own rest i fuel with
  | nil =>
    intro _ _ _ h hfuel
    obtain ⟨f, rfl⟩ : ∃ f, fuel = f + 1 := ⟨fuel - 1, by simp at hfuel; omega⟩
    rw [Shape.readFieldMembers.eq_2, cursor_bind_run (nextKey_close_run hclose first h)]
    simp [fieldMembers, otherMembers, membersText]
    rfl
  | cons m ms ih =>
    obtain ⟨k, t, w⟩ := m
    intro hnodup hreads hown h hfuel
    obtain ⟨f, rfl⟩ : ∃ f, fuel = f + 1 := ⟨fuel - 1, by simp at hfuel; omega⟩
    have h' : BytesAt b i ((keyText gap first k ++ [58] ++ t) ++
        (membersText gap false (ms.map fun m => (m.1, m.2.1)) ++ close ++ [125])) := by
      simpa only [List.map_cons, membersText, List.append_assoc] using h
    obtain ⟨hm, hrest⟩ := bytesAt_append.mp h'
    simp only [List.map_cons, List.nodup_cons, List.mem_map] at hnodup
    have hreads' : ∀ m ∈ ms, MemberReads b depth fields m :=
      fun m hm => hreads m (List.mem_cons_of_mem _ hm)
    have hfuel' : ms.length < f := by simp at hfuel; omega
    have hlen : (membersText gap first ((k, t, w) :: ms |>.map fun m => (m.1, m.2.1))).length =
        (keyText gap first k ++ [58] ++ t).length +
          (membersText gap false (ms.map fun m => (m.1, m.2.1))).length := by
      simp only [List.map_cons, membersText, List.length_append]
    cases hkf : isFieldKey fields k with
    | false =>
      rw [readFieldMembers_other_step hgap hkf ((hreads _ List.mem_cons_self).2 hkf) hm,
        ih hnodup.2 hreads' (fun m hm x hx => hown m (List.mem_cons_of_mem _ hm) x hx) hrest hfuel',
        fieldMembers_cons, otherMembers_cons, hlen]
      simp [hkf, Nat.add_assoc]
    | true =>
      obtain ⟨⟨f', s, d⟩, hx, hf⟩ := List.any_eq_true.mp hkf
      obtain rfl : f' = k := by simpa using hf
      have hown' : ∀ m ∈ ms, ∀ x ∈ own ++ [(f', w)], x.1 ≠ m.1 := by
        intro m hm x hx
        rcases List.mem_append.mp hx with hx | hx
        · exact hown m (List.mem_cons_of_mem _ hm) x hx
        · rw [List.mem_singleton.mp hx]
          exact fun he => hnodup.1 ⟨m, hm, he.symm⟩
      rw [readFieldMembers_field_step hfields hgap hx ((hreads _ List.mem_cons_self).1 s d hx)
          (fun x hx' => hown _ List.mem_cons_self x hx') hm,
        ih hnodup.2 hreads' hown' hrest hfuel', fieldMembers_cons, otherMembers_cons, hlen]
      simp [hkf, Nat.add_assoc]

theorem length_le_membersText (gap : List UInt8) (first : Bool) (ms : List (String × List UInt8)) :
    ms.length ≤ (membersText gap first ms).length := by
  induction ms generalizing first with
  | nil => simp [membersText]
  | cons m ms ih =>
    have := ih false
    simp only [membersText, keyText, bytesOf_quote, List.length_cons, List.length_append]
    omega

theorem reads_closeObject : Reads b (closeObject b) [125] () :=
  Reads.skipBlanks_bind blanks_nil (by decide) (reads_advance 125)

theorem BytesAt.le_size {l : List UInt8} (h : BytesAt b i l) (hl : l ≠ []) : i + l.length ≤ b.size := by
  have hlast := (getElem?_eq_some_iff.mp (h (l.length - 1) (by
    have := List.length_pos_iff.mpr hl
    omega))).1
  have := List.length_pos_iff.mpr hl
  omega

/-- A record written as an object reads as its fields in declaration order, then the
flattened fields of the members that name none of its own. -/
theorem reads_read_record {pre : List UInt8} (hpre : Blanks pre) {d : Nat} (name : String)
    (fields inline : List (String × Shape × Option Json)) (hfields : (fields.map (·.1)).Nodup)
    (hgap : Blanks gap) {close : List UInt8} (hclose : Blanks close)
    (ms : List (String × List UInt8 × Json)) (hnodup : (ms.map (·.1)).Nodup)
    (hreads : ∀ m ∈ ms, MemberReads b (d + 1) fields m) {ownFields flat : List (String × Json)}
    (hown : fillFields fields (fieldMembers fields ms) = .ok ownFields)
    (hflat : (Shape.decodeKnown inline [] (otherMembers fields ms) >>= fillFields inline) = .ok flat) :
    Reads b (Shape.read b (d + 2) (.record name fields inline))
      (pre ++ 123 :: (membersText gap true (ms.map fun m => (m.1, m.2.1)) ++ close ++ [125]))
      (.obj (ownFields ++ flat)) := by
  rw [Shape.read.eq_16]
  refine Reads.skipBlanks_bind hpre (by decide) (Reads.bind (reads_advance 123) ?_)
  intro i hbody
  have hend := bytesAt_append.mp hbody
  have hsize := BytesAt.le_size hbody (by simp)
  have hlen := length_le_membersText gap true (ms.map fun m => (m.1, m.2.1))
  rw [cursor_bind_run (readFieldMembers_run hfields hgap hclose ms
    hnodup hreads (fun _ _ _ h => absurd h List.not_mem_nil) hbody (by simp at hsize hlen ⊢; omega))]
  simp only [List.nil_append, hown, hflat]
  rw [cursor_bind_run (reads_closeObject _ (by simpa [Nat.add_assoc] using hend.2))]
  simp [Nat.add_assoc]
  rfl

end Members

/-! ### Arrays -/

/-- The elements of an array as laid out after its opening bracket: a comma before each but the
first, blanks, and the element's text. -/
def itemsText (gap : List UInt8) : Bool → List (List UInt8) → List UInt8
  | _, [] => []
  | first, t :: ts => (if first then [] else [44]) ++ gap ++ t ++ itemsText gap false ts

section Items

variable {depth : Nat} {inner : Shape} {gap : List UInt8} {first : Bool} {acc : Array Json}
  {i fuel : Nat}

theorem nextItem_object_run (hgap : Blanks gap)
    (h : BytesAt b i ((if first then [] else [44]) ++ gap ++ [123])) :
    nextItem b first i = .ok (true, i + ((if first then [] else [44]) ++ gap).length) := by
  rw [nextItem]
  cases first with
  | true =>
    simp only [if_true, List.nil_append] at h ⊢
    rw [cursor_bind_run (skipBlanks_run hgap (by decide) h)]
    rfl
  | false =>
    simp only [Bool.false_eq_true, if_false, List.cons_append, List.nil_append] at h ⊢
    obtain ⟨hcomma, hrest⟩ := Time.bytesAt_cons.mp h
    rw [cursor_bind_run (skipBlanks_run blanks_nil (by decide) (bytesAt_singleton.mpr hcomma))]
    simp only [show ((44 : UInt8) == 93) = false by decide, beq_self_eq_true, Bool.not_false,
      Bool.and_self, Bool.false_eq_true, if_false, if_true, List.length_nil, Nat.add_zero]
    rw [cursor_bind_run (advance_run _), cursor_bind_run (skipBlanks_run hgap (by decide) hrest)]
    simp only [List.length_cons, Nat.add_comm gap.length 1, Nat.add_assoc]
    rfl

theorem nextItem_close_run {close : List UInt8} (hclose : Blanks close)
    (h : BytesAt b i (close ++ [93])) : nextItem b first i = .ok (false, i + close.length) := by
  rw [nextItem, cursor_bind_run (skipBlanks_run hclose (by decide) h)]
  rfl

theorem reads_closeArray : Reads b (closeArray b) [93] () :=
  Reads.skipBlanks_bind blanks_nil (by decide) (reads_advance 93)

/-- One element written as an object: the blanks before it are skipped and its text is read by
the element shape. -/
theorem readItems_step (hgap : Blanks gap) {l : List UInt8} {w : Json}
    (ht : Reads b (inner.read b depth) (123 :: l) w)
    (h : BytesAt b i ((if first then [] else [44]) ++ gap ++ 123 :: l)) :
    Shape.readItems b depth inner first acc (fuel + 1) i =
      Shape.readItems b depth inner false (acc.push w) fuel
        (i + ((if first then [] else [44]) ++ gap ++ 123 :: l).length) := by
  obtain ⟨hsep, hval⟩ := bytesAt_append.mp h
  have hnext := nextItem_object_run hgap
    (bytesAt_append.mpr ⟨hsep, bytesAt_singleton.mpr (Time.bytesAt_cons.mp hval).1⟩)
  rw [Shape.readItems.eq_2, cursor_bind_run hnext]
  simp only [↓reduceIte]
  rw [cursor_bind_run (ht _ hval)]
  simp only [List.length_append, Nat.add_assoc]

theorem readItems_run (hgap : Blanks gap) {close : List UInt8} (hclose : Blanks close)
    (ts : List (List UInt8 × Json)) (hreads : ∀ t ∈ ts, Reads b (inner.read b depth) t.1 t.2)
    (hobj : ∀ t ∈ ts, t.1.head? = some 123) :
    BytesAt b i (itemsText gap first (ts.map (·.1)) ++ close ++ [93]) → ts.length < fuel →
      Shape.readItems b depth inner first acc fuel i =
        .ok (acc ++ (ts.map (·.2)).toArray,
          i + (itemsText gap first (ts.map (·.1))).length + close.length) := by
  induction ts generalizing first acc i fuel with
  | nil =>
    intro h hfuel
    obtain ⟨f, rfl⟩ : ∃ f, fuel = f + 1 := ⟨fuel - 1, by simp at hfuel; omega⟩
    rw [Shape.readItems.eq_2, cursor_bind_run (nextItem_close_run hclose h)]
    simp [itemsText]
    rfl
  | cons t ts ih =>
    obtain ⟨l, w⟩ := t
    intro h hfuel
    obtain ⟨f, rfl⟩ : ∃ f, fuel = f + 1 := ⟨fuel - 1, by simp at hfuel; omega⟩
    obtain ⟨l, rfl⟩ : ∃ l', l = 123 :: l' := by
      have := hobj _ List.mem_cons_self
      cases l with
      | nil => simp at this
      | cons c l' => simp at this; exact ⟨l', by rw [this]⟩
    have h' : BytesAt b i (((if first then [] else [44]) ++ gap ++ 123 :: l) ++
        (itemsText gap false (ts.map (·.1)) ++ close ++ [93])) := by
      simpa only [List.map_cons, itemsText, List.append_assoc] using h
    obtain ⟨hitem, hrest⟩ := bytesAt_append.mp h'
    rw [readItems_step hgap (hreads _ List.mem_cons_self) hitem,
      ih (fun t ht => hreads t (List.mem_cons_of_mem _ ht)) (fun t ht => hobj t (List.mem_cons_of_mem _ ht))
        hrest (by simp at hfuel; omega)]
    simp [itemsText, Nat.add_assoc]
    omega

theorem length_le_itemsText (gap : List UInt8) (first : Bool) (ts : List (List UInt8))
    (hts : ∀ t ∈ ts, t ≠ []) :
    ts.length ≤ (itemsText gap first ts).length := by
  induction ts generalizing first with
  | nil => simp [itemsText]
  | cons t ts ih =>
    have := ih false (fun t ht => hts t (List.mem_cons_of_mem _ ht))
    have hpos := List.length_pos_iff.mpr (hts t List.mem_cons_self)
    simp only [itemsText, List.length_cons, List.length_append]
    omega

end Items

theorem reads_read_list {pre : List UInt8} (hpre : Blanks pre) {d : Nat} {inner : Shape}
    {gap close : List UInt8} (hgap : Blanks gap) (hclose : Blanks close) (ts : List (List UInt8 × Json))
    (hreads : ∀ t ∈ ts, Reads b (inner.read b (d + 1)) t.1 t.2) (hobj : ∀ t ∈ ts, t.1.head? = some 123) :
    Reads b (Shape.read b (d + 2) (.list inner))
      (pre ++ 91 :: (itemsText gap true (ts.map (·.1)) ++ close ++ [93])) (.arr (ts.map (·.2))) := by
  rw [Shape.read.eq_10]
  refine Reads.skipBlanks_bind hpre (by decide) (Reads.bind (reads_advance 91) ?_)
  intro i hbody
  have hend := bytesAt_append.mp hbody
  have hsize := BytesAt.le_size hbody (by simp)
  have hne : ∀ t ∈ ts.map (·.1), t ≠ [] := by
    simp only [List.mem_map]
    rintro _ ⟨t, ht, rfl⟩ hnil
    simpa [hnil] using hobj t ht
  have hlen := length_le_itemsText gap true _ hne
  rw [cursor_bind_run (readItems_run hgap hclose ts hreads hobj hbody (by simp at hsize hlen ⊢; omega))]
  rw [cursor_bind_run (reads_closeArray _ (by simpa [Nat.add_assoc] using hend.2))]
  simp [Nat.add_assoc]
  rfl

/-! ### The pretty layout -/

/-- The line break and indentation the pretty printer puts before a line at a nesting level. -/
def lineBreak (level : Nat) : List UInt8 := 10 :: List.replicate (2 * level) 32

theorem lineBreak_blanks (level : Nat) : Blanks (lineBreak level) := by
  intro x hx
  rcases List.mem_cons.mp hx with rfl | hx
  · decide
  · rw [List.eq_of_mem_replicate hx]
    decide

theorem bytesOf_indent (n : Nat) : bytesOf (indent n) = List.replicate (2 * n) 32 := by
  rw [indent, bytesOf_ofList_ascii (fun c hc => by rw [List.eq_of_mem_replicate hc]; decide),
    List.map_replicate]
  rfl

theorem bytesOf_intercalate (sep x : String) (xs : List String) :
    bytesOf (sep.intercalate (x :: xs)) = bytesOf x ++ (xs.map fun y => bytesOf sep ++ bytesOf y).flatten := by
  induction xs generalizing x with
  | nil => simp [String.intercalate_singleton]
  | cons y ys ih => rw [String.intercalate_cons_cons, bytesOf_append, bytesOf_append, ih]; simp

theorem membersText_false (gap : List UInt8) (ms : List (String × List UInt8)) :
    membersText gap false ms = (ms.map fun m => keyText gap false m.1 ++ [58] ++ m.2).flatten := by
  induction ms with
  | nil => rfl
  | cons m ms ih => simp [membersText, ih]

theorem itemsText_false (gap : List UInt8) (ts : List (List UInt8)) :
    itemsText gap false ts = (ts.map fun t => 44 :: (gap ++ t)).flatten := by
  induction ts with
  | nil => rfl
  | cons t ts ih => simp [itemsText, ih]

theorem prettyAt_str (level : Nat) (s : String) : prettyAt level (.str s) = quote s := by
  rw [prettyAt.eq_5 level (.str s) (fun h => by cases h) (fun h => by cases h) (fun _ h => by cases h)
    (fun _ h => by cases h), compact.eq_4]

theorem prettyAt_null (level : Nat) : prettyAt level .null = "null" := by
  rw [prettyAt.eq_5 level .null (fun h => by cases h) (fun h => by cases h) (fun _ h => by cases h)
    (fun _ h => by cases h), compact.eq_1]

theorem bytesOf_prettyAt_obj (level : Nat) {ms : List (String × Json)} (h : ms ≠ []) :
    bytesOf (prettyAt level (.obj ms)) =
      123 :: (membersText (lineBreak (level + 1)) true
        (ms.map fun m => (m.1, 32 :: bytesOf (prettyAt (level + 1) m.2))) ++ lineBreak level ++ [125]) := by
  obtain ⟨m, ms, rfl⟩ := List.exists_cons_of_ne_nil h
  rw [prettyAt.eq_4 level _ h, List.map_attach_eq_pmap]
  simp only [List.pmap_eq_map]
  rw [List.map_cons, bytesOf_append, bytesOf_append, bytesOf_append, bytesOf_append, bytesOf_intercalate,
    List.map_cons, membersText, membersText_false, List.map_map]
  simp [Function.comp_def, keyText, lineBreak, bytesOf_append, bytesOf_indent, show bytesOf "\x7b\n" = [123, 10] by decide,
    show bytesOf ",\n" = [44, 10] by decide, show bytesOf ": " = [58, 32] by decide,
    show bytesOf "\n" = [10] by decide, show bytesOf "\x7d" = [125] by decide]

theorem bytesOf_prettyAt_arr (level : Nat) {xs : List Json} (h : xs ≠ []) :
    bytesOf (prettyAt level (.arr xs)) =
      91 :: (itemsText (lineBreak (level + 1)) true (xs.map fun x => bytesOf (prettyAt (level + 1) x)) ++
        lineBreak level ++ [93]) := by
  obtain ⟨x, xs, rfl⟩ := List.exists_cons_of_ne_nil h
  rw [prettyAt.eq_3 level _ h, List.map_attach_eq_pmap]
  simp only [List.pmap_eq_map]
  rw [List.map_cons, bytesOf_append, bytesOf_append, bytesOf_append, bytesOf_append, bytesOf_intercalate,
    List.map_cons, itemsText, itemsText_false, List.map_map]
  simp [Function.comp_def, lineBreak, bytesOf_append, bytesOf_indent, show bytesOf "[\n" = [91, 10] by decide,
    show bytesOf ",\n" = [44, 10] by decide, show bytesOf "\n" = [10] by decide,
    show bytesOf "]" = [93] by decide]

theorem bytesOf_prettyAt_nil (level : Nat) : bytesOf (prettyAt level (.arr [])) = [91, 93] := by
  rw [prettyAt.eq_1]
  decide

/-! ### Whole texts -/

theorem bytesAt_bytesOf (s : String) : BytesAt s.toUTF8 0 (bytesOf s) := by
  intro n hn
  simp only [bytesOf, Array.length_toList, ByteArray.size_data, String.size_toByteArray] at hn
  rw [Nat.zero_add, String.toUTF8_eq_toByteArray, getElem?_pos s.toByteArray n (by simpa using hn)]
  rfl

theorem skipBlanks_end : skipBlanks b b.size = .ok (none, b.size) := by
  show (do let i ← get; let j := skipBlanks.go b i (b.size - i); set j; peek b : Cursor _) b.size = _
  simp only [bind, StateT.bind, get, getThe, MonadStateOf.get, StateT.get, set, StateT.set, pure,
    Except.pure, Except.bind, Nat.sub_self, skipBlanks.go]
  rw [peek_run]
  simp

theorem readText_of_reads {shape : Shape} {s : String} {w : Json}
    (h : Reads s.toUTF8 (shape.read s.toUTF8 depthLimit) (bytesOf s) w) : shape.readText s = .ok w := by
  have hsize : (bytesOf s).length = s.toUTF8.size := by
    simp [bytesOf, String.toUTF8_eq_toByteArray]
  have hend : expectEnd s.toUTF8 s.toUTF8.size = .ok ((), s.toUTF8.size) := by
    rw [expectEnd, cursor_bind_run skipBlanks_end]
    rfl
  unfold Shape.readText
  simp only [StateT.run']
  rw [cursor_bind_run (h 0 (bytesAt_bytesOf s)), Nat.zero_add, hsize, cursor_bind_run hend]
  rfl

/-! ### Member values and records in pretty layout -/

/-! ### Member values as the pretty printer writes them, a blank after the colon -/

section Values

variable {level depth : Nat}

theorem reads_string_value (s : String) :
    Reads b (Shape.read b depth .string) (32 :: bytesOf (prettyAt level (.str s))) (.str s) :=
  (reads_read_string blanks_space depth s).of_eq (by rw [prettyAt_str]; rfl)

theorem reads_plain_string_value (s : String) :
    Reads b (readValue b depth) (32 :: bytesOf (prettyAt level (.str s))) (.str s) :=
  (reads_readValue_string blanks_space depth s).of_eq (by rw [prettyAt_str]; rfl)

theorem reads_parsed_value {expecting : String} {check : String → Option String} {s : String}
    (hs : check s = none) :
    Reads b (Shape.read b depth (.parsed expecting check)) (32 :: bytesOf (prettyAt level (.str s)))
      (.str s) :=
  (reads_read_parsed blanks_space depth hs).of_eq (by rw [prettyAt_str]; rfl)

theorem reads_option_value {inner : Shape} {s : String}
    (h : Reads b (inner.read b depth) (bytesOf (quote s)) (.str s)) :
    Reads b (Shape.read b depth (.option inner)) (32 :: bytesOf (prettyAt level (.str s))) (.str s) := by
  rw [prettyAt_str, bytesOf_quote] at *
  exact reads_read_option_string blanks_space h

theorem reads_option_null_value {inner : Shape} :
    Reads b (Shape.read b depth (.option inner)) (32 :: bytesOf (prettyAt level .null)) .null :=
  (reads_read_option_null blanks_space depth inner).of_eq (by rw [prettyAt_null]; rfl)

end Values

theorem decodeKnown_strings (fields : List (String × Shape × Option Json))
    (hfields : (fields.map (·.1)).Nodup) (ms : List (String × String))
    (hmem : ∀ m ∈ ms, (m.1, Shape.string, none) ∈ fields) (hnodup : (ms.map (·.1)).Nodup) :
    Shape.decodeKnown fields [] (ms.map fun m => (m.1, .str m.2)) = .ok (ms.map fun m => (m.1, .str m.2)) := by
  induction ms with
  | nil => rw [List.map_nil, Shape.decodeKnown.eq_1]
  | cons m ms ih =>
    simp only [List.map_cons, List.nodup_cons, List.mem_map] at hnodup ⊢
    rw [Shape.decodeKnown.eq_2]
    simp only [List.contains_nil, Bool.false_eq_true, if_false]
    rw [find?_field hfields (hmem m List.mem_cons_self) (fun _ _ _ => rfl)]
    dsimp only
    rw [Shape.ofJson.eq_2, ih (fun m' hm' => hmem m' (List.mem_cons_of_mem _ hm')) hnodup.2]
    have hfresh : ((ms.map fun m => (m.1, Json.str m.2)).any fun x => x.1 == m.1) = false := by
      simp only [List.any_map, List.any_eq_false, Function.comp_def, beq_iff_eq]
      exact fun m' hm' he => hnodup.1 ⟨m', hm', he⟩
    simp [bind, Except.bind, hfresh, pure, Except.pure]

theorem bind_eq_ok {ε α β : Type} {m : Except ε α} {f : α → Except ε β} {v : β} (h : (m >>= f) = .ok v) :
    ∃ a, m = .ok a ∧ f a = .ok v := by
  cases m with
  | error err => cases h
  | ok a => exact ⟨a, rfl, h⟩

theorem mapM_cons_ok {ε α β : Type} {f : α → Except ε β} {x : α} {xs : List α} {js : List β}
    (h : (x :: xs).mapM f = .ok js) : ∃ j js', f x = .ok j ∧ xs.mapM f = .ok js' ∧ js = j :: js' := by
  rw [List.mapM_cons] at h
  cases hx : f x with
  | error err => simp only [hx, bind, Except.bind, reduceCtorEq] at h
  | ok j =>
    cases hxs : xs.mapM f with
    | error err => simp only [hx, hxs, bind, Except.bind, reduceCtorEq] at h
    | ok js' =>
      simp only [hx, hxs, bind, Except.bind, pure, Except.pure, Except.ok.injEq] at h
      exact ⟨j, js', rfl, rfl, h.symm⟩

section Records

variable {α : Type} {inner : Shape} {write : α → Except String Json} {read : Json → α} {level d : Nat}

/-- Records written one after the other each read back: the elements' texts, what they read as,
and what that stands for, element by element. -/
theorem items_of_mapM
    (hone : ∀ x j, write x = .ok j →
      ∃ w, Reads b (inner.read b (d + 1)) (bytesOf (prettyAt (level + 1) j)) w ∧ read w = x)
    (hobj : ∀ x j, write x = .ok j → ∃ ms, ms ≠ [] ∧ j = .obj ms) :
    ∀ (xs : List α) {js : List Json}, xs.mapM write = .ok js →
      ∃ ts : List (List UInt8 × Json), ts.map (·.1) = js.map (fun j => bytesOf (prettyAt (level + 1) j)) ∧
        (∀ t ∈ ts, Reads b (inner.read b (d + 1)) t.1 t.2) ∧ (∀ t ∈ ts, t.1.head? = some 123) ∧
        (ts.map (·.2)).map read = xs
  | [], js, h => by
    obtain rfl : js = [] := by simpa [pure, Except.pure] using h.symm
    exact ⟨[], rfl, by simp, by simp, rfl⟩
  | x :: xs, js, h => by
    obtain ⟨j, js', hx, hxs, rfl⟩ := mapM_cons_ok h
    obtain ⟨ts, htexts, hreads, hheads, hvals⟩ := items_of_mapM hone hobj xs hxs
    obtain ⟨w, hw, hread⟩ := hone x j hx
    obtain ⟨ms, hms, rfl⟩ := hobj x j hx
    refine ⟨(bytesOf (prettyAt (level + 1) (.obj ms)), w) :: ts, by simp [htexts], ?_, ?_, by simp [hvals, hread]⟩
    · simp only [List.mem_cons, forall_eq_or_imp]
      exact ⟨hw, hreads⟩
    · simp only [List.mem_cons, forall_eq_or_imp]
      exact ⟨by rw [bytesOf_prettyAt_obj _ hms]; rfl, hheads⟩

/-- A list of records written by `write` reads back as records that `read` takes back to what
was written. -/
theorem reads_record_list
    (hone : ∀ x j, write x = .ok j →
      ∃ w, Reads b (inner.read b (d + 1)) (bytesOf (prettyAt (level + 1) j)) w ∧ read w = x)
    (hobj : ∀ x j, write x = .ok j → ∃ ms, ms ≠ [] ∧ j = .obj ms) {pre : List UInt8} (hpre : Blanks pre)
    {xs : List α} {js : List Json} (h : xs.mapM write = .ok js) :
    ∃ ws, Reads b ((Shape.list inner).read b (d + 2)) (pre ++ bytesOf (prettyAt level (.arr js))) (.arr ws) ∧
      ws.map read = xs := by
  obtain ⟨ts, htexts, hreads, hheads, hvals⟩ := items_of_mapM hone hobj xs h
  refine ⟨ts.map (·.2), ?_, hvals⟩
  cases js with
  | nil =>
    obtain rfl : ts = [] := by simpa using htexts
    rw [bytesOf_prettyAt_nil]
    exact reads_read_list hpre (lineBreak_blanks 0) blanks_nil []
      (by simp) (by simp)
  | cons j js =>
    rw [bytesOf_prettyAt_arr level (List.cons_ne_nil _ _), ← htexts]
    exact reads_read_list hpre (lineBreak_blanks (level + 1)) (lineBreak_blanks level) ts hreads hheads

end Records

end FleetTelemetry.Json
