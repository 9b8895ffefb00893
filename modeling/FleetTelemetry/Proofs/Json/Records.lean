import FleetTelemetry.Proofs.Json.Layout

/-!
# Records decoded from values

A record decoder takes a record's fields from an object, by key, or from an array, by position.
From an object it decodes the members that name fields, ignores every other member and rejects a
field named twice; a field without a member takes its default. From an array it decodes the
elements in field order; a longer array is rejected, a shorter one leaves the later fields their
defaults.

`fieldSource` says where each field's value comes from and `decodeFields` decodes the fields
from there. The main statement, `record_ofJson_toOption`, says that a record is decoded exactly
when its value is a field source from which every field decodes, and that it is then the object
of the decoded fields in declaration order. Messages are not described: only whether decoding
succeeds and what it gives.
-/

namespace FleetTelemetry.Json

def atPosition (names : List String) (xs : List Json) (k : String) : Option Json :=
  (names.idxOf? k).bind (xs[·]?)

/-- Where a record decoder takes each field from: the member under its key in an object that
names each field at most once, or the element at its position in an array no longer than the
record. No other value holds a record. -/
def fieldSource (names : List String) : Json → Option (String → Option Json)
  | .obj ms =>
    if ((ms.map (·.1)).filter fun k => names.contains k).Nodup then some fun k => ms.lookup k else none
  | .arr xs => if xs.length ≤ names.length then some (atPosition names xs) else none
  | _ => none

/-- A field decoded from a source: the value given for it, read by its shape, else its default. -/
def decodeField (get : String → Option Json) (f : String × Shape × Option Json) : Option Json :=
  match get f.1 with
  | some x => (f.2.1.ofJson x).toOption
  | none => f.2.2

def decodeFields (get : String → Option Json) :
    List (String × Shape × Option Json) → Option (List (String × Json))
  | [] => some []
  | f :: fs => do
    let y ← decodeField get f
    let rest ← decodeFields get fs
    pure ((f.1, y) :: rest)

section Fields

variable {fields : List (String × Shape × Option Json)}

theorem decodeFields_congr {get get' : String → Option Json} :
    ∀ {fields : List (String × Shape × Option Json)}, (∀ f ∈ fields, get f.1 = get' f.1) →
      decodeFields get fields = decodeFields get' fields
  | [], _ => rfl
  | f :: fs, h => by
    have hf : decodeField get f = decodeField get' f := by
      simp only [decodeField, h f List.mem_cons_self]
    simp only [decodeFields, hf, decodeFields_congr fun g hg => h g (List.mem_cons_of_mem _ hg)]

/-- A missing field whose shape is optional counts as its explicit default. -/
def ExplicitDefaults (fields : List (String × Shape × Option Json)) : Prop :=
  ∀ f ∈ fields, fieldDefault f.2 = f.2.2

theorem decodeFields_eq_none {get : String → Option Json} :
    ∀ {fields : List (String × Shape × Option Json)} {f : String × Shape × Option Json}, f ∈ fields →
      decodeField get f = none → decodeFields get fields = none
  | g :: gs, f, hf, hnone => by
    rcases List.mem_cons.mp hf with rfl | hf
    · simp [decodeFields, hnone]
    · cases hg : decodeField get g <;> simp [decodeFields, hg, decodeFields_eq_none hf hnone]

theorem decodeFields_cons_eq_some {get : String → Option Json} {f : String × Shape × Option Json}
    {ys : List (String × Json)} :
    decodeFields get (f :: fields) = some ys ↔
      ∃ y rest, decodeField get f = some y ∧ decodeFields get fields = some rest ∧ ys = (f.1, y) :: rest := by
  simp only [decodeFields, Option.bind_eq_bind, Option.bind_eq_some_iff, Option.pure_def,
    Option.some.injEq]
  constructor
  · rintro ⟨y, hy, rest, hrest, rfl⟩
    exact ⟨y, rest, hy, hrest, rfl⟩
  · rintro ⟨y, rest, hy, hrest, rfl⟩
    exact ⟨y, hy, rest, hrest, rfl⟩

theorem decodeField_required {get : String → Option Json} {k : String} {s : Shape} {y : Json} :
    decodeField get (k, s, none) = some y ↔ ∃ x, get k = some x ∧ (s.ofJson x).toOption = some y := by
  unfold decodeField
  cases get k <;> simp

end Fields

/-! ### From an object -/

section Object

variable {fields : List (String × Shape × Option Json)}

def fieldKeys (fields : List (String × Shape × Option Json)) (ms : List (String × Json)) : List String :=
  (ms.map (·.1)).filter fun k => (fields.map (·.1)).contains k

theorem contains_names (k : String) : (fields.map (·.1)).contains k = isFieldKey fields k := by
  rw [Bool.eq_iff_iff]
  simp [isFieldKey]

theorem fieldKeys_cons_field {k : String} {x : Json} (ms : List (String × Json))
    (hk : isFieldKey fields k = true) : fieldKeys fields ((k, x) :: ms) = k :: fieldKeys fields ms := by
  simp only [fieldKeys, List.map_cons, List.filter_cons, contains_names, hk, if_true]

theorem fieldKeys_cons_other {k : String} {x : Json} (ms : List (String × Json))
    (hk : isFieldKey fields k = false) : fieldKeys fields ((k, x) :: ms) = fieldKeys fields ms := by
  simp only [fieldKeys, List.map_cons, List.filter_cons, contains_names, hk, Bool.false_eq_true, if_false]

theorem decodeKnown_no_fields (taken : List String) :
    ∀ ms : List (String × Json), Shape.decodeKnown [] taken ms = .ok []
  | [] => by rw [Shape.decodeKnown.eq_1]
  | (k, x) :: ms => by
    rw [Shape.decodeKnown.eq_2]
    by_cases hk : taken.contains k = true
    · rw [if_pos hk, decodeKnown_no_fields taken ms]
    · rw [if_neg hk]
      exact decodeKnown_no_fields taken ms

theorem recordOfMembers_eq (ms : List (String × Json)) :
    Shape.recordOfMembers fields [] ms =
      (Shape.decodeKnown fields [] ms >>= fun found => (fun own => Json.obj own) <$> fillFields fields found) := by
  rw [Shape.recordOfMembers, decodeKnown_no_fields]
  cases hfound : Shape.decodeKnown fields [] ms with
  | error e => rfl
  | ok found =>
    cases hown : fillFields fields found with
    | error e => simp [bind, Except.bind, hown, Functor.map, Except.map]
    | ok own => simp [bind, Except.bind, fillFields, hown, pure, Except.pure, Functor.map, Except.map]

theorem mem_fieldKeys_of_lookup {ms : List (String × Json)} {k : String} {x : Json}
    (hk : isFieldKey fields k = true) (h : ms.lookup k = some x) : k ∈ fieldKeys fields ms := by
  obtain ⟨p, hp, hpk⟩ := List.lookup_isSome_iff.mp (Option.isSome_iff_exists.mpr ⟨x, h⟩)
  simp only [fieldKeys, List.mem_filter, List.mem_map, contains_names]
  exact ⟨⟨p, hp, (beq_iff_eq.mp hpk).symm⟩, hk⟩

theorem mem_keys_iff_lookup_isSome' (l : List (String × Json)) (k : String) :
    k ∈ l.map (·.1) ↔ (l.lookup k).isSome := by
  rw [List.lookup_isSome_iff, List.mem_map]
  exact ⟨fun ⟨p, hp, hk⟩ => ⟨p, hp, beq_iff_eq.mpr hk.symm⟩,
    fun ⟨p, hp, hk⟩ => ⟨p, hp, (beq_iff_eq.mp hk).symm⟩⟩

theorem field_eq_of_key_eq (hfields : (fields.map (·.1)).Nodup) {f g : String × Shape × Option Json}
    (hf : f ∈ fields) (hg : g ∈ fields) (h : f.1 = g.1) : f = g :=
  List.inj_on_of_nodup_map hfields hf hg h

/-- What a successful pass over an object's members found: a decoded value for each member
naming a field, in member order; no field named twice; and under each field's key the decoding
of its member. The induction is on the members. -/
theorem decodeKnown_ok (hfields : (fields.map (·.1)).Nodup) :
    ∀ {ms found : List (String × Json)}, Shape.decodeKnown fields [] ms = .ok found →
      found.map (·.1) = fieldKeys fields ms ∧ (fieldKeys fields ms).Nodup ∧
        ∀ f ∈ fields, found.lookup f.1 = (ms.lookup f.1).bind fun x => (f.2.1.ofJson x).toOption
  | [], found, h => by
    rw [Shape.decodeKnown.eq_1] at h
    cases h
    simp [fieldKeys]
  | (k, x) :: ms, found, h => by
    rw [Shape.decodeKnown.eq_2] at h
    simp only [List.contains_nil, Bool.false_eq_true, if_false] at h
    cases hk : isFieldKey fields k with
    | false =>
      rw [find?_not_field hk (fun _ _ _ => rfl)] at h
      obtain ⟨hkeys, hnodup, hlook⟩ := decodeKnown_ok hfields h
      refine ⟨by rw [hkeys, fieldKeys_cons_other ms hk], by rwa [fieldKeys_cons_other ms hk], ?_⟩
      rintro ⟨fk, fs, fd⟩ hf
      have hne : (fk == k) = false := beq_false_of_ne fun he => by
        rw [← he, isFieldKey_of_mem hf] at hk
        cases hk
      simp only [List.lookup_cons, hne, hlook _ hf]
    | true =>
      obtain ⟨⟨k', s, d⟩, hmem, hk'⟩ := List.any_eq_true.mp hk
      obtain rfl : k = k' := (beq_iff_eq.mp hk').symm
      rw [find?_field hfields hmem (fun _ _ _ => rfl)] at h
      dsimp only at h
      obtain ⟨y, hy, h⟩ := bind_eq_ok h
      obtain ⟨r, hr, h⟩ := bind_eq_ok h
      obtain ⟨hkeys, hnodup, hlook⟩ := decodeKnown_ok hfields hr
      generalize hany : List.any r _ = repeated at h
      cases repeated with
      | true => cases h
      | false =>
        cases h
        refine ⟨by rw [List.map_cons, hkeys, fieldKeys_cons_field ms hk], ?_, ?_⟩
        · -- the field is named once: no later member names it
          rw [fieldKeys_cons_field ms hk, List.nodup_cons]
          refine ⟨fun hmem' => ?_, hnodup⟩
          rw [← hkeys] at hmem'
          obtain ⟨⟨k₁, v₁⟩, hr₁, rfl⟩ := List.mem_map.mp hmem'
          exact List.any_eq_false.mp hany _ hr₁ (beq_self_eq_true k₁)
        · rintro ⟨fk, fs, fd⟩ hf
          by_cases he : fk = k
          · obtain ⟨rfl, rfl, rfl⟩ : fk = k ∧ fs = s ∧ fd = d := by
              simpa using field_eq_of_key_eq hfields hf hmem he
            simp [hy, Except.toOption]
          · simp only [List.lookup_cons, beq_false_of_ne he, hlook _ hf]

/-- When no field is named twice and every member naming a field decodes, the pass over the
members succeeds. -/
theorem decodeKnown_complete (hfields : (fields.map (·.1)).Nodup) :
    ∀ {ms : List (String × Json)}, (fieldKeys fields ms).Nodup →
      (∀ f ∈ fields, ∀ x, ms.lookup f.1 = some x → ∃ y, f.2.1.ofJson x = .ok y) →
        ∃ found, Shape.decodeKnown fields [] ms = .ok found
  | [], _, _ => ⟨[], by rw [Shape.decodeKnown.eq_1]⟩
  | (k, x) :: ms, hnodup, hdec => by
    rw [Shape.decodeKnown.eq_2]
    simp only [List.contains_nil, Bool.false_eq_true, if_false]
    cases hk : isFieldKey fields k with
    | false =>
      rw [find?_not_field hk (fun _ _ _ => rfl)]
      rw [fieldKeys_cons_other ms hk] at hnodup
      refine decodeKnown_complete hfields hnodup fun f hf x' hx' => hdec f hf x' ?_
      obtain ⟨fk, fs, fd⟩ := f
      have hne : (fk == k) = false := beq_false_of_ne fun he => by
        rw [← he, isFieldKey_of_mem hf] at hk
        cases hk
      simpa only [List.lookup_cons, hne] using hx'
    | true =>
      obtain ⟨⟨k', s, d⟩, hmem, hk'⟩ := List.any_eq_true.mp hk
      obtain rfl : k = k' := (beq_iff_eq.mp hk').symm
      rw [find?_field hfields hmem (fun _ _ _ => rfl)]
      dsimp only
      rw [fieldKeys_cons_field ms hk, List.nodup_cons] at hnodup
      obtain ⟨y, hy⟩ := hdec (k, s, d) hmem x (by simp)
      have hrest : ∀ f ∈ fields, ∀ x', ms.lookup f.1 = some x' → ∃ y, f.2.1.ofJson x' = .ok y := by
        rintro ⟨fk, fs, fd⟩ hf x' hx'
        by_cases he : fk = k
        · -- a field named once has no later member
          subst he
          exact absurd (mem_fieldKeys_of_lookup hk hx') hnodup.1
        · exact hdec _ hf x' (by simpa only [List.lookup_cons, beq_false_of_ne he] using hx')
      obtain ⟨r, hr⟩ := decodeKnown_complete hfields hnodup.2 hrest
      obtain ⟨hkeys, -, -⟩ := decodeKnown_ok hfields hr
      refine ⟨(k, y) :: r, ?_⟩
      simp only [hy, hr, bind, Except.bind]
      -- no member decoded after this one names its field
      generalize hany : List.any r _ = repeated
      cases repeated with
      | false => rfl
      | true =>
        obtain ⟨⟨k₁, v₁⟩, hr₁, hk₁⟩ := List.any_eq_true.mp hany
        have hk₁ : k₁ = k := beq_iff_eq.mp hk₁
        subst hk₁
        exact absurd (hkeys ▸ List.mem_map_of_mem hr₁) hnodup.1

/-- Filling in the fields found: a field found keeps its value and any other takes its default.
When what was found under each field is the decoding of what a source gives for it, that is
decoding the fields from the source. -/
theorem fillFields_toOption {found : List (String × Json)} {get : String → Option Json} :
    ∀ {fields : List (String × Shape × Option Json)}, ExplicitDefaults fields →
      (∀ f ∈ fields, found.lookup f.1 = (get f.1).bind fun x => (f.2.1.ofJson x).toOption) →
      (∀ f ∈ fields, ∀ x, get f.1 = some x → ∃ y, f.2.1.ofJson x = .ok y) →
        (fillFields fields found).toOption = decodeFields get fields
  | [], _, _, _ => rfl
  | (k, s, d) :: fs, hdef, hlook, hdec => by
    have ih := fillFields_toOption (fun f hf => hdef f (List.mem_cons_of_mem _ hf))
      (fun f hf => hlook f (List.mem_cons_of_mem _ hf)) (fun f hf => hdec f (List.mem_cons_of_mem _ hf))
    have hfirst : (match found.lookup k with
        | some v => some v
        | none => fieldDefault (s, d)) = decodeField get (k, s, d) := by
      cases hg : get k with
      | some x =>
        obtain ⟨y, hy⟩ := hdec _ List.mem_cons_self x hg
        simp [hlook _ List.mem_cons_self, hg, hy, decodeField, Except.toOption]
      | none =>
        simp [hlook _ List.mem_cons_self, hg, decodeField, hdef _ List.mem_cons_self]
    rw [fillFields, decodeFields, ← ih, ← hfirst]
    cases found.lookup k with
    | some v => cases fillFields fs found <;> rfl
    | none =>
      cases fieldDefault (s, d) with
      | none => rfl
      | some v => cases fillFields fs found <;> rfl

/-- A record read from an object: decoded exactly when no field is named twice and every
member naming a field decodes, to the object of its fields from the members. -/
theorem recordOfMembers_toOption (hfields : (fields.map (·.1)).Nodup) (hdef : ExplicitDefaults fields)
    (ms : List (String × Json)) :
    (Shape.recordOfMembers fields [] ms).toOption =
      (fieldSource (fields.map (·.1)) (.obj ms)).bind fun get => Json.obj <$> decodeFields get fields := by
  rw [recordOfMembers_eq]
  by_cases hnodup : (fieldKeys fields ms).Nodup
  · have hsrc : fieldSource (fields.map (·.1)) (.obj ms) = some fun k => ms.lookup k := if_pos hnodup
    rw [hsrc, Option.bind_some]
    by_cases hall : ∀ f ∈ fields, ∀ x, ms.lookup f.1 = some x → ∃ y, f.2.1.ofJson x = .ok y
    · obtain ⟨found, hfound⟩ := decodeKnown_complete hfields hnodup hall
      obtain ⟨-, -, hlook⟩ := decodeKnown_ok hfields hfound
      rw [hfound, ← fillFields_toOption hdef hlook hall]
      show ((fun own => Json.obj own) <$> fillFields fields found).toOption = _
      cases fillFields fields found <;> rfl
    · -- a member naming a field does not decode: neither does the record
      simp only [Classical.not_forall, not_exists] at hall
      obtain ⟨f, hf, x, hx, hfail⟩ := hall
      have hnone : decodeFields (fun k => ms.lookup k) fields = none := by
        refine decodeFields_eq_none hf ?_
        cases hy : f.2.1.ofJson x with
        | ok y => exact absurd hy (hfail y)
        | error e => simp [decodeField, hx, hy, Except.toOption]
      rw [hnone]
      cases hdk : Shape.decodeKnown fields [] ms with
      | error e => rfl
      | ok found =>
        exfalso
        obtain ⟨hkeys, -, hlook⟩ := decodeKnown_ok hfields hdk
        have hkey : f.1 ∈ found.map (·.1) := by
          rw [hkeys]
          exact mem_fieldKeys_of_lookup (isFieldKey_of_mem (s := f.2.1) (d := f.2.2) hf) hx
        obtain ⟨y, hy⟩ := Option.isSome_iff_exists.mp
          ((mem_keys_iff_lookup_isSome' found f.1).mp hkey)
        rw [hlook f hf, hx, Option.bind_some] at hy
        cases hj : f.2.1.ofJson x with
        | ok y' => exact hfail y' hj
        | error e => simp [hj, Except.toOption] at hy
  · -- a field named twice: the pass over the members fails
    have hsrc : fieldSource (fields.map (·.1)) (.obj ms) = none := if_neg hnodup
    rw [hsrc]
    cases hdk : Shape.decodeKnown fields [] ms with
    | error e => rfl
    | ok found => exact absurd (decodeKnown_ok hfields hdk).2.1 hnodup

end Object

/-! ### From an array -/

section Array

variable {names : List String} {k k' : String} {x : Json} {xs : List Json}

theorem atPosition_cons_self : atPosition (k :: names) (x :: xs) k = some x := by
  simp [atPosition, List.idxOf?_cons]

theorem atPosition_cons_of_ne (h : k' ≠ k) :
    atPosition (k :: names) (x :: xs) k' = atPosition names xs k' := by
  simp only [atPosition, List.idxOf?_cons, beq_false_of_ne (Ne.symm h), Bool.false_eq_true, if_false]
  cases names.idxOf? k' <;> rfl

theorem atPosition_nil (names : List String) (k : String) : atPosition names [] k = none := by
  cases names.idxOf? k <;> simp [atPosition, *]

theorem except_toOption_map {ε α β : Type} (f : α → β) (r : Except ε α) :
    (f <$> r).toOption = f <$> r.toOption := by
  cases r <;> rfl

theorem decodeFields_cons_position {s : Shape} {d : Option Json} {fs : List (String × Shape × Option Json)}
    (hnames : ((k, s, d) :: fs).map (·.1) |>.Nodup) (ys : List Json) :
    decodeFields (atPosition (k :: fs.map (·.1)) ys) fs = decodeFields (atPosition (fs.map (·.1)) ys.tail) fs := by
  refine decodeFields_congr fun f hf => ?_
  have hne : f.1 ≠ k := by
    intro he
    simp only [List.map_cons, List.nodup_cons] at hnames
    exact hnames.1 (he ▸ List.mem_map_of_mem hf)
  cases ys with
  | nil => simp only [List.tail_nil, atPosition_nil]
  | cons y ys => exact atPosition_cons_of_ne hne

/-- A record read from an array: decoded exactly when the array is no longer than the record
and every field decodes from its position (a missing element leaves the field its default), to
the object of the fields in order. The induction follows the fields and the elements together. -/
theorem recordOfList_toOption (name : String) (n : Nat) :
    ∀ (fields : List (String × Shape × Option Json)) (xs : List Json) (i : Nat),
      (fields.map (·.1)).Nodup →
        (Shape.recordOfList name n fields xs i).toOption =
          if xs.length ≤ fields.length then
            Json.obj <$> decodeFields (atPosition (fields.map (·.1)) xs) fields
          else none
  | [], [], i, _ => by rw [Shape.recordOfList]; rfl
  | [], x :: xs, i, _ => by
    rw [Shape.recordOfList]
    · simp [Except.toOption]
    · exact fun h => by cases h
  | (k, s, d) :: fs, [], i, hnames => by
    have ih := recordOfList_toOption name n fs [] (i + 1) (List.nodup_cons.mp hnames).2
    rw [List.length_nil, if_pos (Nat.zero_le _)] at ih
    rw [List.length_nil, if_pos (Nat.zero_le _)]
    simp only [decodeFields, decodeField, atPosition_nil]
    cases d with
    | none => rw [Shape.recordOfList.eq_4]; rfl
    | some v =>
      rw [Shape.recordOfList.eq_3, except_toOption_map, ih, List.map_cons,
        decodeFields_cons_position hnames [], List.tail_nil]
      cases decodeFields (atPosition (fs.map (·.1)) []) fs <;> rfl
  | (k, s, d) :: fs, x :: xs, i, hnames => by
    have ih := recordOfList_toOption name n fs xs (i + 1) (List.nodup_cons.mp hnames).2
    have hlen : (x :: xs).length ≤ ((k, s, d) :: fs).length ↔ xs.length ≤ fs.length := by simp
    rw [Shape.recordOfList]
    simp only [decodeFields, decodeField, List.map_cons, atPosition_cons_self]
    rw [decodeFields_cons_position hnames (x :: xs), List.tail_cons]
    by_cases hl : xs.length ≤ fs.length
    · rw [if_pos (hlen.mpr hl)]
      rw [if_pos hl] at ih
      cases hx : s.ofJson x with
      | error e => rfl
      | ok v =>
        show (consField k v <$> Shape.recordOfList name n fs xs (i + 1)).toOption = _
        rw [except_toOption_map, ih]
        cases decodeFields (atPosition (fs.map (·.1)) xs) fs <;> rfl
    · rw [if_neg (mt hlen.mp hl)]
      rw [if_neg hl] at ih
      cases hx : s.ofJson x with
      | error e => rfl
      | ok v =>
        show (consField k v <$> Shape.recordOfList name n fs xs (i + 1)).toOption = _
        rw [except_toOption_map, ih]
        rfl

end Array

/-- A record is decoded exactly when its value is a field source from which every field decodes:
an object naming each field at most once, or an array no longer than the record. The result is
the object of the fields in declaration order; members naming no field play no part. -/
theorem record_ofJson_toOption {name : String} {fields : List (String × Shape × Option Json)}
    (hnames : (fields.map (·.1)).Nodup) (hdef : ExplicitDefaults fields) (v : Json) :
    ((Shape.record name fields []).ofJson v).toOption =
      (fieldSource (fields.map (·.1)) v).bind fun get => Json.obj <$> decodeFields get fields := by
  cases v with
  | obj ms =>
    rw [Shape.ofJson]
    exact recordOfMembers_toOption hnames hdef ms
  | arr xs =>
    rw [Shape.ofJson, if_pos List.isEmpty_nil, recordOfList_toOption name _ fields xs 0 hnames]
    simp only [fieldSource, List.length_map]
    by_cases h : xs.length ≤ fields.length
    · rw [if_pos h, if_pos h]
      rfl
    · rw [if_neg h, if_neg h]
      rfl
  | null | bool _ | num _ | str _ =>
    rw [Shape.ofJson]
    · rfl
    all_goals exact fun _ h => by cases h

end FleetTelemetry.Json
