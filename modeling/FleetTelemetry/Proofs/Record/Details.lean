import FleetTelemetry.Record.Convert
import FleetTelemetry.Proofs.Store.Recall

/-!
# The details of a converted record

`detailsOf` builds an observation's details with `Json.sortedObj`, which inserts the members one
by one into a key-sorted list, a later member replacing an earlier one of the same key. Read
through `lookup`, such a dictionary answers what the *last* member of a key says, and its keys
come out strictly ascending, so no key is there twice.

The members are the record's cells under their fields' keys (`keptCells`), then the status as
text and the subject group. The status field is itself kept under `status`, so its raw cell is
replaced by its text: every other field with a key answers the record's own cell.
-/

namespace FleetTelemetry

namespace Json

/-! ### Sorted dictionaries -/

theorem mem_insertSorted {k : String} {v : Json} {l : List (String × Json)} {x : String × Json}
    (h : x ∈ insertSorted k v l) : x = (k, v) ∨ x ∈ l := by
  induction l with
  | nil => simpa [insertSorted] using h
  | cons y rest ih =>
    obtain ⟨k', v'⟩ := y
    by_cases hlt : k < k'
    · simpa [insertSorted, hlt] using h
    · by_cases heq : k = k'
      · subst heq
        simp only [insertSorted, hlt, if_false, if_true, List.mem_cons] at h ⊢
        exact h.imp_right Or.inr
      · simp only [insertSorted, hlt, heq, if_false, List.mem_cons] at h ⊢
        rcases h with h | h
        · exact Or.inr (Or.inl h)
        · exact (ih h).imp_right Or.inr

theorem lookup_insertSorted (k : String) (v : Json) (l : List (String × Json)) (j : String) :
    (insertSorted k v l).lookup j = if j = k then some v else l.lookup j := by
  induction l with
  | nil => simp [insertSorted, lookup_cons_ite]
  | cons y rest ih =>
    obtain ⟨k', v'⟩ := y
    by_cases hlt : k < k'
    · simp [insertSorted, hlt, lookup_cons_ite]
    · by_cases heq : k = k'
      · subst heq
        by_cases hj : j = k <;> simp [insertSorted, lookup_cons_ite, hj]
      -- passing a smaller key: the inserted key is looked up below it
      · by_cases hj : j = k
        · subst hj
          simp [insertSorted, hlt, heq, lookup_cons_ite, ih]
        · simp [insertSorted, hlt, heq, lookup_cons_ite, ih, hj]

theorem lookup_foldl_insertSorted (ms acc : List (String × Json)) (j : String) :
    (ms.foldl (fun acc (k, v) => insertSorted k v acc) acc).lookup j =
      (ms.reverse.lookup j).or (acc.lookup j) := by
  induction ms generalizing acc with
  | nil => simp
  | cons m ms ih =>
    obtain ⟨k, v⟩ := m
    rw [List.foldl_cons, ih, lookup_insertSorted, List.reverse_cons, List.lookup_append,
      Option.or_assoc, lookup_cons_ite]
    by_cases hj : j = k <;> simp [hj]

theorem key_lt_of_not_lt {a b : String} (h : ¬a < b) (hne : a ≠ b) : b < a :=
  String.not_le.mp fun hab => hne (String.le_antisymm hab (String.not_lt.mp h))

theorem insertSorted_ascending (k : String) (v : Json) {l : List (String × Json)}
    (h : l.Pairwise fun a b => a.1 < b.1) : (insertSorted k v l).Pairwise fun a b => a.1 < b.1 := by
  induction l with
  | nil => simp [insertSorted]
  | cons y rest ih =>
    obtain ⟨k', v'⟩ := y
    rw [List.pairwise_cons] at h
    by_cases hlt : k < k'
    · simp only [insertSorted, hlt, if_true, List.pairwise_cons, List.mem_cons]
      refine ⟨?_, h.1, h.2⟩
      rintro x (rfl | hx)
      · exact hlt
      · exact String.lt_trans hlt (h.1 x hx)
    · by_cases heq : k = k'
      · subst heq
        simpa [insertSorted] using h
      · simp only [insertSorted, hlt, heq, if_false, List.pairwise_cons]
        refine ⟨fun x hx => ?_, ih h.2⟩
        rcases mem_insertSorted hx with rfl | hx
        · exact key_lt_of_not_lt hlt heq
        · exact h.1 x hx

theorem foldl_insertSorted_ascending (ms acc : List (String × Json))
    (h : acc.Pairwise fun a b => a.1 < b.1) :
    (ms.foldl (fun acc (k, v) => insertSorted k v acc) acc).Pairwise fun a b => a.1 < b.1 := by
  induction ms generalizing acc with
  | nil => exact h
  | cons m ms ih => exact ih _ (insertSorted_ascending m.1 m.2 h)

theorem keys_nodup_of_ascending {l : List (String × Json)} (h : l.Pairwise fun a b => a.1 < b.1) :
    (l.map Prod.fst).Nodup := by
  refine List.pairwise_map.mpr (h.imp fun hab => ?_)
  intro heq
  exact String.lt_irrefl _ (heq ▸ hab)

theorem mem_keys_iff_lookup_isSome (l : List (String × Json)) (k : String) :
    k ∈ l.map Prod.fst ↔ (l.lookup k).isSome := by
  rw [List.lookup_isSome_iff, List.mem_map]
  exact ⟨fun ⟨p, hp, hk⟩ => ⟨p, hp, beq_iff_eq.mpr hk.symm⟩,
    fun ⟨p, hp, hk⟩ => ⟨p, hp, (beq_iff_eq.mp hk).symm⟩⟩

end Json

/-! ### The record's cells -/

deriving instance ReflBEq, LawfulBEq for Field

theorem Field.additionalKey_injective {f g : Field} {k : String} (hf : f.additionalKey = some k)
    (hg : g.additionalKey = some k) : f = g := by
  rw [← hg] at hf
  cases f <;> cases g <;> first | rfl | exact absurd hf (by decide) | simp [Field.additionalKey] at hg

theorem FieldSchema.fields_nodup (s : FieldSchema) : s.fields.Nodup := by
  cases s <;> decide

def keptCells (fields : List Field) (values : List Json) : List (String × Json) :=
  (fields.zip values).filterMap fun (f, v) => f.additionalKey.map (·, v)

theorem keptCells_cons (g : Field) (gs : List Field) (v : Json) (vs : List Json) :
    keptCells (g :: gs) (v :: vs) = (g.additionalKey.map (·, v)).toList ++ keptCells gs vs := by
  cases h : g.additionalKey <;> simp [keptCells, h]

theorem mem_keys_keptCells {fields : List Field} {values : List Json}
    (hlen : fields.length = values.length) (k : String) :
    k ∈ (keptCells fields values).map Prod.fst ↔ ∃ f ∈ fields, f.additionalKey = some k := by
  induction fields generalizing values with
  | nil => simp [keptCells]
  | cons g gs ih =>
    obtain _ | ⟨v, vs⟩ := values
    · simp at hlen
    · rw [keptCells_cons, List.map_append, List.mem_append, ih (by simpa using hlen)]
      cases hg : g.additionalKey <;> simp [hg, eq_comm]

theorem lookup_reverse_keptCells {fields : List Field} (hnd : fields.Nodup) (values : List Json)
    {f : Field} {k : String} (hf : f.additionalKey = some k) :
    (keptCells fields values).reverse.lookup k = (fields.idxOf? f).bind fun i => values[i]? := by
  induction fields generalizing values with
  | nil => simp [keptCells]
  | cons g gs ih =>
    obtain _ | ⟨v, vs⟩ := values
    · simp [keptCells]
    · rw [List.nodup_cons] at hnd
      rw [keptCells_cons, List.reverse_append, List.lookup_append, ih hnd.2 vs, List.idxOf?_cons]
      by_cases hg : g = f
      · subst hg
        have hnone : gs.idxOf? g = none := List.idxOf?_eq_none_iff.mpr hnd.1
        simp [hf, hnone]
      · have hkey : (g.additionalKey.map (·, v)).toList.reverse.lookup k = none := by
          cases hk : g.additionalKey with
          | none => rfl
          | some k' =>
            have hne : k ≠ k' := fun h => hg (Field.additionalKey_injective (h ▸ hk) hf)
            simp [lookup_cons_ite, hne]
        rw [hkey, Option.or_none, if_neg (mt beq_iff_eq.mp hg), Option.bind_map]
        simp only [Function.comp_def, List.getElem?_cons_succ]

theorem fieldValue_of_mem {r : RawRecord} {s : FieldSchema} (hlen : r.len = s.arity) {f : Field}
    (hf : f ∈ s.fields) :
    ((s.fields.idxOf? f).bind fun i => r.values[i]?) = some (fieldValue r s f) := by
  obtain ⟨i, hi⟩ := Option.isSome_iff_exists.mp (List.isSome_idxOf?.mpr hf)
  obtain ⟨hlt, -⟩ := List.idxOf?_eq_some_iff.mp hi
  have hi' : i < r.values.length := (show s.fields.length = r.values.length from hlen.symm) ▸ hlt
  simp [fieldValue, FieldSchema.position, RawRecord.get?, hi, List.getElem?_eq_getElem hi']

/-! ### Details -/

section Details

variable (r : RawRecord) (s : FieldSchema) (status : String)

theorem detailsOf_eq : detailsOf r s status =
    (keptCells s.fields r.values ++ [("status", Json.str status),
      ("subject_groups", Json.arr [.str subjectGroup])]).foldl
      (fun acc (k, v) => Json.insertSorted k v acc) [] := rfl

theorem lookup_detailsOf (j : String) : (detailsOf r s status).lookup j =
    if j = "subject_groups" then some (.arr [.str subjectGroup])
    else if j = "status" then some (.str status)
    else (keptCells s.fields r.values).reverse.lookup j := by
  rw [detailsOf_eq, Json.lookup_foldl_insertSorted, List.reverse_append, List.lookup_append]
  by_cases hg : j = "subject_groups"
  · simp [hg]
  · by_cases hs : j = "status"
    · simp [hs, lookup_cons_ite]
    · simp [hg, hs, lookup_cons_ite]

theorem detailsOf_keys_nodup : ((detailsOf r s status).map Prod.fst).Nodup :=
  Json.keys_nodup_of_ascending (Json.foldl_insertSorted_ascending _ _ List.Pairwise.nil)

variable {r s}

/-- The keys of the details: the status, the subject group, and the keys of the schema's
fields. -/
theorem mem_keys_detailsOf (hlen : r.len = s.arity) (k : String) :
    k ∈ (detailsOf r s status).map Prod.fst ↔
      k = "status" ∨ k = "subject_groups" ∨ ∃ f ∈ s.fields, f.additionalKey = some k := by
  have hwidth : s.fields.length = r.values.length := hlen.symm
  rw [Json.mem_keys_iff_lookup_isSome, lookup_detailsOf]
  by_cases hg : k = "subject_groups"
  · simp [hg]
  · by_cases hs : k = "status"
    · simp [hs]
    · simp only [hg, hs, if_false, false_or]
      rw [← Json.mem_keys_iff_lookup_isSome, List.map_reverse, List.mem_reverse,
        mem_keys_keptCells hwidth]

theorem lookup_detailsOf_cell (hlen : r.len = s.arity) {f : Field} (hf : f ∈ s.fields) {k : String}
    (hk : f.additionalKey = some k) (hstatus : k ≠ "status") :
    (detailsOf r s status).lookup k = some (fieldValue r s f) := by
  have hgroups : k ≠ "subject_groups" := by
    rintro rfl
    cases f <;> simp [Field.additionalKey] at hk
  rw [lookup_detailsOf, if_neg hgroups, if_neg hstatus,
    lookup_reverse_keptCells s.fields_nodup r.values hk, fieldValue_of_mem hlen hf]

end Details

end FleetTelemetry
