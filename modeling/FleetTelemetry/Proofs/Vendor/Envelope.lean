import FleetTelemetry.Proofs.Json.Records
import FleetTelemetry.Vendor.Envelope

/-!
# Reading the vendor's answers

What the envelope reader makes of an answer body, said without the reader. A blank body, `null`
and `{}` mean no data. Any other body must be JSON holding an envelope (`Decoded.Reads`): a result
part and an optional text `MaxGmtUpdateTime`. Each of the two records is given as an object,
whose members naming no field are ignored and which names no field twice, or positionally as an
array. The result part holds an integer code in the signed 64-bit range, and optionally a
description, a reject reason and rows of cells. Anything else is a malformed envelope.

An envelope with code 0 gives its rows, each as it stood, and its `MaxGmtUpdateTime` read as the
vendor's UTC text unless blank. Any other code is a fault of the code's kind (bad credentials for
1000, throttled for 1101, a vendor error otherwise) carrying the code and the first non-blank of
the trimmed description and reject reason, or a non-empty default. So an answer is worth another
attempt exactly when it holds an envelope with code 1101 (`parse_spec`).
-/

namespace FleetTelemetry

namespace Envelope

open Json (fieldSource decodeField decodeFields)

structure CommonResult where
  resultCode : Int
  resultDescription : Option String
  rejectReason : Option String
  dataSet : Option (List (List Json))

structure Decoded where
  commonResult : CommonResult
  maxGmtUpdateTime : Option String

/-! ### What each field admits -/

def IsCode : Option Json → Int → Prop
  | some (.num (.nat n)), c => (n : Int) = c ∧ c ≤ Word.i64Max
  | some (.num (.neg n)), c => n = c ∧ Word.i64Min ≤ c
  | _, _ => False

/-- An optional text: a missing field or `null` is none, a string is itself. -/
def IsOptText : Option Json → Option String → Prop
  | none, none => True
  | some .null, none => True
  | some (.str s), some t => s = t
  | _, _ => False

/-- Optional rows: a missing field or `null` is none, an array of arrays is its rows. -/
def IsOptRows : Option Json → Option (List (List Json)) → Prop
  | none, none => True
  | some .null, none => True
  | some (.arr xs), some rows => xs = rows.map .arr
  | _, _ => False

def resultNames : List String := ["ResultCode", "ResultDescription", "RejectReason", "DataSet"]

def envelopeNames : List String := ["CommonResult", "MaxGmtUpdateTime"]

/-- The fields `get` gives make up the result part `r`. -/
structure CommonResult.From (get : String → Option Json) (r : CommonResult) : Prop where
  code : IsCode (get "ResultCode") r.resultCode
  description : IsOptText (get "ResultDescription") r.resultDescription
  rejectReason : IsOptText (get "RejectReason") r.rejectReason
  dataSet : IsOptRows (get "DataSet") r.dataSet

def CommonResult.Reads (v : Json) (r : CommonResult) : Prop :=
  ∃ get, fieldSource resultNames v = some get ∧ CommonResult.From get r

def Decoded.Reads (v : Json) (e : Decoded) : Prop :=
  ∃ get, fieldSource envelopeNames v = some get ∧
    (∃ c, get "CommonResult" = some c ∧ e.commonResult.Reads c) ∧
    IsOptText (get "MaxGmtUpdateTime") e.maxGmtUpdateTime

theorem Decoded.Reads.ne_null {v : Json} {e : Decoded} (h : e.Reads v) : v ≠ .null := by
  obtain ⟨get, hget, -, -⟩ := h
  rintro rfl
  cases hget

theorem Decoded.Reads.ne_empty {v : Json} {e : Decoded} (h : e.Reads v) : v ≠ .obj [] := by
  obtain ⟨get, hget, ⟨c, hc, -⟩, -⟩ := h
  rintro rfl
  have hget : (fun k => ([] : List (String × Json)).lookup k) = get := Option.some.inj hget
  rw [← hget] at hc
  cases hc

/-! ### What an envelope means -/

/-- The first of some optional texts that is not blank once trimmed, trimmed. -/
def firstNonBlank : List (Option String) → Option String
  | [] => none
  | none :: rest => firstNonBlank rest
  | some s :: rest => if (Text.trim s).isEmpty then firstNonBlank rest else some (Text.trim s)

/-- What a fault says of a result: its description, else its reject reason, trimmed. -/
def CommonResult.message? (r : CommonResult) : Option String :=
  firstNonBlank [r.resultDescription, r.rejectReason]

theorem firstNonBlank_eq_find : ∀ xs : List (Option String),
    firstNonBlank xs = ((xs.filterMap id).map Text.trim).find? (!·.isEmpty)
  | [] => rfl
  | none :: rest => by
    rw [firstNonBlank, firstNonBlank_eq_find rest]
    rfl
  | some s :: rest => by
    rw [firstNonBlank, firstNonBlank_eq_find rest]
    by_cases h : (Text.trim s).isEmpty = true
    · simp [h]
    · simp [h]

def faultKind (c : Int) : String :=
  if c = authInvalidCode then "AuthInvalid" else if c = rateLimitedCode then "RateLimited" else "General"

def Decoded.records (e : Decoded) : List RawRecord := (e.commonResult.dataSet.getD []).map RawRecord.mk

/-- The instant an envelope reaches to: its `MaxGmtUpdateTime` read as the vendor's UTC text,
unless blank. -/
def Decoded.reachedAt (e : Decoded) : Option Time.Stamp :=
  e.maxGmtUpdateTime.bind fun raw => if Text.isBlankText raw then none else Time.parseWire raw

/-- What the reader answers for an envelope: its rows and reach for code 0, else the code's fault. -/
def Decoded.answer (e : Decoded) : Except VendorFault FetchResult :=
  if e.commonResult.resultCode = successCode then
    .ok { records := e.records, maxGmtUpdateTime := e.reachedAt }
  else .error (faultOf e.commonResult.resultCode e.commonResult.message?)

/-! ### A blank body is not JSON

Blank characters are ASCII blanks or lie beyond ASCII, so every byte of a blank text is a
JSON blank, a vertical tab or form feed, or a byte of a longer character: none of them starts a
JSON value. -/

section Blank

def BlankByte (x : UInt8) : Prop := (9 ≤ x.toNat ∧ x.toNat ≤ 13) ∨ x.toNat = 32 ∨ 128 ≤ x.toNat

instance : DecidablePred BlankByte := fun x => by
  unfold BlankByte
  infer_instance

theorem utf8EncodeChar_blank {c : Char} (hc : Text.isBlank c = true) :
    ∀ x ∈ String.utf8EncodeChar c, BlankByte x := by
  -- an ASCII blank is one of its own bytes, and every byte from 128 on counts as blank
  refine Json.utf8EncodeChar_forall (fun x hval hn => ?_) fun x hx =>
    Or.inr (Or.inr (by simpa [UInt8.le_iff_toNat_le] using hx))
  simp only [Text.isBlank, Bool.or_eq_true, Bool.and_eq_true, decide_eq_true_eq, beq_iff_eq] at hc
  simp only [BlankByte, hval]
  omega

theorem blankByte_of_getElem? {s : String} (hs : Text.isBlankText s = true) {i : Nat} {x : UInt8}
    (hx : s.toUTF8[i]? = some x) : BlankByte x := by
  have hmem : x ∈ Json.bytesOf s := by
    rw [Json.bytesOf, ← String.toUTF8_eq_toByteArray]
    obtain ⟨hi, hxi⟩ := getElem?_eq_some_iff.mp hx
    exact Array.mem_toList_iff.mpr (Array.mem_of_getElem hxi)
  rw [Json.bytesOf_toList, List.mem_flatMap] at hmem
  obtain ⟨c, hc, hxc⟩ := hmem
  exact utf8EncodeChar_blank (List.all_eq_true.mp hs c hc) x hxc

theorem skipBlanks_stops (b : ByteArray) (i : Nat) : ∃ j, Json.skipBlanks b i = .ok (b[j]?, j) := by
  refine ⟨Json.skipBlanks.go b i (b.size - i), ?_⟩
  show (do let i ← get; let j := Json.skipBlanks.go b i (b.size - i); set j; Json.peek b : Json.Cursor _) i = _
  simp only [bind, StateT.bind, get, getThe, MonadStateOf.get, StateT.get, set, StateT.set, pure,
    Except.pure, Except.bind]
  exact Json.peek_run _

theorem parse_blank_error {s : String} (hs : Text.isBlankText s = true) : ∃ err, Json.parse s = .error err := by
  obtain ⟨j, hj⟩ := skipBlanks_stops s.toUTF8 0
  -- the value reader fails where the blanks stop: at the end, or at a byte that starts no value
  have hread : ∃ err, Json.readValue s.toUTF8 Json.depthLimit 0 = .error err := by
    rw [Json.readValue.eq_def]
    simp only [bind, StateT.bind, hj, Except.bind]
    cases hc : s.toUTF8[j]? with
    | none => exact ⟨_, rfl⟩
    | some c =>
      have hb : BlankByte c := blankByte_of_getElem? hs hc
      have hne : ∀ k : UInt8, ¬ BlankByte k → (c == k) = false := fun k hk =>
        beq_false_of_ne fun h => hk (h ▸ hb)
      have hdigit : Json.isDigit c = false := by
        simp only [Json.isDigit, Bool.and_eq_false_iff, decide_eq_false_iff_not, UInt8.not_le,
          UInt8.lt_iff_toNat_lt, UInt8.reduceToNat]
        simp only [BlankByte] at hb
        omega
      simp only [hne 110 (by decide), hne 116 (by decide), hne 102 (by decide), hne 45 (by decide),
        hne 34 (by decide), hne 91 (by decide), hne 123 (by decide), hdigit, Bool.false_eq_true,
        if_false]
      exact ⟨_, rfl⟩
  obtain ⟨err, herr⟩ := hread
  refine ⟨err, ?_⟩
  simp only [Json.parse, StateT.run', bind, StateT.bind, herr, Except.bind]
  rfl

end Blank

/-! ### The decoders of the fields

The code, text and rows decoders give back the value they accept; the lemmas say which values
that is, and what the field then holds. -/

section Fields

open Json (Shape)

variable {x y : Json}

theorem option_ofJson_null (s : Shape) : (Shape.option s).ofJson .null = .ok .null := by
  rw [Shape.ofJson]

theorem option_ofJson_of_ne (s : Shape) (hx : x ≠ .null) : (Shape.option s).ofJson x = s.ofJson x := by
  rw [Shape.ofJson]
  exact hx

theorem i64_ofJson_toOption : (i64.ofJson x).toOption = some y ↔ y = x ∧ ∃ c, IsCode (some x) c := by
  cases x with
  | num n =>
    cases n with
    | nat n =>
      simp only [i64, Shape.ofJson, Json.integerOf, IsCode]
      by_cases hn : (n : Int) ≤ Word.i64Max
      · simp [hn, Except.toOption, eq_comm]
      · simp [hn, Except.toOption]
    | neg n =>
      simp only [i64, Shape.ofJson, Json.integerOf, IsCode]
      by_cases hn : Word.i64Min ≤ n
      · simp [hn, Except.toOption, eq_comm]
      · simp [hn, Except.toOption]
    | float f => simp [i64, Shape.ofJson, Json.integerOf, IsCode, Except.toOption]
  | null | bool _ | str _ | arr _ | obj _ =>
    simp only [i64, IsCode, exists_false, and_false, iff_false]
    rw [Shape.ofJson]
    all_goals simp [Except.toOption]

theorem IsCode.codeOf_eq {c : Int} (h : IsCode (some x) c) : codeOf (some x) = c := by
  cases x with
  | num n =>
    cases n with
    | nat n =>
      obtain ⟨hc, hle⟩ := h
      have hn : n ≤ Word.i64Max.toNat := by
        rw [← hc] at hle
        omega
      simp [codeOf, Number.toInt?, hn, hc]
    | neg n => simp [codeOf, Number.toInt?, h.1]
    | float f => exact (h : False).elim
  | null | bool _ | str _ | arr _ | obj _ => exact (h : False).elim

theorem optText_ofJson_toOption :
    ((Shape.option .string).ofJson x).toOption = some y ↔ y = x ∧ ∃ t, IsOptText (some x) t := by
  cases x with
  | null =>
    rw [option_ofJson_null]
    exact ⟨fun h => ⟨(Option.some.inj h).symm, none, trivial⟩, fun h => by rw [h.1]; rfl⟩
  | str s =>
    rw [option_ofJson_of_ne _ (by simp), Shape.ofJson]
    exact ⟨fun h => ⟨(Option.some.inj h).symm, some s, rfl⟩, fun h => by rw [h.1]; rfl⟩
  | num _ | bool _ | arr _ | obj _ =>
    rw [option_ofJson_of_ne _ (by simp), Shape.ofJson]
    · simp [Except.toOption, IsOptText]
    all_goals simp

theorem IsOptText.ofOption_eq {t : Option String} (h : IsOptText (some x) t) : Json.ofOption t = x := by
  cases x with
  | null =>
    cases t with
    | none => rfl
    | some t => exact (h : False).elim
  | str s =>
    cases t with
    | none => exact (h : False).elim
    | some t =>
      have h : s = t := h
      rw [h]
      rfl
  | num _ | bool _ | arr _ | obj _ => cases t <;> exact (h : False).elim

theorem ofJsonList_any (ys : List Json) : Shape.ofJsonList .any ys = .ok ys := by
  induction ys with
  | nil => rw [Shape.ofJsonList]
  | cons y ys ih =>
    rw [Shape.ofJsonList, Shape.ofJson, ih]
    rfl

theorem ofJsonList_rows : ∀ (xs : List Json) (ys : List Json),
    Shape.ofJsonList (.list .any) xs = .ok ys ↔ ys = xs ∧ ∃ rows : List (List Json), xs = rows.map .arr
  | [], ys => by
    rw [Shape.ofJsonList]
    constructor
    · intro h
      cases h
      exact ⟨rfl, [], rfl⟩
    · rintro ⟨rfl, -⟩
      rfl
  | x :: xs, ys => by
    rw [Shape.ofJsonList]
    cases x with
    | arr cells =>
      rw [Shape.ofJson, ofJsonList_any]
      cases hrest : Shape.ofJsonList (.list .any) xs with
      | error e =>
        constructor
        · intro h; cases h
        · rintro ⟨rfl, rows, hrows⟩
          cases rows with
          | nil => cases hrows
          | cons r rows =>
            obtain ⟨-, hxs⟩ := List.cons.inj hrows
            have := ((ofJsonList_rows xs xs).mpr ⟨rfl, rows, hxs⟩)
            rw [hrest] at this
            cases this
      | ok zs =>
        obtain ⟨rfl, rows, hrows⟩ := (ofJsonList_rows xs zs).mp hrest
        constructor
        · intro h
          cases h
          exact ⟨rfl, cells :: rows, by rw [hrows]; rfl⟩
        · rintro ⟨rfl, -⟩
          rfl
    | null | bool _ | num _ | str _ | obj _ =>
      rw [Shape.ofJson]
      · constructor
        · intro h; cases h
        · rintro ⟨-, rows, hrows⟩
          cases rows with
          | nil => cases hrows
          | cons r rows => cases hrows
      all_goals exact fun _ h => by cases h

theorem optRows_ofJson_toOption :
    ((Shape.option (.list (.list .any))).ofJson x).toOption = some y ↔
      y = x ∧ ∃ rows, IsOptRows (some x) rows := by
  cases x with
  | null =>
    rw [option_ofJson_null]
    exact ⟨fun h => ⟨(Option.some.inj h).symm, none, trivial⟩, fun h => by rw [h.1]; rfl⟩
  | arr xs =>
    rw [option_ofJson_of_ne _ (by simp), Shape.ofJson]
    cases h : Shape.ofJsonList (.list .any) xs with
    | error e =>
      simp only [Except.toOption, Functor.map, Except.map, reduceCtorEq, false_iff, not_and]
      rintro - ⟨rows, hrows⟩
      cases rows with
      | none => exact hrows
      | some rows =>
        have := (ofJsonList_rows xs xs).mpr ⟨rfl, rows, hrows⟩
        rw [h] at this
        cases this
    | ok zs =>
      obtain ⟨rfl, rows, hrows⟩ := (ofJsonList_rows xs zs).mp h
      simp only [Except.toOption, Functor.map, Except.map, Option.some.injEq]
      exact ⟨fun h => ⟨h.symm, some rows, hrows⟩, fun h => h.1.symm⟩
  | num _ | bool _ | str _ | obj _ =>
    rw [option_ofJson_of_ne _ (by simp), Shape.ofJson]
    · simp [Except.toOption, IsOptRows]
    all_goals exact fun _ h => by cases h

def rowsJson : Option (List (List Json)) → Json
  | none => .null
  | some rows => .arr (rows.map .arr)

variable {get : String → Option Json}

theorem decodeField_code :
    decodeField get ("ResultCode", i64, none) = some y ↔ get "ResultCode" = some y ∧ ∃ c, IsCode (some y) c := by
  cases hg : get "ResultCode" with
  | none => simp [decodeField, hg]
  | some x =>
    simp only [decodeField, hg, Option.some.injEq]
    rw [i64_ofJson_toOption]
    constructor
    · rintro ⟨rfl, h⟩
      exact ⟨rfl, h⟩
    · rintro ⟨rfl, h⟩
      exact ⟨rfl, h⟩

theorem decodeField_optText (k : String) :
    decodeField get (k, .option .string, some .null) = some y ↔
      ∃ t, IsOptText (get k) t ∧ y = Json.ofOption t := by
  cases hg : get k with
  | none =>
    simp only [decodeField, hg, Option.some.injEq]
    constructor
    · rintro rfl
      exact ⟨none, trivial, rfl⟩
    · rintro ⟨t, ht, rfl⟩
      cases t with
      | none => rfl
      | some t => exact (ht : False).elim
  | some x =>
    simp only [decodeField, hg]
    rw [optText_ofJson_toOption]
    constructor
    · rintro ⟨rfl, t, ht⟩
      exact ⟨t, ht, ht.ofOption_eq.symm⟩
    · rintro ⟨t, ht, rfl⟩
      exact ⟨ht.ofOption_eq, t, ht⟩

theorem IsOptRows.rowsJson_eq {rows : Option (List (List Json))} (h : IsOptRows (some x) rows) :
    rowsJson rows = x := by
  cases x with
  | null =>
    cases rows with
    | none => rfl
    | some rows => exact (h : False).elim
  | arr xs =>
    cases rows with
    | none => exact (h : False).elim
    | some rows =>
      have h : xs = rows.map .arr := h
      rw [h]
      rfl
  | num _ | bool _ | str _ | obj _ => cases rows <;> exact (h : False).elim

theorem decodeField_rows :
    decodeField get ("DataSet", .option (.list (.list .any)), some .null) = some y ↔
      ∃ rows, IsOptRows (get "DataSet") rows ∧ y = rowsJson rows := by
  cases hg : get "DataSet" with
  | none =>
    simp only [decodeField, hg, Option.some.injEq]
    constructor
    · rintro rfl
      exact ⟨none, trivial, rfl⟩
    · rintro ⟨rows, hrows, rfl⟩
      cases rows with
      | none => rfl
      | some rows => exact (hrows : False).elim
  | some x =>
    simp only [decodeField, hg]
    rw [optRows_ofJson_toOption]
    constructor
    · rintro ⟨rfl, rows, hrows⟩
      exact ⟨rows, hrows, hrows.rowsJson_eq.symm⟩
    · rintro ⟨rows, hrows, rfl⟩
      exact ⟨hrows.rowsJson_eq, rows, hrows⟩

end Fields

/-! ### The two records

A record decodes to the object of its fields in order; the code stays the value it was. -/

section Records

def CommonResult.fieldsWith (code : Json) (r : CommonResult) : List (String × Json) :=
  [("ResultCode", code), ("ResultDescription", Json.ofOption r.resultDescription),
    ("RejectReason", Json.ofOption r.rejectReason), ("DataSet", rowsJson r.dataSet)]

def Decoded.decodedWith (code : Json) (e : Decoded) : Json :=
  .obj [("CommonResult", .obj (e.commonResult.fieldsWith code)),
    ("MaxGmtUpdateTime", Json.ofOption e.maxGmtUpdateTime)]

variable {x d : Json}

theorem commonResult_ofJson_toOption :
    (commonResultShape.ofJson x).toOption = some d ↔
      ∃ get r code, fieldSource resultNames x = some get ∧ CommonResult.From get r ∧
        get "ResultCode" = some code ∧ d = .obj (r.fieldsWith code) := by
  have hdef : Json.ExplicitDefaults
      [("ResultCode", i64, none), ("ResultDescription", .option .string, some .null),
        ("RejectReason", .option .string, some .null),
        ("DataSet", .option (.list (.list .any)), some .null)] := by
    intro f hf
    simp only [List.mem_cons, List.not_mem_nil, or_false] at hf
    rcases hf with rfl | rfl | rfl | rfl <;> rfl
  rw [commonResultShape, Json.record_ofJson_toOption (by decide) hdef, Option.bind_eq_some_iff]
  simp only [Option.map_eq_map, Option.map_eq_some_iff, Json.decodeFields_cons_eq_some,
    decodeField_code, decodeField_optText, decodeField_rows, Json.decodeFields.eq_1, Option.some.injEq]
  constructor
  · rintro ⟨get, hget, ys, ⟨y₁, rest₁, ⟨hcode, c, hc⟩, ⟨y₂, rest₂, ⟨t₁, ht₁, rfl⟩, ⟨y₃, rest₃, ⟨t₂, ht₂, rfl⟩,
      ⟨y₄, rest₄, ⟨rows, hrows, rfl⟩, rfl, rfl⟩, rfl⟩, rfl⟩, rfl⟩, rfl⟩
    refine ⟨get, ⟨c, t₁, t₂, rows⟩, y₁, hget, ⟨?_, ht₁, ht₂, hrows⟩, hcode, rfl⟩
    rw [hcode]
    exact hc
  · rintro ⟨get, r, code, hget, hr, hcode, rfl⟩
    have hc : IsCode (some code) r.resultCode := hcode ▸ hr.code
    exact ⟨get, hget, _, ⟨code, _, ⟨hcode, _, hc⟩, ⟨_, _, ⟨_, hr.description, rfl⟩, ⟨_, _,
      ⟨_, hr.rejectReason, rfl⟩, ⟨_, _, ⟨_, hr.dataSet, rfl⟩, rfl, rfl⟩, rfl⟩, rfl⟩, rfl⟩, rfl⟩

theorem envelope_ofJson_toOption :
    (shape.ofJson x).toOption = some d ↔
      ∃ get c dr t, fieldSource envelopeNames x = some get ∧ get "CommonResult" = some c ∧
        (commonResultShape.ofJson c).toOption = some dr ∧ IsOptText (get "MaxGmtUpdateTime") t ∧
        d = .obj [("CommonResult", dr), ("MaxGmtUpdateTime", Json.ofOption t)] := by
  have hdef : Json.ExplicitDefaults
      [("CommonResult", commonResultShape, none), ("MaxGmtUpdateTime", .option .string, some .null)] := by
    intro f hf
    simp only [List.mem_cons, List.not_mem_nil, or_false] at hf
    rcases hf with rfl | rfl <;> rfl
  rw [shape, Json.record_ofJson_toOption (by decide) hdef, Option.bind_eq_some_iff]
  simp only [Option.map_eq_map, Option.map_eq_some_iff, Json.decodeFields_cons_eq_some,
    Json.decodeField_required, decodeField_optText, Json.decodeFields.eq_1, Option.some.injEq]
  constructor
  · rintro ⟨get, hget, ys, ⟨y₁, rest₁, ⟨c, hc, hy₁⟩, ⟨y₂, rest₂, ⟨t, ht, rfl⟩, rfl, rfl⟩, rfl⟩, rfl⟩
    exact ⟨get, c, y₁, t, hget, hc, hy₁, ht, rfl⟩
  · rintro ⟨get, c, dr, t, hget, hc, hdr, ht, rfl⟩
    exact ⟨get, hget, _, ⟨dr, _, ⟨c, hc, hdr⟩, ⟨_, _, ⟨t, ht, rfl⟩, rfl, rfl⟩, rfl⟩, rfl⟩

theorem shape_ofJson_of_reads {e : Decoded} (h : e.Reads x) :
    ∃ code, IsCode (some code) e.commonResult.resultCode ∧ shape.ofJson x = .ok (e.decodedWith code) := by
  obtain ⟨get, hget, ⟨c, hc, get', hget', hfrom⟩, ht⟩ := h
  cases hcode : get' "ResultCode" with
  | none =>
    have := hfrom.code
    rw [hcode] at this
    exact this.elim
  | some code =>
    have hdr := commonResult_ofJson_toOption.mpr ⟨get', e.commonResult, code, hget', hfrom, hcode, rfl⟩
    have hd := envelope_ofJson_toOption.mpr ⟨get, c, _, e.maxGmtUpdateTime, hget, hc, hdr, ht, rfl⟩
    refine ⟨code, hcode ▸ hfrom.code, ?_⟩
    cases hx : shape.ofJson x with
    | error err =>
      rw [hx] at hd
      cases hd
    | ok d =>
      rw [hx] at hd
      cases hd
      rfl

theorem reads_of_shape_ofJson (h : shape.ofJson x = .ok d) :
    ∃ (e : Decoded) (code : Json), e.Reads x ∧ IsCode (some code) e.commonResult.resultCode ∧
      d = e.decodedWith code := by
  have hd : (shape.ofJson x).toOption = some d := by rw [h]; rfl
  obtain ⟨get, c, dr, t, hget, hc, hdr, ht, rfl⟩ := envelope_ofJson_toOption.mp hd
  obtain ⟨get', r, code, hget', hfrom, hcode, rfl⟩ := commonResult_ofJson_toOption.mp hdr
  exact ⟨⟨r, t⟩, code, ⟨get, hget, ⟨c, hc, get', hget', hfrom⟩, ht⟩, hcode ▸ hfrom.code, rfl⟩

end Records

/-! ### What the reader answers -/

section Answer

variable (code : Json) (r : CommonResult) (e : Decoded)

theorem decodedWith_result :
    ((e.decodedWith code).get? "CommonResult").getD .null = .obj (e.commonResult.fieldsWith code) := by
  simp [Decoded.decodedWith, Json.get?]

theorem decodedWith_maxTime :
    ((e.decodedWith code).get? "MaxGmtUpdateTime" >>= Json.getStr?) = e.maxGmtUpdateTime := by
  cases h : e.maxGmtUpdateTime <;>
    simp [Decoded.decodedWith, Json.get?, List.lookup_cons, h, Json.ofOption, Json.getStr?]

theorem fieldsWith_code : (Json.obj (r.fieldsWith code)).get? "ResultCode" = some code := by
  simp [CommonResult.fieldsWith, Json.get?]

theorem fieldsWith_rows : (((Json.obj (r.fieldsWith code)).get? "DataSet" >>= Json.getArr?).getD []).map
    (fun row => RawRecord.mk ((row.getArr?).getD [])) = (r.dataSet.getD []).map RawRecord.mk := by
  cases h : r.dataSet <;>
    simp [CommonResult.fieldsWith, Json.get?, List.lookup_cons, h, rowsJson, Json.getArr?]

theorem getStr_ofOption (t : Option String) : (Json.ofOption t).getStr? = t := by
  cases t <;> rfl

theorem description_fieldsWith : description (.obj (r.fieldsWith code)) = r.message? := by
  have hd : (Json.obj (r.fieldsWith code)).get? "ResultDescription" >>= Json.getStr? = r.resultDescription := by
    simp only [CommonResult.fieldsWith, Json.get?, List.lookup_cons]
    exact getStr_ofOption _
  have hj : (Json.obj (r.fieldsWith code)).get? "RejectReason" >>= Json.getStr? = r.rejectReason := by
    simp only [CommonResult.fieldsWith, Json.get?, List.lookup_cons]
    exact getStr_ofOption _
  rw [CommonResult.message?, firstNonBlank_eq_find, description]
  simp only [List.filterMap_cons, List.filterMap_nil, hd, hj, id_eq]

variable {b : String} {v : Json}

theorem parse_of_blank (h : Text.isBlankText b = true) : parse b = .ok {} := by
  rw [parse, if_pos h]

theorem parse_of_not_json (hb : Text.isBlankText b = false) {err : Json.Error} (h : Json.parse b = .error err) :
    parse b = .error (.envelope ("response is not JSON: " ++ err.message)) := by
  rw [parse, hb, h]
  rfl

theorem parse_of_null (hb : Text.isBlankText b = false) (h : Json.parse b = .ok .null) : parse b = .ok {} := by
  rw [parse, hb, h]
  rfl

theorem parse_of_empty (hb : Text.isBlankText b = false) (h : Json.parse b = .ok (.obj [])) :
    parse b = .ok {} := by
  rw [parse, hb, h]
  rfl

theorem isBlankText_of_parse_ok (h : Json.parse b = .ok v) : Text.isBlankText b = false := by
  cases hb : Text.isBlankText b
  · rfl
  · obtain ⟨err, herr⟩ := parse_blank_error hb
    rw [herr] at h
    cases h

theorem parse_of_shape_error (hv : Json.parse b = .ok v) (hnull : v ≠ .null) (hempty : v ≠ .obj [])
    {err : Json.Error} (hs : shape.ofJson v = .error err) :
    parse b = .error (.envelope ("unexpected envelope shape: " ++ err.message)) := by
  rw [parse, isBlankText_of_parse_ok hv, hv]
  rcases v with _ | _ | _ | _ | _ | ⟨_ | ⟨m, ms⟩⟩
  case null => exact absurd rfl hnull
  case obj.nil => exact absurd rfl hempty
  all_goals simp only [hs, Bool.false_eq_true, if_false]

theorem parse_of_reads {e : Decoded} (hv : Json.parse b = .ok v) (he : e.Reads v) : parse b = e.answer := by
  have hnull := he.ne_null
  have hempty := he.ne_empty
  obtain ⟨code, hcode, hs⟩ := shape_ofJson_of_reads he
  rw [parse, isBlankText_of_parse_ok hv, hv]
  rcases v with _ | _ | _ | _ | _ | ⟨_ | ⟨m, ms⟩⟩
  case null => exact absurd rfl hnull
  case obj.nil => exact absurd rfl hempty
  all_goals
    simp only [hs, Bool.false_eq_true, if_false, decodedWith_result, fieldsWith_code, hcode.codeOf_eq,
      description_fieldsWith, fieldsWith_rows, decodedWith_maxTime, Decoded.answer, ne_eq, ite_not]
    rfl

end Answer

/-! ### Faults -/

section Fault

/-- A fault carries its code and kind, and the message given or else a non-empty default; only
the throttling code is worth another attempt. -/
theorem faultOf_spec (c : Int) (m : Option String) :
    (faultOf c m).code = some c ∧ (faultOf c m).variant = faultKind c ∧
      (faultOf c m).isRetryable = decide (c = rateLimitedCode) ∧
      ∃ fallback, fallback ≠ "" ∧ (faultOf c m).message = m.getD fallback := by
  unfold faultOf
  by_cases hauth : c = authInvalidCode
  · have hrate : c ≠ rateLimitedCode := by rw [hauth]; decide
    rw [if_pos hauth]
    exact ⟨rfl, by rw [faultKind, if_pos hauth]; rfl, (decide_eq_false hrate).symm, _, by decide, rfl⟩
  · by_cases hrate : c = rateLimitedCode
    · rw [if_neg hauth, if_pos hrate]
      exact ⟨rfl, by rw [faultKind, if_neg hauth, if_pos hrate]; rfl, (decide_eq_true hrate).symm, _,
        by decide, rfl⟩
    · rw [if_neg hauth, if_neg hrate]
      refine ⟨rfl, by rw [faultKind, if_neg hauth, if_neg hrate]; rfl, (decide_eq_false hrate).symm, _, ?_, rfl⟩
      intro h
      have := congrArg String.length h
      simp at this

theorem firstNonBlank_ne_empty : ∀ {xs : List (Option String)} {d : String}, firstNonBlank xs = some d → d ≠ "" := by
  intro xs
  -- on the candidates in order: a blank one is passed over, the first other one is the answer
  induction xs with
  | nil => intro d h; cases h
  | cons x rest ih =>
    intro d h
    cases x with
    | none =>
      rw [firstNonBlank] at h
      exact ih h
    | some s =>
      rw [firstNonBlank] at h
      by_cases hs : (Text.trim s).isEmpty = true
      · rw [if_pos hs] at h
        exact ih h
      · rw [if_neg hs, Option.some.injEq] at h
        rw [← h]
        intro he
        exact hs (String.isEmpty_iff.mpr he)

end Fault

/-! ### The reader as a whole -/

section Reader

theorem parse_cases (b : String) :
    parse b = .ok {} ∨ (∃ m, parse b = .error (.envelope m)) ∨
      ∃ (v : Json) (e : Decoded), Json.parse b = .ok v ∧ e.Reads v ∧ parse b = e.answer := by
  cases hb : Text.isBlankText b
  · cases hp : Json.parse b with
    | error err => exact Or.inr (Or.inl ⟨_, parse_of_not_json hb hp⟩)
    | ok v =>
      by_cases hnull : v = .null
      · rw [hnull] at hp
        exact Or.inl (parse_of_null hb hp)
      by_cases hempty : v = .obj []
      · rw [hempty] at hp
        exact Or.inl (parse_of_empty hb hp)
      cases hs : shape.ofJson v with
      | error err => exact Or.inr (Or.inl ⟨_, parse_of_shape_error hp hnull hempty hs⟩)
      | ok d =>
        obtain ⟨e, -, he, -, -⟩ := reads_of_shape_ofJson hs
        exact Or.inr (Or.inr ⟨v, e, rfl, he, parse_of_reads hp he⟩)
  · exact Or.inl (parse_of_blank hb)

theorem answer_of_ne_success {e : Decoded} (hc : e.commonResult.resultCode ≠ successCode) :
    e.answer = .error (faultOf e.commonResult.resultCode e.commonResult.message?) := by
  rw [Decoded.answer, if_neg hc]

theorem answer_retryable_iff {e : Decoded} :
    (∃ f, e.answer = .error f ∧ f.isRetryable = true) ↔ e.commonResult.resultCode = rateLimitedCode := by
  by_cases hc : e.commonResult.resultCode = successCode
  · rw [Decoded.answer, if_pos hc, hc]
    constructor
    · rintro ⟨f, hf, -⟩
      cases hf
    · intro h
      cases h
  · rw [answer_of_ne_success hc]
    obtain ⟨-, -, hretry, -⟩ := faultOf_spec e.commonResult.resultCode e.commonResult.message?
    constructor
    · rintro ⟨f, hf, hr⟩
      cases hf
      rw [hretry] at hr
      exact of_decide_eq_true hr
    · intro h
      exact ⟨_, rfl, by rw [hretry]; exact decide_eq_true h⟩

/-- What the vendor's reader answers for any body. A blank body, `null` and `{}` are no data. A
body that is not JSON, and JSON holding no envelope, are malformed envelopes. An envelope with an
error code is that code's fault, with the code, the kind, and the first non-blank of its trimmed
description and reject reason or a non-empty default; one with code 0 gives its rows as they
stood and its reach. So an answer is worth another attempt exactly when the body holds an
envelope with the throttling code. -/
theorem parse_spec (b : String) :
    ((Text.isBlankText b = true ∨ Json.parse b = .ok .null ∨ Json.parse b = .ok (.obj [])) →
      parse b = .ok {}) ∧
    (∀ err, Text.isBlankText b = false → Json.parse b = .error err →
      parse b = .error (.envelope ("response is not JSON: " ++ err.message))) ∧
    (∀ v, Json.parse b = .ok v → v ≠ .null → v ≠ .obj [] → (¬ ∃ e : Decoded, e.Reads v) →
      ∃ m, parse b = .error (.envelope m)) ∧
    (∀ v (e : Decoded), Json.parse b = .ok v → e.Reads v → e.commonResult.resultCode ≠ successCode →
      ∃ f, parse b = .error f ∧ f.code = some e.commonResult.resultCode ∧
        f.variant = faultKind e.commonResult.resultCode ∧
        (∀ d, e.commonResult.message? = some d → f.message = d) ∧ f.message ≠ "") ∧
    (∀ v (e : Decoded), Json.parse b = .ok v → e.Reads v → e.commonResult.resultCode = successCode →
      parse b = .ok { records := e.records, maxGmtUpdateTime := e.reachedAt }) ∧
    ((∃ f, parse b = .error f ∧ f.isRetryable = true) ↔
      ∃ (v : Json) (e : Decoded), Json.parse b = .ok v ∧ e.Reads v ∧
        e.commonResult.resultCode = rateLimitedCode) := by
  refine ⟨?empty, ?notJson, ?noEnvelope, ?fault, ?rows, ?retry⟩
  case empty =>
    rintro (hb | hp | hp)
    · exact parse_of_blank hb
    · exact parse_of_null (isBlankText_of_parse_ok hp) hp
    · exact parse_of_empty (isBlankText_of_parse_ok hp) hp
  case notJson => exact fun err hb hp => parse_of_not_json hb hp
  case noEnvelope =>
    intro v hp hnull hempty hno
    cases hs : shape.ofJson v with
    | error err => exact ⟨_, parse_of_shape_error hp hnull hempty hs⟩
    | ok d =>
      obtain ⟨e, -, he, -, -⟩ := reads_of_shape_ofJson hs
      exact (hno ⟨e, he⟩).elim
  case fault =>
    intro v e hp he hc
    obtain ⟨hcode, hkind, -, fallback, hfallback, hmsg⟩ :=
      faultOf_spec e.commonResult.resultCode e.commonResult.message?
    refine ⟨_, (parse_of_reads hp he).trans (answer_of_ne_success hc), hcode, hkind, ?_, ?_⟩
    · intro d hd
      rw [hmsg, hd]
      rfl
    · -- the message is a non-blank text of the result or the default
      rw [hmsg]
      cases hm : e.commonResult.message? with
      | none => exact hfallback
      | some d => exact firstNonBlank_ne_empty hm
  case rows =>
    intro v e hp he hc
    rw [parse_of_reads hp he, Decoded.answer, if_pos hc]
  case retry =>
    constructor
    · rintro ⟨f, hf, hr⟩
      rcases parse_cases b with h | ⟨m, h⟩ | ⟨v, e, hp, he, h⟩
      · rw [h] at hf
        cases hf
      · rw [h] at hf
        cases hf
        cases hr
      · rw [h] at hf
        exact ⟨v, e, hp, he, answer_retryable_iff.mp ⟨f, hf, hr⟩⟩
    · rintro ⟨v, e, hp, he, hc⟩
      rw [parse_of_reads hp he]
      exact answer_retryable_iff.mpr hc

theorem Except.eq_ok_of_toOption {ε α : Type} {x : Except ε α} {a : α} (h : x.toOption = some a) :
    x = .ok a := by
  rcases x with _ | b
  · cases h
  · cases h
    rfl

/-- A throttled answer whose reject reason is padded with blanks: the body holds an envelope with
the throttling code, and the fault carries the code and the trimmed reason and is worth another
attempt. -/
theorem parse_spec_throttled :
    ∃ (v : Json) (e : Decoded),
      Json.parse "\x7b\"CommonResult\":\x7b\"ResultCode\":1101,\"RejectReason\":\" slow down \"\x7d\x7d" = .ok v ∧
      e.Reads v ∧ e.commonResult.resultCode = rateLimitedCode ∧
      ∃ f, parse "\x7b\"CommonResult\":\x7b\"ResultCode\":1101,\"RejectReason\":\" slow down \"\x7d\x7d" =
          .error f ∧ f.code = some 1101 ∧ f.variant = "RateLimited" ∧ f.message = "slow down" ∧
        f.isRetryable = true := by
  -- the reader's own decoding of the body, evaluated once
  obtain ⟨d, hd, hread⟩ := Option.map_eq_some_iff.mp (by decide +kernel :
    (((Json.parse
          "\x7b\"CommonResult\":\x7b\"ResultCode\":1101,\"RejectReason\":\" slow down \"\x7d\x7d").toOption.bind
        fun v => (shape.ofJson v).toOption).map
      fun d => (codeOf (((d.get? "CommonResult").getD .null).get? "ResultCode"),
        description ((d.get? "CommonResult").getD .null))) = some (1101, some "slow down"))
  obtain ⟨v, hv, hs⟩ := Option.bind_eq_some_iff.mp hd
  obtain ⟨e, code, he, hcode, rfl⟩ := reads_of_shape_ofJson (Except.eq_ok_of_toOption hs)
  rw [decodedWith_result, fieldsWith_code, hcode.codeOf_eq, description_fieldsWith, Prod.mk.injEq] at hread
  obtain ⟨hc, hmsg⟩ := hread
  have hv := Except.eq_ok_of_toOption hv
  obtain ⟨f, hf, hfcode, hkind, hfmsg, -⟩ := (parse_spec _).2.2.2.1 v e hv he (by rw [hc]; decide)
  obtain ⟨f', hf', hretry⟩ := (parse_spec _).2.2.2.2.2.mpr ⟨v, e, hv, he, hc⟩
  rw [hf] at hf'
  cases hf'
  refine ⟨v, e, hv, he, hc, f, hf, by rw [hfcode, hc], by rw [hkind, hc]; rfl, hfmsg _ hmsg, hretry⟩

end Reader

end Envelope

end FleetTelemetry
