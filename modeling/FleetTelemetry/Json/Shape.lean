import FleetTelemetry.Json.Read

/-!
# Typed decoding

A `Shape` says what a typed decoder accepts: strings, integers of a given range, records with
named fields, lists, dictionaries, optional values, a closed set of names, or strings checked by
a parser. Decoding either reads a text (`Shape.readText`) or looks at a value already read
(`Shape.ofJson`); both give back the accepted value as JSON, records as objects with their
fields in declaration order and defaults filled in.

The messages name what was found and what was expected (`invalid type: integer \`5\`,
expected a string`). Reading a text reports the first problem in reading order, with the place
it was noticed; decoding a value visits an object's members in key order and gives no place.
-/

namespace FleetTelemetry.Json

inductive Shape where
  | any
  | string
  | boolean
  /-- An integer in `[lo, hi]`; `kind` names the range in messages (`i64`, `u8`, ...). -/
  | integer (kind : String) (lo hi : Int)
  | double
  | option (inner : Shape)
  | list (inner : Shape)
  | dict (inner : Shape)
  /-- A record: fields with their shapes and defaults (a field without a default is required,
  unless its shape is optional). `inline` fields are looked up among the members no named field
  takes, after all other fields. -/
  | record (name : String) (fields : List (String × Shape × Option Json))
      (inline : List (String × Shape × Option Json))
  | choice (names : List String)
  /-- A string checked by a parser; `expecting` names it in messages, `check` gives the
  complaint for a rejected string. -/
  | parsed (expecting : String) (check : String → Option String)

def debugQuote (s : String) : String :=
  "\"" ++ String.join (s.toList.map escape) ++ "\""
where
  hidden (n : Nat) : Bool :=
    n < 0x20 || (0x7F ≤ n && n ≤ 0xA0) || n == 0xAD || (0x300 ≤ n && n ≤ 0x36F)
      || (0x200B ≤ n && n ≤ 0x200F) || (0x2028 ≤ n && n ≤ 0x202E) || (0x2060 ≤ n && n ≤ 0x2064)
      || n == 0xFEFF
  hex (n : Nat) : String :=
    String.ofList ((Nat.toDigits 16 n).map fun c => c.toLower)
  escape (c : Char) : String :=
    if c = '"' then "\\\"" else if c = '\\' then "\\\\"
    else if c = '\n' then "\\n" else if c = '\r' then "\\r" else if c = '\t' then "\\t"
    else if c.toNat = 0 then "\\0"
    else if hidden c.toNat then "\\u\x7b" ++ hex c.toNat ++ "\x7d"
    else String.singleton c

def describe : Json → String
  | .null => "null"
  | .bool b => "boolean `" ++ (if b then "true" else "false") ++ "`"
  | .num (.nat n) => "integer `" ++ toString n ++ "`"
  | .num (.neg n) => "integer `" ++ toString n ++ "`"
  | .num (.float x) => "floating point `" ++ Binary64.jsonText x ++ "`"
  | .str s => "string " ++ debugQuote s
  | .arr _ => "sequence"
  | .obj _ => "map"

def invalidType (found expected : String) : Error :=
  .custom ("invalid type: " ++ found ++ ", expected " ++ expected)

def invalidValue (found expected : String) : Error :=
  .custom ("invalid value: " ++ found ++ ", expected " ++ expected)

def invalidLength (n : Nat) (expected : String) : Error :=
  .custom ("invalid length " ++ toString n ++ ", expected " ++ expected)

def oneOf : List String → String
  | [] => "there are no variants"
  | [a] => "`" ++ a ++ "`"
  | [a, b] => "`" ++ a ++ "` or `" ++ b ++ "`"
  | names => "one of " ++ ", ".intercalate (names.map fun n => "`" ++ n ++ "`")

def unknownVariant (name : String) (names : List String) : Error :=
  match names with
  | [] => .custom ("unknown variant `" ++ name ++ "`, there are no variants")
  | _ => .custom ("unknown variant `" ++ name ++ "`, expected " ++ oneOf names)

def Shape.expecting : Shape → String
  | .any => "any valid JSON value"
  | .string => "a string"
  | .boolean => "a boolean"
  | .integer kind _ _ => kind
  | .double => "f64"
  | .option _ => "option"
  | .list _ => "a sequence"
  | .dict _ => "a map"
  | .record name _ _ => "struct " ++ name
  | .choice _ => "string or map"
  | .parsed e _ => e

/-- The record's expectation when given as a list of its fields. -/
def recordLengthText (name : String) (n : Nat) : String :=
  "struct " ++ name ++ " with " ++ toString n ++ " element" ++ (if n = 1 then "" else "s")

def integerOf (kind : String) (lo hi : Int) : Number → Except Error Json
  | .nat n => if (n : Int) ≤ hi then .ok (.num (.nat n)) else .error (invalidValue ("integer `" ++ toString n ++ "`") kind)
  | .neg n => if lo ≤ n then .ok (.num (.neg n)) else .error (invalidValue ("integer `" ++ toString n ++ "`") kind)
  | .float x => .error (invalidType (describe (.num (.float x))) kind)

/-- A field is optional in the object form when it has a default or an optional shape. -/
def fieldDefault : Shape × Option Json → Option Json
  | (_, some d) => some d
  | (.option _, none) => some .null
  | _ => none

/-! ### Decoding a value already read -/

/-- Puts found fields in declaration order, filling defaults; a missing required field is an
error. -/
def fillFields : List (String × Shape × Option Json) → List (String × Json) →
    Except Error (List (String × Json))
  | [], _ => .ok []
  | (k, s, d) :: fs, found =>
    match found.lookup k with
    | some v => do let rest ← fillFields fs found; pure ((k, v) :: rest)
    | none =>
      match fieldDefault (s, d) with
      | some v => do let rest ← fillFields fs found; pure ((k, v) :: rest)
      | none => .error (.custom ("missing field `" ++ k ++ "`"))

def consField (k : String) (v : Json) : Json → Json
  | .obj ms => .obj ((k, v) :: ms)
  | other => other

mutual

def Shape.ofJson (shape : Shape) (value : Json) : Except Error Json :=
  match shape, value with
  | .any, v => .ok v
  | .string, .str s => .ok (.str s)
  | .string, v => .error (invalidType (describe v) "a string")
  | .boolean, .bool b => .ok (.bool b)
  | .boolean, v => .error (invalidType (describe v) "a boolean")
  | .integer kind lo hi, .num n => integerOf kind lo hi n
  | .integer kind _ _, v => .error (invalidType (describe v) kind)
  | .double, .num n => .ok (.num (.float n.toFloat))
  | .double, v => .error (invalidType (describe v) "f64")
  | .option _, .null => .ok .null
  | .option s, v => s.ofJson v
  | .list s, .arr xs => .arr <$> Shape.ofJsonList s xs
  | .list _, v => .error (invalidType (describe v) "a sequence")
  | .dict s, .obj ms => (fun ms => Json.sortedObj ms) <$> Shape.ofJsonMembers s ms
  | .dict _, v => .error (invalidType (describe v) "a map")
  | .record name fields inline, .arr xs =>
    if inline.isEmpty then Shape.recordOfList name fields.length fields xs 0
    else .error (invalidType "sequence" ("struct " ++ name))
  | .record _ fields inline, .obj ms => Shape.recordOfMembers fields inline ms
  | .record name _ _, v => .error (invalidType (describe v) ("struct " ++ name))
  | .choice names, .str s => if names.contains s then .ok (.str s) else .error (unknownVariant s names)
  | .choice names, .obj [(k, v)] =>
    if names.contains k then
      match v with
      | .null => .ok (.str k)
      | other => .error (invalidType (describe other) "unit")
    else .error (unknownVariant k names)
  | .choice _, .obj _ => .error (invalidValue "map" "map with a single key")
  | .choice _, v => .error (invalidType (describe v) "string or map")
  | .parsed _ check, .str s =>
    match check s with
    | some complaint => .error (.custom complaint)
    | none => .ok (.str s)
  | .parsed e _, v => .error (invalidType (describe v) e)
termination_by sizeOf shape + sizeOf value
decreasing_by
  all_goals simp only [Shape.option.sizeOf_spec, Shape.list.sizeOf_spec, Shape.dict.sizeOf_spec,
    Shape.record.sizeOf_spec, Json.arr.sizeOf_spec, Json.obj.sizeOf_spec]
  all_goals omega

def Shape.ofJsonList (s : Shape) : List Json → Except Error (List Json)
  | [] => .ok []
  | x :: xs => do
    let y ← s.ofJson x
    let ys ← Shape.ofJsonList s xs
    pure (y :: ys)
termination_by xs => sizeOf s + sizeOf xs
decreasing_by
  all_goals simp only [List.cons.sizeOf_spec]
  all_goals omega

def Shape.ofJsonMembers (s : Shape) : List (String × Json) → Except Error (List (String × Json))
  | [] => .ok []
  | (k, x) :: ms => do
    let y ← s.ofJson x
    let ys ← Shape.ofJsonMembers s ms
    pure ((k, y) :: ys)
termination_by ms => sizeOf s + sizeOf ms
decreasing_by
  all_goals simp only [List.cons.sizeOf_spec, Prod.mk.sizeOf_spec]
  all_goals omega

def Shape.recordOfList (name : String) (n : Nat) :
    List (String × Shape × Option Json) → List Json → Nat → Except Error Json
  | [], [], _ => .ok (.obj [])
  | [], extra, i => .error (invalidLength (i + extra.length) "fewer elements in array")
  | (k, _, d) :: fs, [], i =>
    match d with
    | some v => consField k v <$> Shape.recordOfList name n fs [] (i + 1)
    | none => .error (invalidLength i (recordLengthText name n))
  | (k, s, _) :: fs, x :: xs, i => do
    let v ← s.ofJson x
    consField k v <$> Shape.recordOfList name n fs xs (i + 1)
termination_by fs xs => sizeOf fs + sizeOf xs
decreasing_by
  all_goals simp only [List.cons.sizeOf_spec, Prod.mk.sizeOf_spec]
  all_goals omega

def Shape.recordOfMembers (fields inline : List (String × Shape × Option Json))
    (ms : List (String × Json)) : Except Error Json := do
  let found ← Shape.decodeKnown fields [] ms
  let own ← fillFields fields found
  let inlineFound ← Shape.decodeKnown inline (fields.map (·.1)) ms
  let flat ← fillFields inline inlineFound
  pure (.obj (own ++ flat))
termination_by sizeOf fields + sizeOf inline + sizeOf ms + 1
decreasing_by all_goals omega

/-- Decodes the members that name a field (other than the `taken` names), in member order; a
repeated field is an error. -/
def Shape.decodeKnown (fields : List (String × Shape × Option Json)) (taken : List String) :
    List (String × Json) → Except Error (List (String × Json))
  | [] => .ok []
  | (k, x) :: ms =>
    if taken.contains k then Shape.decodeKnown fields taken ms
    else
      match _hfound : fields.find? (fun (f, _) => f == k) with
      | some (_, s, _) => do
        let y ← s.ofJson x
        let rest ← Shape.decodeKnown fields taken ms
        if rest.any (fun (f, _) => f == k) then .error (.custom ("duplicate field `" ++ k ++ "`"))
        else pure ((k, y) :: rest)
      | none => Shape.decodeKnown fields taken ms
termination_by ms => sizeOf fields + sizeOf ms
decreasing_by
  all_goals simp only [List.cons.sizeOf_spec, Prod.mk.sizeOf_spec]
  · omega
  · -- the field's shape is part of the record's
    have hmem := List.sizeOf_lt_of_mem (List.mem_of_find?_eq_some _hfound)
    simp only [Prod.mk.sizeOf_spec] at hmem
    omega
  · omega
  · omega

end

end FleetTelemetry.Json
