import FleetTelemetry.Json.Shape

/-!
# Typed decoding of a text

`Shape.readText` reads a text by a shape in one pass. A complaint about the kind of a value
reads past that value first, so its place is just after it; a complaint about a record as a
whole (a missing or repeated field, too few elements) is placed after the record's closing
bracket.
-/

namespace FleetTelemetry.Json

def placedHere (b : ByteArray) (e : Error) : Cursor Error := do
  let i ← get
  pure (match e.place with
    | some _ => e
    | none => { e with place := some (placeOf b i) })

def complain (b : ByteArray) (e : Error) : Cursor α := do
  throw (← placedHere b e)

def wrongKind (b : ByteArray) (expected : String) : Cursor α := do
  match ← peek b with
  | some 110 => advance; expectLiteral b [117, 108, 108]; complain b (invalidType "null" expected)
  | some 116 =>
    advance; expectLiteral b [114, 117, 101]; complain b (invalidType "boolean `true`" expected)
  | some 102 =>
    advance; expectLiteral b [97, 108, 115, 101]; complain b (invalidType "boolean `false`" expected)
  | some 45 =>
    advance
    let n ← readNumber b false
    complain b (invalidType (describe (.num n)) expected)
  | some 34 =>
    advance
    let s ← readString b
    complain b (invalidType (describe (.str s)) expected)
  | some 91 => complain b (invalidType "sequence" expected)
  | some 123 => complain b (invalidType "map" expected)
  | some c =>
    if isDigit c then
      let n ← readNumber b true
      complain b (invalidType (describe (.num n)) expected)
    else failAhead b .expectedValue
  | none => failAhead b .expectedValue

/-- What reading does at the end of an array after its contents were refused: blanks and the
closing bracket are taken. -/
def settleArray (b : ByteArray) : Cursor Unit := do
  match ← skipBlanks b with
  | some 93 => advance
  | some 44 => advance; discard (skipBlanks b)
  | _ => pure ()

/-- What reading does at the end of an object after its contents were refused. -/
def settleObject (b : ByteArray) : Cursor Unit := do
  match ← skipBlanks b with
  | some 125 => advance
  | _ => pure ()

/-- Ends a record body with a complaint about the record as a whole: the closing bracket is
taken first, so the complaint is placed after it. -/
def stopAt (b : ByteArray) (settle : Cursor Unit) (e : Error) : Cursor α := do
  settle
  complain b e

mutual

/-- Reads a value by a shape; `depth` counts the nesting levels still allowed. -/
def Shape.read (b : ByteArray) (depth : Nat) (shape : Shape) : Cursor Json := do
  match shape with
  | .any => readValue b depth
  | .option inner =>
    match ← skipBlanks b with
    | some 110 => advance; expectLiteral b [117, 108, 108]; pure .null
    | _ => inner.read b depth
  | .string =>
    match ← skipBlanks b with
    | some 34 => advance; .str <$> readString b
    | some _ => wrongKind b "a string"
    | none => failAhead b .eofValue
  | .parsed expecting check =>
    match ← skipBlanks b with
    | some 34 =>
      advance
      let s ← readString b
      match check s with
      | some complaint => complain b (.custom complaint)
      | none => pure (.str s)
    | some _ => wrongKind b expecting
    | none => failAhead b .eofValue
  | .boolean =>
    match ← skipBlanks b with
    | some 116 => advance; expectLiteral b [114, 117, 101]; pure (.bool true)
    | some 102 => advance; expectLiteral b [97, 108, 115, 101]; pure (.bool false)
    | some _ => wrongKind b "a boolean"
    | none => failAhead b .eofValue
  | .integer kind lo hi =>
    match ← skipBlanks b with
    | some 45 =>
      advance
      let n ← readNumber b false
      match integerOf kind lo hi n with
      | .ok v => pure v
      | .error e => complain b e
    | some c =>
      if isDigit c then
        let n ← readNumber b true
        match integerOf kind lo hi n with
        | .ok v => pure v
        | .error e => complain b e
      else wrongKind b kind
    | none => failAhead b .eofValue
  | .double =>
    match ← skipBlanks b with
    | some 45 => advance; let n ← readNumber b false; pure (.num (.float n.toFloat))
    | some c =>
      if isDigit c then do let n ← readNumber b true; pure (.num (.float n.toFloat))
      else wrongKind b "f64"
    | none => failAhead b .eofValue
  | .list inner =>
    match ← skipBlanks b with
    | some 91 =>
      match depth with
      | 0 | 1 => failAhead b .recursionLimit
      | d + 2 =>
        advance
        let items ← Shape.readItems b (d + 1) inner true #[] (b.size + 1)
        closeArray b
        pure (.arr items.toList)
    | some _ => wrongKind b "a sequence"
    | none => failAhead b .eofValue
  | .dict inner =>
    match ← skipBlanks b with
    | some 123 =>
      match depth with
      | 0 | 1 => failAhead b .recursionLimit
      | d + 2 =>
        advance
        let ms ← Shape.readMembers b (d + 1) inner true #[] (b.size + 1)
        closeObject b
        pure (Json.sortedObj ms.toList)
    | some _ => wrongKind b "a map"
    | none => failAhead b .eofValue
  | .record name fields inline =>
    match ← skipBlanks b with
    | some 91 =>
      if inline.isEmpty then
        match depth with
        | 0 | 1 => failAhead b .recursionLimit
        | d + 2 =>
          advance
          let r ← Shape.readFieldList b (d + 1) name fields.length fields 0 true
          closeArray b
          pure r
      else wrongKind b ("struct " ++ name)
    | some 123 =>
      match depth with
      | 0 | 1 => failAhead b .recursionLimit
      | d + 2 =>
        advance
        let (own, rest) ← Shape.readFieldMembers b (d + 1) fields true [] [] (b.size + 1)
        match fillFields fields own with
        | .error e => stopAt b (settleObject b) e
        | .ok ownFields =>
          match Shape.decodeKnown inline [] rest >>= fillFields inline with
          | .error e => stopAt b (settleObject b) e
          | .ok flat =>
            closeObject b
            pure (.obj (ownFields ++ flat))
    | some _ => wrongKind b ("struct " ++ name)
    | none => failAhead b .eofValue
  | .choice names =>
    match ← skipBlanks b with
    | some 34 =>
      advance
      let s ← readString b
      if names.contains s then pure (.str s) else complain b (unknownVariant s names)
    | some 123 =>
      advance
      match ← skipBlanks b with
      | some 34 =>
        advance
        let s ← readString b
        if !names.contains s then complain b (unknownVariant s names)
        else
          expectColon b
          match ← skipBlanks b with
          | some 110 => advance; expectLiteral b [117, 108, 108]
          | some _ => wrongKind b "unit"
          | none => failAhead b .eofValue
          match ← skipBlanks b with
          | some 125 => advance; pure (.str s)
          | some _ => failHere b .expectedValue
          | none => failHere b .eofObject
      | some _ => wrongKind b "string or map"
      | none => failAhead b .eofValue
    | some _ => failAhead b .expectedValue
    | none => failAhead b .eofValue
termination_by (depth, 1, sizeOf shape)

def Shape.readItems (b : ByteArray) (depth : Nat) (inner : Shape) (first : Bool)
    (acc : Array Json) : Nat → Cursor (Array Json)
  | 0 => failHere b .eofList
  | fuel + 1 => do
    if ← nextItem b first then
      let v ← inner.read b depth
      Shape.readItems b depth inner false (acc.push v) fuel
    else pure acc
termination_by fuel => (depth, 2, fuel)

def Shape.readMembers (b : ByteArray) (depth : Nat) (inner : Shape) (first : Bool)
    (acc : Array (String × Json)) : Nat → Cursor (Array (String × Json))
  | 0 => failHere b .eofObject
  | fuel + 1 => do
    match ← nextKey b first with
    | some k =>
      expectColon b
      let v ← inner.read b depth
      Shape.readMembers b depth inner false (acc.push (k, v)) fuel
    | none => pure acc
termination_by fuel => (depth, 2, fuel)

def Shape.readFieldList (b : ByteArray) (depth : Nat) (name : String) (n : Nat) :
    List (String × Shape × Option Json) → Nat → Bool → Cursor Json
  | [], _, _ => pure (.obj [])
  | (k, s, d) :: fs, i, first => do
    if ← nextItem b first then
      let v ← s.read b depth
      consField k v <$> Shape.readFieldList b depth name n fs (i + 1) false
    else
      match d with
      | some v => consField k v <$> Shape.readFieldList b depth name n fs (i + 1) false
      | none => stopAt b (settleArray b) (invalidLength i (recordLengthText name n))
termination_by fs => (depth, 2, sizeOf fs)

/-- The members of a record object: the named fields decoded in reading order, the other
members kept as read. -/
def Shape.readFieldMembers (b : ByteArray) (depth : Nat) (fields : List (String × Shape × Option Json))
    (first : Bool) (own rest : List (String × Json)) :
    Nat → Cursor (List (String × Json) × List (String × Json))
  | 0 => failHere b .eofObject
  | fuel + 1 => do
    match ← nextKey b first with
    | some k =>
      match fields.find? (fun (f, _) => f == k) with
      | some (_, s, _) =>
        if own.any (fun (f, _) => f == k) then
          stopAt b (settleObject b) (.custom ("duplicate field `" ++ k ++ "`"))
        else
          expectColon b
          let v ← s.read b depth
          Shape.readFieldMembers b depth fields false (own ++ [(k, v)]) rest fuel
      | none =>
        expectColon b
        let v ← readValue b depth
        Shape.readFieldMembers b depth fields false own (rest ++ [(k, v)]) fuel
    | none => pure (own, rest)
termination_by fuel => (depth, 2, fuel)

end

def Shape.readText (shape : Shape) (s : String) : Except Error Json :=
  let b := s.toUTF8
  (do let v ← shape.read b depthLimit; expectEnd b; pure v).run' 0

end FleetTelemetry.Json
