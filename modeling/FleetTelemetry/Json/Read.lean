import FleetTelemetry.Json.Value

/-!
# Reading JSON text

The reader works on the UTF-8 bytes of the text and reports where it stopped as a line and a
column, the column counting bytes since the last line feed. Numbers follow the value model of
`Number`: an integer stays an integer while it fits 64 bits; a fraction, an exponent, `-0` or a
longer integer gives a double. Digits beyond the first 19 or 20 that fit in 64 bits only move
the decimal exponent, and the kept integer is scaled by one power of ten (two beyond 10^308),
each step rounded as doubles round.

`Cursor` is the reading state; the functions here are the steps every decoder shares: blanks,
literals, numbers, strings, and skipping a whole value.
-/

namespace FleetTelemetry.Json

inductive Fault where
  | eofList | eofObject | eofString | eofValue
  | expectedColon | expectedListCommaOrEnd | expectedObjectCommaOrEnd
  | expectedIdent | expectedValue
  | invalidEscape | invalidNumber | numberOutOfRange
  | controlCharacter | keyMustBeString
  | loneLeadingSurrogate | unexpectedEndOfHexEscape
  | trailingComma | trailingCharacters | recursionLimit
  | custom (text : String)
  deriving BEq

def Fault.text : Fault → String
  | .eofList => "EOF while parsing a list"
  | .eofObject => "EOF while parsing an object"
  | .eofString => "EOF while parsing a string"
  | .eofValue => "EOF while parsing a value"
  | .expectedColon => "expected `:`"
  | .expectedListCommaOrEnd => "expected `,` or `]`"
  | .expectedObjectCommaOrEnd => "expected `,` or `\x7d`"
  | .expectedIdent => "expected ident"
  | .expectedValue => "expected value"
  | .invalidEscape => "invalid escape"
  | .invalidNumber => "invalid number"
  | .numberOutOfRange => "number out of range"
  | .controlCharacter => "control character (\\u0000-\\u001F) found while parsing a string"
  | .keyMustBeString => "key must be a string"
  | .loneLeadingSurrogate => "lone leading surrogate in hex escape"
  | .unexpectedEndOfHexEscape => "unexpected end of hex escape"
  | .trailingComma => "trailing comma"
  | .trailingCharacters => "trailing characters"
  | .recursionLimit => "recursion limit exceeded"
  | .custom t => t

/-- A fault, with the line and column where it was found when it came from a text. -/
structure Error where
  fault : Fault
  place : Option (Nat × Nat) := none

/-- The message of an error: the fault, then ` at line L column C` when it has a place. -/
def Error.message (e : Error) : String :=
  match e.place with
  | some (l, c) => e.fault.text ++ " at line " ++ toString l ++ " column " ++ toString c
  | none => e.fault.text

def Error.custom (t : String) : Error := ⟨.custom t, none⟩

/-- The reading state: the bytes and the index of the next one. -/
abbrev Cursor := StateT Nat (Except Error)

def placeOf (b : ByteArray) (i : Nat) : Nat × Nat :=
  let before := (b.extract 0 i).toList
  let lines := before.foldl (fun (n, col) x => if x == 10 then (n + 1, 0) else (n, col + 1)) (1, 0)
  lines

def failHere (b : ByteArray) (f : Fault) : Cursor α := do
  let i ← get
  throw ⟨f, some (placeOf b i)⟩

/-- Fails with a fault at the byte after the current one (the one just looked at). -/
def failAhead (b : ByteArray) (f : Fault) : Cursor α := do
  let i ← get
  throw ⟨f, some (placeOf b (min b.size (i + 1)))⟩

/-- Gives an error without a place the current index as its place. -/
def placeHere (b : ByteArray) (e : Error) : Cursor Error := do
  match e.place with
  | some _ => pure e
  | none => let i ← get; pure { e with place := some (placeOf b i) }

/-- Runs a step; an error without a place gets the index reached when it failed. -/
def located (b : ByteArray) (m : Cursor α) : Cursor α := fun i =>
  match m i with
  | .ok r => .ok r
  | .error e =>
    match e.place with
    | some _ => .error e
    | none => .error { e with place := some (placeOf b i) }

def peek (b : ByteArray) : Cursor (Option UInt8) := do
  let i ← get
  pure (if h : i < b.size then some b[i] else none)

def advance : Cursor Unit := modify (· + 1)

def next (b : ByteArray) : Cursor (Option UInt8) := do
  let c ← peek b
  if c.isSome then advance
  pure c

def isBlank (c : UInt8) : Bool := c == 32 || c == 10 || c == 13 || c == 9

def skipBlanks (b : ByteArray) : Cursor (Option UInt8) := do
  let i ← get
  let rec go (j : Nat) (fuel : Nat) : Nat :=
    match fuel with
    | 0 => j
    | fuel + 1 => if h : j < b.size then (if isBlank b[j] then go (j + 1) fuel else j) else j
  let j := go i (b.size - i)
  set j
  peek b

def isDigit (c : UInt8) : Bool := 48 ≤ c && c ≤ 57

/-- Reads the rest of a literal after its first letter. -/
def expectLiteral (b : ByteArray) : List UInt8 → Cursor Unit
  | [] => pure ()
  | x :: rest => do
    match ← next b with
    | none => failHere b .eofValue
    | some c => if c == x then expectLiteral b rest else failHere b .expectedIdent

/-! ### Numbers -/

def overflows (acc d max : Nat) : Bool := acc ≥ max / 10 && (acc > max / 10 || d > max % 10)

def clampI32 (i : Int) : Int := max Word.i32Min (min Word.i32Max i)

/-- `significand · 10^exponent` computed as doubles: the significand rounded once, then scaled
by a power of ten from the table `10^0 … 10^308`, dividing by `10^308` first while the exponent
is below the table. A result beyond the doubles is a fault. -/
def scaleByTen (b : ByteArray) (positive : Bool) (significand : Nat) (exponent : Int) :
    Cursor Float := do
  let rec go (f : Float) (e : Int) : Nat → Cursor Float
    | 0 => pure f
    | fuel + 1 =>
      if e.natAbs ≤ 308 then
        if 0 ≤ e then
          let g := f * Binary64.powTen e.toNat
          if Binary64.isFinite g then pure g else failHere b .numberOutOfRange
        else pure (f / Binary64.powTen e.natAbs)
      else if f == 0 then pure f
      else if 0 ≤ e then failHere b .numberOutOfRange
      else go (f / Binary64.powTen 308) (e + 308) fuel
  let f ← go (Binary64.ofNat significand) exponent 16
  pure (if positive then f else -f)

def skipDigits (b : ByteArray) : Cursor Unit := do
  let i ← get
  let rec go (j : Nat) (fuel : Nat) : Nat :=
    match fuel with
    | 0 => j
    | fuel + 1 => if h : j < b.size then (if isDigit b[j] then go (j + 1) fuel else j) else j
  set (go i (b.size - i))

def readExponent (b : ByteArray) (positive : Bool) (significand : Nat) (start : Int) :
    Cursor Float := do
  advance
  let positiveExp ← do
    match ← peek b with
    | some 43 => advance; pure true
    | some 45 => advance; pure false
    | _ => pure true
  match ← next b with
  | none => failHere b .eofValue
  | some c =>
    if !isDigit c then failHere b .invalidNumber
    else
      let rec go (exp : Nat) : Nat → Cursor (Option Nat)
        | 0 => pure (some exp)
        | fuel + 1 => do
          match ← peek b with
          | some d =>
            if isDigit d then
              advance
              let digit := (d - 48).toNat
              if overflows exp digit Word.i32Max.toNat then pure none else go (exp * 10 + digit) fuel
            else pure (some exp)
          | none => pure (some exp)
      match ← go (c - 48).toNat b.size with
      | some exp =>
        let final := clampI32 (if positiveExp then start + exp else start - exp)
        scaleByTen b positive significand final
      | none =>
        if significand ≠ 0 && positiveExp then failHere b .numberOutOfRange
        else
          skipDigits b
          pure (if positive then 0.0 else -0.0)

/-- After the kept digits overflowed: later digits are skipped. -/
def readOverflowTail (b : ByteArray) (positive : Bool) (significand : Nat) (exponent : Int) :
    Cursor Float := do
  skipDigits b
  match ← peek b with
  | some 101 | some 69 => readExponent b positive significand exponent
  | _ => scaleByTen b positive significand exponent

def readFraction (b : ByteArray) (positive : Bool) (significand : Nat) (before : Int) :
    Cursor Float := do
  advance
  let rec go (sig : Nat) (after : Nat) : Nat → Cursor (Nat × Nat × Bool)
    | 0 => pure (sig, after, false)
    | fuel + 1 => do
      match ← peek b with
      | some d =>
        if isDigit d then
          let digit := (d - 48).toNat
          if overflows sig digit Word.u64Max then pure (sig, after, true)
          else advance; go (sig * 10 + digit) (after + 1) fuel
        else pure (sig, after, false)
      | none => pure (sig, after, false)
  let (sig, after, overflowed) ← go significand 0 b.size
  if overflowed then readOverflowTail b positive sig (before - after)
  else if after = 0 then
    match ← peek b with
    | some _ => failAhead b .invalidNumber
    | none => failAhead b .eofValue
  else
    match ← peek b with
    | some 101 | some 69 => readExponent b positive sig (before - after)
    | _ => scaleByTen b positive sig (before - after)

/-- After the kept integer digits overflowed: the rest count toward the exponent. -/
def readLongInteger (b : ByteArray) (positive : Bool) (significand : Nat) : Cursor Float := do
  let rec go (exp : Nat) : Nat → Cursor Float
    | 0 => scaleByTen b positive significand exp
    | fuel + 1 => do
      match ← peek b with
      | some d =>
        if isDigit d then advance; go (exp + 1) fuel
        else if d == 46 then readFraction b positive significand exp
        else if d == 101 || d == 69 then readExponent b positive significand exp
        else scaleByTen b positive significand exp
      | none => scaleByTen b positive significand exp
  go 0 b.size

/-- The number kind of an integer text: a negative integer of magnitude at most `2^63` is
signed, `-0` and larger magnitudes become doubles. -/
def integerNumber (positive : Bool) (significand : Nat) : Number :=
  if positive then .nat significand
  else if 0 < significand ∧ significand ≤ Word.i64Min.natAbs then .neg (-(significand : Int))
  else .float (-(Binary64.ofNat significand))

def readNumberTail (b : ByteArray) (positive : Bool) (significand : Nat) : Cursor Number := do
  match ← peek b with
  | some 46 => .float <$> readFraction b positive significand 0
  | some 101 | some 69 => .float <$> readExponent b positive significand 0
  | _ => pure (integerNumber positive significand)

def readNumber (b : ByteArray) (positive : Bool) : Cursor Number := do
  match ← next b with
  | none => failHere b .eofValue
  | some c =>
    if c == 48 then
      match ← peek b with
      | some d => if isDigit d then failAhead b .invalidNumber else readNumberTail b positive 0
      | none => readNumberTail b positive 0
    else if isDigit c then
      let rec go (sig : Nat) : Nat → Cursor Number
        | 0 => readNumberTail b positive sig
        | fuel + 1 => do
          match ← peek b with
          | some d =>
            if isDigit d then
              let digit := (d - 48).toNat
              if overflows sig digit Word.u64Max then .float <$> readLongInteger b positive sig
              else advance; go (sig * 10 + digit) fuel
            else readNumberTail b positive sig
          | none => readNumberTail b positive sig
      go (c - 48).toNat b.size
    else failHere b .invalidNumber

/-! ### Strings -/

def hexValue (c : UInt8) : Option Nat :=
  if 48 ≤ c && c ≤ 57 then some (c - 48).toNat
  else if 97 ≤ c && c ≤ 102 then some (c - 87).toNat
  else if 65 ≤ c && c ≤ 70 then some (c - 55).toNat
  else none

def readHex4 (b : ByteArray) : Cursor Nat := do
  let i ← get
  if i + 4 ≤ b.size then
    set (i + 4)
    let byteAt (k : Nat) : UInt8 := b[k]?.getD 0
    match hexValue (byteAt i), hexValue (byteAt (i + 1)), hexValue (byteAt (i + 2)), hexValue (byteAt (i + 3)) with
    | some a, some c, some d, some e => pure (((a * 16 + c) * 16 + d) * 16 + e)
    | _, _, _, _ => failHere b .invalidEscape
  else
    set b.size
    failHere b .eofString

def utf8Bytes (n : Nat) : List UInt8 :=
  (String.singleton (Char.ofNat n)).toUTF8.toList

/-- The character of a `\u` escape, joining a surrogate pair. -/
def readUnicodeEscape (b : ByteArray) : Cursor (List UInt8) := do
  let n ← readHex4 b
  if 0xDC00 ≤ n ∧ n ≤ 0xDFFF then failHere b .loneLeadingSurrogate
  else if n < 0xD800 ∨ n > 0xDBFF then pure (utf8Bytes n)
  else
    match ← peek b with
    | none => failHere b .eofString
    | some c =>
      if c != 92 then advance; failHere b .unexpectedEndOfHexEscape
      else
        advance
        match ← peek b with
        | none => failHere b .eofString
        | some d =>
          if d != 117 then advance; failHere b .unexpectedEndOfHexEscape
          else
            advance
            let n2 ← readHex4 b
            if n2 < 0xDC00 ∨ n2 > 0xDFFF then failHere b .loneLeadingSurrogate
            else pure (utf8Bytes (((n - 0xD800) <<< 10 ||| (n2 - 0xDC00)) + 0x10000))

def readEscape (b : ByteArray) : Cursor (List UInt8) := do
  match ← next b with
  | none => failHere b .eofString
  | some c =>
    if c == 34 then pure [34]
    else if c == 92 then pure [92]
    else if c == 47 then pure [47]
    else if c == 98 then pure [8]
    else if c == 102 then pure [12]
    else if c == 110 then pure [10]
    else if c == 114 then pure [13]
    else if c == 116 then pure [9]
    else if c == 117 then readUnicodeEscape b
    else failHere b .invalidEscape

def readString (b : ByteArray) : Cursor String := do
  let rec go (acc : Array UInt8) : Nat → Cursor (Array UInt8)
    | 0 => failHere b .eofString
    | fuel + 1 => do
      match ← next b with
      | none => failHere b .eofString
      | some c =>
        if c == 34 then pure acc
        else if c == 92 then
          let bytes ← readEscape b
          go (acc ++ bytes.toArray) fuel
        else if c < 32 then failHere b .controlCharacter
        else go (acc.push c) fuel
  let bytes ← go #[] (b.size + 1)
  pure (String.fromUTF8? (ByteArray.mk bytes) |>.getD "")

/-! ### Whole values -/

def expectColon (b : ByteArray) : Cursor Unit := do
  match ← skipBlanks b with
  | some 58 => advance
  | some _ => failAhead b .expectedColon
  | none => failAhead b .eofObject

def closeArray (b : ByteArray) : Cursor Unit := do
  match ← skipBlanks b with
  | some 93 => advance
  | some 44 =>
    advance
    match ← skipBlanks b with
    | some 93 => failAhead b .trailingComma
    | _ => failAhead b .trailingCharacters
  | some _ => failAhead b .expectedListCommaOrEnd
  | none => failAhead b .eofList

def closeObject (b : ByteArray) : Cursor Unit := do
  match ← skipBlanks b with
  | some 125 => advance
  | some 44 => failAhead b .trailingComma
  | some _ => failAhead b .trailingCharacters
  | none => failAhead b .eofObject

/-- Looks for the next element of an array: `true` if one follows (blanks skipped),
`false` at the closing bracket. -/
def nextItem (b : ByteArray) (first : Bool) : Cursor Bool := do
  match ← skipBlanks b with
  | none => failAhead b .eofList
  | some c =>
    if c == 93 then pure false
    else if c == 44 && !first then
      advance
      match ← skipBlanks b with
      | some 93 => failAhead b .trailingComma
      | some _ => pure true
      | none => failAhead b .eofValue
    else if first then pure true
    else failAhead b .expectedListCommaOrEnd

/-- Looks for the next key of an object: `some key` (its colon read too), or `none` at the
closing brace. -/
def nextKey (b : ByteArray) (first : Bool) : Cursor (Option String) := do
  match ← skipBlanks b with
  | none => failAhead b .eofObject
  | some c =>
    if c == 125 then pure none
    else
      if c == 44 && !first then
        advance
        match ← skipBlanks b with
        | some 34 => pure ()
        | some 125 => failAhead b .trailingComma
        | some _ => failAhead b .keyMustBeString
        | none => failAhead b .eofValue
      else if first then
        if c == 34 then pure () else failAhead b .keyMustBeString
      else failAhead b .expectedObjectCommaOrEnd
      advance
      let k ← readString b
      pure (some k)

def depthLimit : Nat := 128

/-- The elements of an array, up to its closing bracket, each read by `item`. -/
def readItems (b : ByteArray) (item : Cursor Json) (first : Bool) (acc : Array Json) :
    Nat → Cursor (Array Json)
  | 0 => failHere b .eofList
  | fuel + 1 => do
    if ← nextItem b first then
      let v ← item
      readItems b item false (acc.push v) fuel
    else pure acc

/-- The members of an object, up to its closing brace, each value read by `item`. -/
def readMembers (b : ByteArray) (item : Cursor Json) (first : Bool) (acc : Array (String × Json)) :
    Nat → Cursor (Array (String × Json))
  | 0 => failHere b .eofObject
  | fuel + 1 => do
    match ← nextKey b first with
    | some k =>
      expectColon b
      let v ← item
      readMembers b item false (acc.push (k, v)) fuel
    | none => pure acc

/-- Reads one value (after blanks); `depth` counts the nesting levels still allowed. -/
def readValue (b : ByteArray) (depth : Nat) : Cursor Json := do
  match ← skipBlanks b with
  | none => failAhead b .eofValue
  | some c =>
    if c == 110 then advance; expectLiteral b [117, 108, 108]; pure .null
    else if c == 116 then advance; expectLiteral b [114, 117, 101]; pure (.bool true)
    else if c == 102 then advance; expectLiteral b [97, 108, 115, 101]; pure (.bool false)
    else if c == 45 then advance; .num <$> readNumber b false
    else if isDigit c then .num <$> readNumber b true
    else if c == 34 then advance; .str <$> readString b
    else if c == 91 then
      match depth with
      | 0 | 1 => failAhead b .recursionLimit
      | d + 2 =>
        advance
        let items ← readItems b (readValue b (d + 1)) true #[] (b.size + 1)
        closeArray b
        pure (.arr items.toList)
    else if c == 123 then
      match depth with
      | 0 | 1 => failAhead b .recursionLimit
      | d + 2 =>
        advance
        let ms ← readMembers b (readValue b (d + 1)) true #[] (b.size + 1)
        closeObject b
        pure (Json.sortedObj ms.toList)
    else failAhead b .expectedValue
termination_by structural depth

def expectEnd (b : ByteArray) : Cursor Unit := do
  match ← skipBlanks b with
  | some _ => failAhead b .trailingCharacters
  | none => pure ()

def parse (s : String) : Except Error Json :=
  let b := s.toUTF8
  (do let v ← readValue b depthLimit; expectEnd b; pure v).run' 0

end FleetTelemetry.Json
