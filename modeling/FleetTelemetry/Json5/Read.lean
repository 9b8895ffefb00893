import FleetTelemetry.Peg.Parser
import FleetTelemetry.Text.Packed
import FleetTelemetry.Json5.CharData
import FleetTelemetry.Float.Read
import FleetTelemetry.Float.Bits

/-!
# Reading JSON5 documents

JSON5 extends JSON with what people write by hand: names as keys (`{name: 1}`), strings in
single quotes, a line break escaped inside a string, trailing commas, `//` and `/* */` comments,
hexadecimal integers, numbers with a leading `+` or a bare decimal point, and `Infinity` and
`NaN`.

The document is read by its grammar, and a text that does not fit is reported with the rules
expected at the furthest place reading got to (see `FleetTelemetry.Peg`). A number written as an
integer (no point, no exponent) must fit 64 bits, a hexadecimal one 32 bits; any other number is
a double, and must be finite unless written `Infinity`.
-/

namespace FleetTelemetry.Json5

open FleetTelemetry.Peg

inductive Rule where
  | eoi
  | array
  | boolean
  | charEscapeSequence
  | charLiteral
  | hexEscapeSequence
  | identifier
  | nulEscapeSequence
  | null
  | number
  | object
  | string
  | unicodeEscapeSequence

def Rule.rank : Rule → Nat
  | .eoi => 0
  | .array => 1
  | .boolean => 2
  | .charEscapeSequence => 3
  | .charLiteral => 4
  | .hexEscapeSequence => 5
  | .identifier => 6
  | .nulEscapeSequence => 7
  | .null => 8
  | .number => 9
  | .object => 10
  | .string => 11
  | .unicodeEscapeSequence => 12

def Rule.name : Rule → String
  | .eoi => "EOI"
  | .array => "array"
  | .boolean => "boolean"
  | .charEscapeSequence => "char_escape_sequence"
  | .charLiteral => "char_literal"
  | .hexEscapeSequence => "hex_escape_sequence"
  | .identifier => "identifier"
  | .nulEscapeSequence => "nul_escape_sequence"
  | .null => "null"
  | .number => "number"
  | .object => "object"
  | .string => "string"
  | .unicodeEscapeSequence => "unicode_escape_sequence"

/-- A piece of a string as written: a character, or the code of a hexadecimal escape. -/
inductive Piece where
  | char (c : Char)
  | code (n : Nat)

/-- A document as read, before its strings and numbers are given their values. -/
inductive Tree where
  | null
  | bool (b : Bool)
  | text (pieces : List Piece)
  | number (written : String)
  | object (members : List (List Piece × Tree))
  | array (items : List Tree)
  deriving Inhabited

abbrev P (α : Type) := Parser Rule α

open Parser

/-! ### Characters -/

def letters : Text.RangeSet := Text.RangeSet.read letterText

def nameParts : Text.RangeSet := Text.RangeSet.read namePartText

def isLineTerminator (c : Char) : Bool :=
  c = '\n' || c = '\r' || c = '\u2028' || c = '\u2029'

/-- A blank: a tab, a vertical tab, a form feed, a space separator, a byte order mark or a line
terminator. -/
def isBlank (c : Char) : Bool :=
  c = '\t' || c = '\x0B' || c = '\x0C' || c = ' ' || c = '\xA0' || c = '\uFEFF' ||
    c = '\u1680' || ('\u2000' ≤ c && c ≤ '\u200A') || c = '\u202F' || c = '\u205F' ||
    c = '\u3000' || isLineTerminator c

def isHexDigit (c : Char) : Bool :=
  c.isDigit || ('a' ≤ c && c ≤ 'f') || ('A' ≤ c && c ≤ 'F')

/-- The position after blanks and comments from `pos`; a block comment runs to the first `*/`,
and one that is not closed is not skipped. -/
def skipFrom (input : Array Char) : Nat → Nat → Nat
  | 0, pos => pos
  | fuel + 1, pos =>
    match input[pos]? with
    | some c =>
      if isBlank c then skipFrom input fuel (pos + 1)
      else if c = '/' && input[pos + 1]? = some '*' then
        match closeOf (pos + 2) (input.size - pos) with
        | some after => skipFrom input fuel after
        | none => pos
      else if c = '/' && input[pos + 1]? = some '/' then
        skipFrom input fuel (lineEnd (pos + 2) (input.size - pos))
      else pos
    | none => pos
where
  closeOf (p : Nat) : Nat → Option Nat
  | 0 => none
  | n + 1 =>
    match input[p]? with
    | none => none
    | some '*' => if input[p + 1]? = some '/' then some (p + 2) else closeOf (p + 1) n
    | some _ => closeOf (p + 1) n
  /-- The position of the next line terminator from `p`, or the end. -/
  lineEnd (p : Nat) : Nat → Nat
  | 0 => p
  | n + 1 =>
    match input[p]? with
    | none => p
    | some c => if isLineTerminator c then p else lineEnd (p + 1) n

/-- Skips blanks and comments between the parts of a non-atomic rule. -/
def skip : P Unit := fun s =>
  if s.atomicity == .nonAtomic then
    .ok () { s with pos := skipFrom s.input (s.input.size + 1) s.pos }
  else .ok () s

def andNext (p : P α) (q : P β) : P (α × β) := do
  let a ← p
  skip
  let b ← q
  pure (a, b)

/-! ### Strings -/

/-- A character of a string: anything but a backslash or a line terminator. -/
def charLiteral : P Char :=
  rule .charLiteral <| withAtomicity .atomic <| rewinding do
    lookahead false (orElse (literal "\\") (satisfy isLineTerminator *> pure ()))
    anyChar

/-- A character that may follow a backslash to stand for itself or a control character. -/
def isSingleEscape (c : Char) : Bool :=
  c = '\'' || c = '"' || c = '\\' || c = 'b' || c = 'f' || c = 'n' || c = 'r' || c = 't' ||
    c = 'v'

def escapedChar (c : Char) : Char :=
  if c = 'b' then '\x08' else if c = 'f' then '\x0C' else if c = 'n' then '\n'
  else if c = 'r' then '\r' else if c = 't' then '\t' else if c = 'v' then '\x0B' else c

/-- An escape by a character: one of the single escapes, or any character that is not a digit,
`x`, `u` or a line terminator. -/
def charEscapeSequence : P Char :=
  rule .charEscapeSequence <| withAtomicity .atomic <|
    orElse (satisfy isSingleEscape)
      (rewinding do
        lookahead false (satisfy fun c => isSingleEscape c || c.isDigit || c = 'x' || c = 'u' ||
          isLineTerminator c)
        anyChar)

def hexDigits (rule : Rule) (n : Nat) : P Nat :=
  Parser.rule rule <| withAtomicity .atomic <| rewinding do
    let ds ← (List.replicate n (satisfy isHexDigit)).mapM id
    pure ((Text.hexNumber? ds).getD 0)

def escapeSequence : P Piece :=
  orElse ((fun c => .char (escapedChar c)) <$> charEscapeSequence) <|
  orElse (rule .nulEscapeSequence (withAtomicity .atomic (literal "0")) *> pure (.char '\x00')) <|
  orElse (rewinding (literal "x" *> (.code <$> hexDigits .hexEscapeSequence 2))) <|
    rewinding (literal "u" *> (.code <$> hexDigits .unicodeEscapeSequence 4))

/-- A backslash before a line break, which the string leaves out. -/
def lineContinuation : P Unit :=
  rewinding do
    literal "\\"
    orElse (rewinding (literal "\r" *> literal "\n")) (satisfy isLineTerminator *> pure ())

def quotedChar (quote : String) : P (Option Piece) :=
  orElse (rewinding (literal "\\" *> (some <$> escapeSequence))) <|
  orElse (lineContinuation *> pure none) <|
    rewinding do
      lookahead false (literal quote)
      let c ← charLiteral
      pure (some (.char c))

def string : P (List Piece) :=
  rule .string <| withAtomicity .compound <|
    orElse (quoted "\"") (quoted "'")
where
  quoted (quote : String) : P (List Piece) := rewinding do
    literal quote
    let pieces ← many (quotedChar quote)
    literal quote
    pure pieces.reduceOption

/-! ### Names -/

/-- The start of a name: a letter, `$` or `_`, or a Unicode escape. -/
def identifierStart : P Piece :=
  orElse
    (rewinding do
      lookahead true (satisfy fun c => letters.contains c.toNat || c = '$' || c = '_')
      .char <$> charLiteral)
    (rewinding (literal "\\u" *> (.code <$> hexDigits .unicodeEscapeSequence 4)))

def identifierPart : P Piece :=
  orElse identifierStart
    (rewinding do
      lookahead true (satisfy fun c => nameParts.contains c.toNat || c = '\u200C' || c = '\u200D')
      .char <$> charLiteral)

def identifier : P (List Piece) :=
  rule .identifier <| withAtomicity .compound <| rewinding do
    let first ← identifierStart
    let rest ← many identifierPart
    pure (first :: rest)

/-! ### Numbers -/

def some1 (test : Char → Bool) : P Unit := rewinding (satisfy test *> many (satisfy test) *> pure ())

def exponentPart : P Unit := rewinding do
  literalAnyCase "e"
  let _ ← optional (orElse (literal "+") (literal "-"))
  some1 Char.isDigit

/-- The integer part of a decimal: `0`, or digits not starting with `0`. -/
def decimalIntegerLiteral : P Unit :=
  orElse (literal "0") (rewinding (satisfy (fun c => c.isDigit && c ≠ '0') *> many (satisfy Char.isDigit) *> pure ()))

def decimalLiteral : P Unit :=
  orElse (rewinding do
      decimalIntegerLiteral
      literal "."
      let _ ← many (satisfy Char.isDigit)
      let _ ← optional exponentPart) <|
  orElse (rewinding do
      literal "."
      some1 Char.isDigit
      let _ ← optional exponentPart) <|
    rewinding do
      decimalIntegerLiteral
      let _ ← optional exponentPart

def number : P String :=
  rule .number <| withAtomicity .atomic <| captured <| rewinding do
    let _ ← optional (orElse (literal "+") (literal "-"))
    orElse (rewinding (literalAnyCase "0x" *> some1 isHexDigit)) <|
    orElse decimalLiteral <|
    orElse (literal "Infinity") (literal "NaN")

/-! ### Values -/

def null : P Unit := rule .null (withAtomicity .atomic (literal "null"))

def boolean : P Bool :=
  rule .boolean <| withAtomicity .atomic <|
    orElse (literal "true" *> pure true) (literal "false" *> pure false)

def key : P (List Piece) := orElse identifier string

mutual

/-- A value. Each level of nesting takes three of the fuel (a value, its object or array, its
member) and opens with a character of the input, so three times the input's length and a
little more is enough. -/
def value : Nat → P Tree
  | 0 => fail
  | fuel + 1 =>
    orElse (null *> pure .null) <|
    orElse (.bool <$> boolean) <|
    orElse (.text <$> string) <|
    orElse (.number <$> number) <|
    orElse (object fuel) (array fuel)
termination_by structural fuel => fuel

def pair : Nat → P (List Piece × Tree)
  | 0 => fail
  | fuel + 1 => rewinding do
    let k ← key
    skip
    literal ":"
    skip
    let v ← value fuel
    pure (k, v)
termination_by structural fuel => fuel

/-- An object: members in braces, separated by commas, with an optional trailing comma. -/
def object : Nat → P Tree
  | 0 => fail
  | fuel + 1 =>
    rule .object <|
      orElse (rewinding (andNext (literal "\x7b") (literal "\x7d")) *> pure (.object [])) <|
      rewinding do
        literal "\x7b"
        skip
        let first ← pair fuel
        skip
        let rest ← many (rewinding do skip; literal ","; skip; pair fuel)
        skip
        let _ ← optional (literal ",")
        skip
        literal "\x7d"
        pure (.object (first :: rest))
termination_by structural fuel => fuel

/-- An array: values in brackets, separated by commas, with an optional trailing comma. -/
def array : Nat → P Tree
  | 0 => fail
  | fuel + 1 =>
    rule .array <|
      orElse (rewinding (andNext (literal "[") (literal "]")) *> pure (.array [])) <|
      rewinding do
        literal "["
        skip
        let first ← value fuel
        skip
        let rest ← many (rewinding do skip; literal ","; skip; value fuel)
        skip
        let _ ← optional (literal ",")
        skip
        literal "]"
        pure (.array (first :: rest))
termination_by structural fuel => fuel

end

/-- A whole document: blanks and comments, a value, blanks and comments, the end. -/
def document (fuel : Nat) : P Tree := rewinding do
  skip
  let v ← value fuel
  skip
  rule .eoi endOfInput
  pure v

/-! ### Values of documents -/

inductive Value where
  | null
  | bool (b : Bool)
  | int (i : Int)
  | float (x : Float)
  | str (s : String)
  | array (items : List Value)
  | object (members : List (String × Value))

/-- The text of string pieces; an escape of a surrogate is refused. -/
def textOf (pieces : List Piece) : Except String String := do
  let cs ← pieces.mapM fun
    | .char c => pure c
    | .code n => if n.isValidChar then pure (Char.ofNat n) else throw "error parsing hex prefix"
  pure (String.ofList cs)

/-- The value of a decimal integer with an optional sign, if it fits 64 bits. -/
def readInt64? (s : String) : Option Int :=
  let (negative, digits) := match s.toList with
    | '-' :: ds => (true, ds)
    | '+' :: ds => (false, ds)
    | ds => (false, ds)
  if digits.isEmpty || !digits.all Char.isDigit then none
  else
    let n : Nat := digits.foldl (fun a c => a * 10 + (c.toNat - 48)) 0
    let i : Int := if negative then -(n : Int) else n
    if -9223372036854775808 ≤ i && i ≤ 9223372036854775807 then some i else none

def numberValue (s : String) : Except String Value :=
  let isHex := s.length > 2 && (s.startsWith "0x" || s.startsWith "0X")
  let isInfinite := s == "Infinity" || s == "-Infinity"
  let isNan := s == "NaN" || s == "-NaN"
  let isInt := !s.contains '.' && (isHex || (!s.contains 'e' && !s.contains 'E')) && !isInfinite &&
    !isNan
  if isInt then
    if isHex then
      match Text.hexNumber? (s.toList.drop 2) with
      | some n => if n ≤ 4294967295 then .ok (.int n) else .error "error parsing hex"
      | none => .error "error parsing hex"
    else
      match readInt64? s with
      | some i => .ok (.int i)
      | none => .error "error parsing integer"
  else if s == "Infinity" then .ok (.float (Float.ofBits Binary64.infinityBits))
  else if s == "-Infinity" then .ok (.float (-(Float.ofBits Binary64.infinityBits)))
  else if isNan then .ok (.float (Float.ofBits 0x7FF8000000000000))
  else
    match Binary64.readDecimal? s with
    | some x => if Binary64.isFinite x then .ok (.float x) else .error "error parsing number: too large"
    | none => .error "error parsing number"

mutual

/-- The value of a document as read: strings and numbers in document order, the first that
fails stopping the rest. -/
def Tree.resolve : Tree → Except String Value
  | .null => .ok .null
  | .bool b => .ok (.bool b)
  | .text pieces => .str <$> textOf pieces
  | .number s => numberValue s
  | .object members => .object <$> resolveMembers members
  | .array items => .array <$> resolveItems items

def resolveMembers : List (List Piece × Tree) → Except String (List (String × Value))
  | [] => .ok []
  | (k, v) :: rest => do
    let key ← textOf k
    let value ← v.resolve
    pure ((key, value) :: (← resolveMembers rest))

def resolveItems : List Tree → Except String (List Value)
  | [] => .ok []
  | x :: rest => do
    let v ← x.resolve
    pure (v :: (← resolveItems rest))

end

/-- Reads a JSON5 document; a failure is described in words. -/
def read (text : String) : Except String Value :=
  let input := text.toList.toArray
  match document (3 * input.size + 6) (State.start input) with
  | .ok tree _ => tree.resolve
  | .fail s => .error (report Rule.rank Rule.name s)

end FleetTelemetry.Json5
