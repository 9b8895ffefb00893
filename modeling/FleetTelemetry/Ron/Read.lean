import FleetTelemetry.Float.Read
import FleetTelemetry.Float.Bits

/-!
# Reading RON documents

RON (Rusty Object Notation) writes values the way Rust writes them: `true`/`false`, numbers,
characters `'c'`, strings `"..."` and raw strings `r#"..."#`, `None` and `Some(v)`, the unit
`()`, lists `[a, b]`, maps `{k: v}`, tuples `(a, b)` and structs `(name: v)` or `Name(name: v)`.
A struct reads as a map from its field names; a tuple as a list; a bare name (an enum variant
or a unit struct) as the unit.

A number is an integer when it reads as one (decimal, or `0x`, `0b`, `0o` with `_` between
digits) and fits 64 bits; otherwise it is read again as a double. An integer beyond the signed
range becomes a double.

Blanks, `//` line comments and nested `/* */` block comments may stand between tokens; the
document may start with `#![enable(...)]` attributes. A fault names its line and column (in
bytes), both from 1, at the place reading stopped.
-/

namespace FleetTelemetry.Ron

inductive Value where
  | bool (b : Bool)
  | char (c : Char)
  | map (entries : List (Value × Value))
  | int (i : Int)
  | float (x : Float)
  | option (v : Option Value)
  | str (s : String)
  | seq (items : List Value)
  | unit
  deriving Inhabited

structure Fault where
  line : Nat
  column : Nat
  code : String

/-- The words of a fault: its place, then what went wrong. -/
def Fault.message (f : Fault) : String :=
  toString f.line ++ ":" ++ toString f.column ++ ": " ++ f.code

/-- A reading position: the characters from it on, and its line and byte column. -/
structure Cursor where
  rest : List Char
  line : Nat
  column : Nat

namespace Cursor

def peek (c : Cursor) : Option Char := c.rest.head?

def next (c : Cursor) : Cursor :=
  match c.rest with
  | [] => c
  | '\n' :: cs => ⟨cs, c.line + 1, 1⟩
  | ch :: cs => ⟨cs, c.line, c.column + ch.utf8Size⟩

def skip : Nat → Cursor → Cursor
  | 0, c => c
  | n + 1, c => skip n c.next

def fault (c : Cursor) (code : String) : Fault := ⟨c.line, c.column, code⟩

/-- A fault one byte on, after the first byte of the current character was taken. -/
def faultAfterByte (c : Cursor) (code : String) : Fault :=
  if c.peek = some '\n' then ⟨c.line + 1, 1, code⟩ else ⟨c.line, c.column + 1, code⟩

def startsWith (c : Cursor) (lit : String) : Bool := lit.toList.isPrefixOf c.rest

/-- The position after `lit`, when the text here starts with it. -/
def consume? (c : Cursor) (lit : String) : Option Cursor :=
  if c.startsWith lit then some (c.skip lit.length) else none

end Cursor

/-! ### Character classes -/

def isBlank (c : Char) : Bool := c = ' ' || c = '\t' || c = '\n' || c = '\r'

def isNameStart (c : Char) : Bool := (c.isAlpha && c.toNat < 128) || c = '_'

def isNameChar (c : Char) : Bool := (c.isAlphanum && c.toNat < 128) || c = '_'

def isRawNameChar (c : Char) : Bool := isNameChar c || c = '.' || c = '+' || c = '-'

/-- A character of an integer: a hexadecimal digit or `_`. -/
def isIntChar (c : Char) : Bool :=
  c.isDigit || ('a' ≤ c && c ≤ 'f') || ('A' ≤ c && c ≤ 'F') || c = '_'

def isFloatChar (c : Char) : Bool :=
  c.isDigit || c = 'e' || c = 'E' || c = '.' || c = '+' || c = '-' || c = '_'

def hexValue? (c : Char) : Option Nat :=
  if c.isDigit then some (c.toNat - 48)
  else if 'a' ≤ c && c ≤ 'f' then some (c.toNat - 87)
  else if 'A' ≤ c && c ≤ 'F' then some (c.toNat - 55)
  else none

def debugChar (c : Char) : String :=
  let body :=
    if c = '\n' then "\\n" else if c = '\r' then "\\r" else if c = '\t' then "\\t"
    else if c = '\x00' then "\\0" else if c = '\'' then "\\'" else if c = '\\' then "\\\\"
    else if c.toNat < 0x20 || (0x7F ≤ c.toNat && c.toNat < 0xA0) || c.toNat = 0xAD then
      "\\u" ++ "\x7b" ++ String.ofList (Nat.toDigits 16 c.toNat) ++ "\x7d"
    else c.toString
  "'" ++ body ++ "'"

/-- The fault of a byte that cannot start anything: a character outside ASCII shows as the
character of its first byte. -/
def unexpectedByte (c : Char) : String :=
  let n := c.toNat
  let firstByte :=
    if n < 0x80 then n else if n < 0x800 then 0xC0 + n / 64
    else if n < 0x10000 then 0xE0 + n / 4096 else 0xF0 + n / 262144
  "Unexpected byte " ++ debugChar (Char.ofNat firstByte)

/-! ### Fault codes -/

def eofCode : String := "Unexpected end of RON"

/-! ### Blanks and comments -/

def skipLine (c : Cursor) : Cursor :=
  c.skip (c.rest.takeWhile (· ≠ '\n')).length

/-- Skips the rest of a block comment at nesting `level`; block comments nest. -/
def skipBlock : Nat → Nat → Cursor → Except Fault Cursor
  | 0, _, c => .ok c
  | _, 0, c => .ok c
  | fuel + 1, level + 1, c =>
    if c.rest.isEmpty then .error (c.fault "Unclosed block comment")
    else
      let c := c.skip (c.rest.takeWhile fun ch => ch ≠ '/' && ch ≠ '*').length
      match c.consume? "/*" with
      | some c => skipBlock fuel (level + 2) c
      | none =>
        match c.consume? "*/" with
        | some c => skipBlock fuel level c
        | none =>
          if c.rest.isEmpty then .error (c.fault "Unclosed block comment")
          else skipBlock fuel (level + 1) c.next

/-- Skips one comment, if one starts here; says whether one did. -/
def skipComment (c : Cursor) : Except Fault (Bool × Cursor) :=
  match c.rest with
  | '/' :: _ =>
    let c := c.next
    match c.rest with
    | [] => .error (c.fault eofCode)
    | '/' :: _ => .ok (true, skipLine c.next)
    | '*' :: _ => do
      let c ← skipBlock (c.rest.length + 2) 1 c.next
      pure (true, c)
    | b :: _ => .error (c.faultAfterByte (unexpectedByte b))
  | _ => .ok (false, c)

def skipBlanks : Nat → Cursor → Except Fault Cursor
  | 0, c => .ok c
  | fuel + 1, c => do
    let c := c.skip (c.rest.takeWhile isBlank).length
    let (more, c) ← skipComment c
    if more then skipBlanks fuel c else pure c

/-- Skips blanks and comments, with fuel enough for the rest of the text. -/
def blanks (c : Cursor) : Except Fault Cursor := skipBlanks (c.rest.length + 1) c

/-- Takes a comma and the blanks around it, if one comes; says whether one did. -/
def comma (c : Cursor) : Except Fault (Bool × Cursor) := do
  let c ← blanks c
  match c.consume? "," with
  | some c => pure (true, ← blanks c)
  | none => pure (false, c)

/-! ### Names -/

def atName (c : Cursor) (name : String) : Bool :=
  c.startsWith name && !((c.rest.drop name.length).head?.map isNameChar).getD false

/-- The position after the name `name`, when it stands here. -/
def consumeName? (c : Cursor) (name : String) : Option Cursor :=
  if atName c name then some (c.skip name.length) else none

/-- The length of the name here, `r#` of a raw name included. -/
def nameLength (c : Cursor) : Except Fault Nat :=
  match c.rest with
  | [] => .error (c.fault eofCode)
  | ch :: more =>
    if !isNameStart ch then .error (c.fault "Expected identifier")
    else if ch = 'r' then
      match more with
      | [] => .error (c.fault eofCode)
      | '"' :: _ => .error (c.fault "Expected identifier")
      | '#' :: after =>
        if (after.head?.map isRawNameChar).getD false then .ok (2 + (after.takeWhile isRawNameChar).length)
        else .error (c.fault "Expected identifier")
      | _ => .ok (c.rest.takeWhile isNameChar).length
    else .ok (c.rest.takeWhile isNameChar).length

/-- Reads a name; a raw name is given without its `r#`. -/
def name (c : Cursor) : Except Fault (String × Cursor) := do
  let n ← nameLength c
  let text := String.ofList (c.rest.take n)
  let text := if text.startsWith "r#" then String.ofList (text.toList.drop 2) else text
  pure (text, c.skip n)

/-! ### Strings and characters -/

def hexByte (c : Cursor) : Except Fault (Nat × Cursor) :=
  match c.rest with
  | [] => .error (c.fault eofCode)
  | ch :: _ =>
    match hexValue? ch with
    | some v => .ok (v, c.next)
    | none => .error (c.faultAfterByte "Non-hex digit found")

/-- Reads the digits of a Unicode escape after its opening brace: at most six, up to the
closing brace. Gives how many there were and their value. -/
def unicodeDigits : Nat → Nat → Nat → Cursor → Except Fault ((Nat × Nat) × Cursor)
  | 0, count, acc, c => .ok ((count, acc), c)
  | fuel + 1, count, acc, c =>
    match c.rest with
    | [] => .error (c.fault eofCode)
    | '\x7d' :: _ => .ok ((count, acc), c)
    | _ => do
      let (v, c) ← hexByte c
      unicodeDigits fuel (count + 1) (acc * 16 + v) c

def escape (c : Cursor) : Except Fault (Char × Cursor) :=
  match c.rest with
  | [] => .error (c.fault eofCode)
  | e :: _ =>
    let after := c.next
    if e = '\'' then .ok ('\'', after) else if e = '"' then .ok ('"', after)
    else if e = '\\' then .ok ('\\', after) else if e = 'n' then .ok ('\n', after)
    else if e = 'r' then .ok ('\r', after) else if e = 't' then .ok ('\t', after)
    else if e = '0' then .ok ('\x00', after)
    else if e = 'x' then do
      let (hi, c) ← hexByte after
      let (lo, c) ← hexByte c
      pure (Char.ofNat (hi * 16 + lo), c)
    else if e = 'u' then do
      match after.rest with
      | [] => throw (after.fault eofCode)
      | '\x7b' :: _ => pure ()
      | _ => throw (after.faultAfterByte "Missing \x7b in Unicode escape")
      let ((count, code), c) ← unicodeDigits 6 0 0 after.next
      if count = 0 then throw (c.fault "Expected 1-6 digits, got 0 digits in Unicode escape")
      match c.rest with
      | [] => throw (c.fault eofCode)
      | '\x7d' :: _ =>
        if code.isValidChar then pure (Char.ofNat code, c.next)
        else throw (c.next.fault "Not a valid char")
      | _ => throw (c.faultAfterByte "No \x7d at the end of Unicode escape")
    else .error (c.faultAfterByte "Unknown escape character")

/-- Reads the rest of a string after its opening quote, resolving escapes. -/
def escapedString : Nat → Array Char → Cursor → Except Fault (String × Cursor)
  | 0, acc, c => .ok (String.ofList acc.toList, c)
  | fuel + 1, acc, c =>
    let plain := c.rest.takeWhile fun ch => ch ≠ '\\' && ch ≠ '"'
    let after := c.skip plain.length
    match after.rest with
    | [] => .error (c.fault "Expected end of string")
    | '"' :: _ => .ok (String.ofList (acc.toList ++ plain), after.next)
    | _ => do
      let (ch, c) ← escape after.next
      escapedString fuel ((acc ++ plain.toArray).push ch) c

/-- The position of `ending` in a text, counted in characters. -/
def findEnding (ending : List Char) : Nat → List Char → Option Nat
  | _, [] => none
  | i, cs@(_ :: rest) => if ending.isPrefixOf cs then some i else findEnding ending (i + 1) rest

/-- Reads a raw string after its `r`: hashes, a quote, the text, a quote and as many hashes. -/
def rawString (c : Cursor) : Except Fault (String × Cursor) :=
  let hashes := (c.rest.takeWhile (· = '#')).length
  let c := c.skip hashes
  match c.consume? "\"" with
  | none => .error (c.fault "Expected string")
  | some c =>
    match findEnding ('"' :: List.replicate hashes '#') 0 c.rest with
    | none => .error (c.fault "Expected end of string")
    | some i => .ok (String.ofList (c.rest.take i), c.skip (i + hashes + 1))

def string (c : Cursor) : Except Fault (String × Cursor) :=
  match c.consume? "\"" with
  | some c => escapedString (c.rest.length + 1) #[] c
  | none =>
    match c.consume? "r" with
    | some c => rawString c
    | none => .error (c.fault "Expected string")

/-- The characters before a quote within the first five bytes, if a quote comes there. -/
def beforeQuote : Nat → List Char → Option (List Char)
  | _, [] => none
  | room, ch :: rest =>
    if ch = '\'' then some []
    else if ch.utf8Size ≥ room then none
    else (beforeQuote (room - ch.utf8Size) rest).map (ch :: ·)

def charLiteral (c : Cursor) : Except Fault (Char × Cursor) := do
  let some c := c.consume? "'" | throw (c.fault "Expected char")
  let (ch, c) ← match c.rest with
    | [] => throw (c.fault eofCode)
    | '\\' :: _ => escape c.next
    | rest =>
      match beforeQuote 5 rest with
      | some [ch] => pure (ch, c.next)
      | _ => throw (c.fault "Expected char")
  let some c := c.consume? "'" | throw (c.fault "Expected char")
  pure (ch, c)

/-! ### Numbers -/

def intMax : Nat := 9223372036854775807

def wordMax : Nat := 18446744073709551615

/-- An integer in the given base from its characters (`_` between digits), if all are digits of
the base and the first is not `_`. -/
def digitsValue (base : Nat) (cs : List Char) : Option Nat :=
  match cs with
  | [] => none
  | '_' :: _ => none
  | _ => cs.foldl (fun acc ch =>
      if ch = '_' then acc
      else acc.bind fun a => (hexValue? ch).bind fun d => if d < base then some (a * base + d) else none)
      (some 0)

/-- Reads an integer without its sign: its magnitude and the position after it. -/
def magnitude (c : Cursor) : Option (Nat × Cursor) :=
  let (base, c) := match c.rest with
    | '0' :: 'x' :: _ => (16, c.skip 2)
    | '0' :: 'b' :: _ => (2, c.skip 2)
    | '0' :: 'o' :: _ => (8, c.skip 2)
    | _ => (10, c)
  let cs := c.rest.takeWhile isIntChar
  (digitsValue base cs).map fun n => (n, c.skip cs.length)

def float (c : Cursor) : Except Fault (Float × Cursor) :=
  let special := [("inf", Binary64.readDecimal? "inf"), ("+inf", Binary64.readDecimal? "inf"),
    ("-inf", Binary64.readDecimal? "-inf"), ("NaN", Binary64.readDecimal? "nan"),
    ("+NaN", Binary64.readDecimal? "nan"), ("-NaN", Binary64.readDecimal? "nan")]
  match special.find? fun (lit, _) => atName c lit with
  | some (lit, x) => .ok (x.getD 0, c.skip lit.length)
  | none =>
    let cs := c.rest.takeWhile isFloatChar
    match cs.findIdx? (· = '_') with
    | some k => .error ((c.skip k).fault "Unexpected underscore in float")
    | none =>
      let after := c.skip cs.length
      match Binary64.readDecimal? (String.ofList cs) with
      | some x => .ok (x, after)
      | none => .error (after.fault "Expected float")

/-- Whether the number here is written as a floating point number: more characters of one than
of an integer. -/
def looksFloat (c : Cursor) : Bool :=
  let cs := match c.rest with
    | '+' :: rest | '-' :: rest => rest
    | rest => rest
  (cs.takeWhile isFloatChar).length > (cs.takeWhile isIntChar).length

/-- Reads a number: an integer when it is written as one and fits, else a double. -/
def number (c : Cursor) : Except Fault (Value × Cursor) :=
  let asFloat : Except Fault (Value × Cursor) := (float c).map fun (x, c) => (.float x, c)
  if looksFloat c then asFloat
  else
    match c.rest with
    | '-' :: _ =>
      match magnitude c.next with
      | some (n, c') => if n ≤ intMax + 1 then .ok (.int (-(n : Int)), c') else asFloat
      | none => asFloat
    | '+' :: _ =>
      match magnitude c.next with
      | some (n, c') => if n ≤ intMax then .ok (.int n, c') else asFloat
      | none => asFloat
    | _ =>
      match magnitude c with
      | some (n, c') =>
        if n ≤ intMax then .ok (.int n, c')
        else if n ≤ wordMax then .ok (.float (Binary64.ofNat n), c')
        else asFloat
      | none => asFloat

/-! ### Maps

A map keeps one entry for each key, the last one written, in the order of the keys: by kind
(booleans, characters, maps, numbers, options, strings, lists, the unit), then booleans, characters,
numbers and strings by value. -/

def Value.kindRank : Value → Nat
  | .bool _ => 0
  | .char _ => 1
  | .map _ => 2
  | .int _ => 3
  | .float _ => 4
  | .option _ => 5
  | .str _ => 6
  | .seq _ => 7
  | .unit => 8

def Value.keyBefore : Value → Value → Bool
  | .bool a, .bool b => !a && b
  | .char a, .char b => a < b
  | .int a, .int b => a < b
  | .float a, .float b => a < b
  | .str a, .str b => a < b
  | a, b => a.kindRank < b.kindRank

def Value.sameKey : Value → Value → Bool
  | .bool a, .bool b => a == b
  | .char a, .char b => a == b
  | .int a, .int b => a == b
  | .str a, .str b => a == b
  | .unit, .unit => true
  | .option none, .option none => true
  | _, _ => false

/-- Puts an entry into the entries of a map, in key order, replacing one of the same key. -/
def insertEntry (e : Value × Value) : List (Value × Value) → List (Value × Value)
  | [] => [e]
  | d :: ds =>
    if e.1.sameKey d.1 then e :: ds
    else if e.1.keyBefore d.1 then e :: d :: ds
    else d :: insertEntry e ds

def mapOf (written : List (Value × Value)) : Value :=
  .map (written.foldl (fun m e => insertEntry e m) [])

/-! ### Values -/

/-- Whether another element follows in a list closed by `close`: after a comma, anything but
`close` is one; without a comma, only `close` may come. -/
def hasElement (close : Char) (hadComma : Bool) (c : Cursor) : Except Fault (Bool × Cursor) := do
  let c ← blanks c
  match c.rest with
  | [] => throw (c.fault eofCode)
  | ch :: _ =>
    if hadComma then pure (ch ≠ close, c)
    else if ch = close then pure (false, c)
    else throw (c.fault "Expected comma")

/-- Reads the value after a map key or field name: blanks, a colon, blanks, the value. -/
def afterColon (readValue : Cursor → Except Fault (Value × Cursor)) (c : Cursor) : Except Fault (Value × Cursor) := do
  let c ← blanks c
  let some c := c.consume? ":" | throw (c.fault "Expected colon")
  readValue (← blanks c)

mutual

/-- Reads any value. The fuel bounds the nesting, which never exceeds the text's length. -/
def value : Nat → Cursor → Except Fault (Value × Cursor)
  | 0, c => .error (c.fault eofCode)
  | fuel + 1, c =>
    if let some c := consumeName? c "true" then .ok (.bool true, c)
    else if let some c := consumeName? c "false" then .ok (.bool false, c)
    else if atName c "Some" then option fuel c
    else if let some c := consumeName? c "None" then .ok (.option none, c)
    else if let some c := c.consume? "()" then .ok (.unit, c)
    else if atName c "inf" || atName c "-inf" || atName c "NaN" then
      (float c).map fun (x, c) => (.float x, c)
    else
      match name c with
      | .ok (_, c') => do
        let c' ← blanks c'
        anyStruct fuel c'
      | .error _ =>
        match c.rest with
        | [] => .error (c.fault eofCode)
        | ch :: _ =>
          if ch = '(' then anyStruct fuel c
          else if ch = '[' then sequence fuel c
          else if ch = '{' then map fuel c
          else if ch.isDigit || ch = '+' || ch = '-' then number c
          else if ch = '.' then (float c).map fun (x, c) => (.float x, c)
          else if ch = '"' || ch = 'r' then (string c).map fun (s, c) => (.str s, c)
          else if ch = '\'' then (charLiteral c).map fun (ch, c) => (.char ch, c)
          else .error (c.fault (unexpectedByte ch))
termination_by structural fuel _ => fuel

/-- Reads `Some(v)`, with an optional comma before the closing parenthesis. -/
def option : Nat → Cursor → Except Fault (Value × Cursor)
  | 0, c => .error (c.fault eofCode)
  | fuel + 1, c => do
    let c ← blanks (c.skip 4)
    let some c := c.consume? "(" | throw (c.fault "Expected option")
    let (v, c) ← value fuel (← blanks c)
    let (_, c) ← comma c
    let some c := c.consume? ")" | throw (c.fault "Expected closing \x60)\x60")
    pure (.option (some v), c)
termination_by structural fuel _ => fuel

/-- Reads what follows a name, or stands alone: a struct or tuple in parentheses, or else the
unit. Whether the parenthesis opens a struct is seen from a name and a colon after it. -/
def anyStruct : Nat → Cursor → Except Fault (Value × Cursor)
  | 0, c => .error (c.fault eofCode)
  | fuel + 1, c =>
    match c.consume? "(" with
    | none => .ok (.unit, c)
    | some inside =>
      let kind : Except Fault Bool := do
        let inside ← blanks inside
        match nameLength inside with
        | .error _ => pure true
        | .ok n => do
          let after ← blanks (inside.skip n)
          match after.rest with
          | [] => throw (after.fault eofCode)
          | ch :: _ => pure (ch ≠ ':')
      match kind with
      | .error f => .error (c.fault f.code)
      | .ok true => do
        let (items, c) ← elements ')' fuel true inside
        let (_, c) ← comma c
        let some c := c.consume? ")" | throw (c.fault "Expected closing \x60)\x60")
        pure (.seq items, c)
      | .ok false => do
        let (entries, c) ← fields fuel true inside
        let c ← blanks c
        let some c := c.consume? ")" | throw (c.fault "Expected closing \x60)\x60")
        pure (mapOf entries, c)
termination_by structural fuel _ => fuel

def sequence : Nat → Cursor → Except Fault (Value × Cursor)
  | 0, c => .error (c.fault eofCode)
  | fuel + 1, c => do
    let (items, c) ← elements ']' fuel true c.next
    let (_, c) ← comma c
    let some c := c.consume? "]" | throw (c.fault "Expected closing \x60]\x60")
    pure (.seq items, c)
termination_by structural fuel _ => fuel

def map : Nat → Cursor → Except Fault (Value × Cursor)
  | 0, c => .error (c.fault eofCode)
  | fuel + 1, c => do
    let (entries, c) ← entries fuel true c.next
    let (_, c) ← comma c
    let some c := c.consume? "\x7d" | throw (c.fault "Expected closing \x60\x7d\x60")
    pure (mapOf entries, c)
termination_by structural fuel _ => fuel

/-- Reads the elements of a list closed by `close`, up to the closing character. -/
def elements (close : Char) : Nat → Bool → Cursor → Except Fault ((List Value) × Cursor)
  | 0, _, c => .ok ([], c)
  | fuel + 1, hadComma, c => do
    let (more, c) ← hasElement close hadComma c
    if !more then return ([], c)
    let (v, c) ← value fuel c
    let (hadComma, c) ← comma c
    let (rest, c) ← elements close fuel hadComma c
    pure (v :: rest, c)
termination_by structural fuel _ _ => fuel

/-- Reads the fields of a struct: names, colons and values, up to the closing parenthesis. -/
def fields : Nat → Bool → Cursor → Except Fault ((List (Value × Value)) × Cursor)
  | 0, _, c => .ok ([], c)
  | fuel + 1, hadComma, c => do
    let (more, c) ← hasElement ')' hadComma c
    if !more then return ([], c)
    let (k, c) ← name c
    let (v, c) ← afterColon (value fuel) c
    let (hadComma, c) ← comma c
    let (rest, c) ← fields fuel hadComma c
    pure ((.str k, v) :: rest, c)
termination_by structural fuel _ _ => fuel

/-- Reads the entries of a map: keys, colons and values, up to the closing brace. -/
def entries : Nat → Bool → Cursor → Except Fault ((List (Value × Value)) × Cursor)
  | 0, _, c => .ok ([], c)
  | fuel + 1, hadComma, c => do
    let (more, c) ← hasElement '}' hadComma c
    if !more then return ([], c)
    let (k, c) ← value fuel c
    let (v, c) ← afterColon (value fuel) c
    let (hadComma, c) ← comma c
    let (rest, c) ← entries fuel hadComma c
    pure ((k, v) :: rest, c)
termination_by structural fuel _ _ => fuel

end

/-! ### Documents -/

def extensionNames : List String := ["unwrap_newtypes", "implicit_some", "unwrap_variant_newtypes"]

/-- Reads the names of an `enable(...)` attribute, separated by commas. -/
def extensionList : Nat → Cursor → Except Fault Cursor
  | 0, c => .ok c
  | fuel + 1, c => do
    let (n, after) ← name c
    if !extensionNames.contains n then throw (after.fault ("No RON extension named " ++ n))
    let (more, c) ← comma after
    let next := (c.peek.map isNameChar).getD false
    if !more && next then throw (c.fault "Expected comma")
    if more && next then extensionList fuel c else pure c

/-- Reads one `#![enable(...)]` attribute, if one starts here; says whether one did. -/
def enableAttribute (c : Cursor) : Except Fault (Bool × Cursor) := do
  if c.peek ≠ some '#' then return (false, c)
  let some c := c.consume? "#!" | throw (c.fault "Expected an \x60#![enable(...)]\x60 attribute")
  let c ← blanks c
  let c := (c.consume? "[").getD c
  let c ← blanks c
  let some c := consumeName? c "enable" | throw (c.fault "Expected an \x60#![enable(...)]\x60 attribute")
  let c ← blanks c
  let c := (c.consume? "(").getD c
  let c ← blanks c
  let c ← extensionList (c.rest.length + 1) c
  let c ← blanks c
  match (c.consume? ")").bind (·.consume? "]") with
  | some c => pure (true, c)
  | none => throw (c.fault "Expected closing \x60)]\x60 after the enable attribute")

def attributes : Nat → Cursor → Except Fault Cursor
  | 0, c => .ok c
  | fuel + 1, c => do
    let (found, c) ← enableAttribute c
    if found then attributes fuel (← blanks c) else pure c

/-- Reads a RON document: attributes, one value, and nothing after it but blanks and comments. -/
def read (text : String) : Except Fault Value := do
  let c : Cursor := ⟨text.toList, 1, 1⟩
  let c ← blanks c
  let c ← attributes (c.rest.length + 1) c
  let (v, c) ← value (c.rest.length + 1) c
  let c ← blanks c
  if c.rest.isEmpty then pure v else throw (c.fault "Non-whitespace trailing characters")

end FleetTelemetry.Ron
