import FleetTelemetry.Toml.Value
import FleetTelemetry.Float.Read

/-!
# TOML scalars: blanks, comments, strings, numbers, dates

Each reader takes the text at the place it starts and returns the value with the rest of the
text, or a failure (see `Toml.Value`). A reader fails without committing when the text does not
start the way its kind starts, so that another kind can be tried; once the start is certain, a
fault commits.

* Strings come in four forms: basic (`"…"`, with escapes), literal (`'…'`, no escapes), and the
  multi-line form of each (`"""…"""`, `'''…'''`), where a line break right after the opening
  delimiter is dropped.
* Integers are decimal with an optional sign, or `0x`, `0o`, `0b` followed by digits of that
  base; digits may be grouped by single underscores; a value must fit in 64 bits.
* Floats have a fraction, an exponent or both, or are `inf` or `nan` with an optional sign.
* Dates and times follow RFC 3339: a date, a time, or a date with a time (after `T` or a space)
  and optionally an offset; fields are range-checked.
-/

namespace FleetTelemetry.Toml

def isBlank (c : Char) : Bool := c = ' ' || c = '\t'

def skipBlanks (cs : List Char) : List Char := cs.dropWhile isBlank

def isCommentChar (c : Char) : Bool := c = '\t' || (' ' ≤ c && c ≤ '~') || 0x80 ≤ c.toNat

def skipComment : List Char → List Char
  | '#' :: cs => cs.dropWhile isCommentChar
  | cs => cs

/-- A line break (`LF` or `CR LF`) at the front; a failure points past the first character. -/
def newline : List Char → Except Failure (List Char)
  | '\n' :: cs => .ok cs
  | '\r' :: '\n' :: cs => .ok cs
  | _ :: cs => failAt cs
  | [] => failAt []

/-- The end of a line: a line break or the end of the text. -/
def lineEnd : List Char → Except Failure (List Char)
  | [] => .ok []
  | cs => match newline cs with
    | .ok r => .ok r
    | .error _ => failAt cs

/-- The rest of a line after a value or header: blanks, an optional comment, the line's end. -/
def lineTrailing (cs : List Char) : Except Failure (List Char) :=
  lineEnd (skipComment (skipBlanks cs))

/-- Blanks, comments and line breaks, as many as there are (`fuel` bounds the lines). -/
def skipBlankLines : Nat → List Char → Except Failure (List Char)
  | 0, cs => .ok cs
  | fuel + 1, cs =>
    let r := skipBlanks cs
    match r with
    | '#' :: _ => do let r ← newline (skipComment r); skipBlankLines fuel r
    | '\n' :: _ | '\r' :: _ => do let r ← newline r; skipBlankLines fuel r
    | _ => .ok r

def skipInsideArray (cs : List Char) : Except Failure (List Char) := skipBlankLines (cs.length + 1) cs

/-! ## Strings -/

def isBasicChar (c : Char) : Bool :=
  isBlank c || c = '!' || ('#' ≤ c && c ≤ '[') || (']' ≤ c && c ≤ '~') || 0x80 ≤ c.toNat

def isLiteralChar (c : Char) : Bool :=
  c = '\t' || (' ' ≤ c && c ≤ '&') || ('(' ≤ c && c ≤ '~') || 0x80 ≤ c.toNat

def isBareKeyChar (c : Char) : Bool := c.isAlphanum || c = '-' || c = '_'

def hexValue? (c : Char) : Option Nat :=
  if c.isDigit then some (c.toNat - 48)
  else if 'a' ≤ c && c ≤ 'f' then some (c.toNat - 87)
  else if 'A' ≤ c && c ≤ 'F' then some (c.toNat - 55)
  else none

/-- Exactly `n` hexadecimal digits naming a Unicode scalar value. -/
def hexEscape (n : Nat) (cs : List Char) : Except Failure (Char × List Char) :=
  let ds := (cs.take n).takeWhile (fun c => (hexValue? c).isSome)
  if ds.length != n then failAt cs
  else
    let v := ds.foldl (fun a c => a * 16 + (hexValue? c).getD 0) 0
    if v < 0xD800 || (0xDFFF < v && v < 0x110000) then .ok (Char.ofNat v, cs.drop n)
    else failAt cs [.cause "value is out of range"]

/-- The characters an escape may name after the backslash, as messages list them. -/
def escapeNotes : List Note :=
  [.label "escape sequence"] ++
    ["b", "f", "n", "r", "t", "u", "U", "\\", "\""].map fun e => .expected ("`" ++ e ++ "`")

def escapeTail : List Char → Except Failure (Char × List Char)
  | [] => failAt []
  | c :: r =>
    match c with
    | 'b' => .ok ('\x08', r)
    | 'f' => .ok ('\x0c', r)
    | 'n' => .ok ('\n', r)
    | 'r' => .ok ('\r', r)
    | 't' => .ok ('\t', r)
    | '\\' => .ok ('\\', r)
    | '"' => .ok ('"', r)
    | 'u' => commit (annotate [.label "unicode 4-digit hex code"] (hexEscape 4 r))
    | 'U' => commit (annotate [.label "unicode 8-digit hex code"] (hexEscape 8 r))
    | _ => refuseAt r escapeNotes

/-- The characters of a basic string up to where they stop (`fuel` bounds the pieces). -/
def basicBody : Nat → List Char → List Char → Except Failure ((List Char) × List Char)
  | 0, cs, acc => .ok (acc, cs)
  | fuel + 1, cs, acc =>
    match cs with
    | c :: r =>
      if isBasicChar c then
        basicBody fuel (r.dropWhile isBasicChar) (acc ++ c :: r.takeWhile isBasicChar)
      else if c = '\\' then
        match escapeTail r with
        | .ok (e, r) => basicBody fuel r (acc ++ [e])
        | .error f => if f.committed then .error f else .ok (acc, cs)
      else .ok (acc, cs)
    | [] => .ok (acc, [])

def basicString : List Char → Except Failure (String × List Char)
  | '"' :: r => do
    let (body, r) ← basicBody (r.length + 1) r []
    match r with
    | '"' :: rest => .ok (String.ofList body, rest)
    | _ => refuseAt r [.label "basic string"]
  | cs => failAt cs

def literalString : List Char → Except Failure (String × List Char)
  | '\'' :: r =>
    let body := r.takeWhile isLiteralChar
    match r.drop body.length with
    | '\'' :: rest => .ok (String.ofList body, rest)
    | rest => refuseAt rest [.label "literal string"]
  | cs => failAt cs

/-- Drops one line break at the front, if there is one. -/
def dropLeadingNewline (cs : List Char) : List Char :=
  match newline cs with
  | .ok r => r
  | .error _ => cs

/-- Drops blanks and line breaks at the front (`fuel` bounds the line breaks). -/
def skipBlanksAndBreaks : Nat → List Char → List Char
  | 0, cs => cs
  | fuel + 1, cs =>
    let r := skipBlanks cs
    match newline r with
    | .ok rest => skipBlanksAndBreaks fuel rest
    | .error _ => r

/-- A backslash at the end of a line in a multi-line basic string, with the blanks and line
breaks after it (at least one line break); several such in a row count as one. -/
def lineContinuation : Nat → List Char → Option (List Char)
  | fuel, '\\' :: r =>
    match newline (skipBlanks r) with
    | .ok r =>
      let r := skipBlanksAndBreaks (r.length + 1) r
      match fuel with
      | 0 => some r
      | fuel + 1 => some ((lineContinuation fuel r).getD r)
    | .error _ => none
  | _, _ => none

/-- One piece of a multi-line basic string: characters, a line continuation, an escape or a
line break. `none` when the text does not continue the string here. -/
def multiBasicPiece (cs : List Char) : Except Failure (Option (List Char × List Char)) :=
  match cs with
  | c :: r =>
    if isBasicChar c then .ok (some (c :: r.takeWhile isBasicChar, r.dropWhile isBasicChar))
    else match lineContinuation cs.length cs with
      | some rest => .ok (some ([], rest))
      | none =>
        if c = '\\' then
          match escapeTail r with
          | .ok (e, rest) => .ok (some ([e], rest))
          | .error f => if f.committed then .error f else .ok none
        else match newline cs with
          | .ok rest => .ok (some (['\n'], rest))
          | .error _ => .ok none
  | [] => .ok none

/-- Pieces of a multi-line basic string, as many as there are (`fuel` bounds them). -/
def multiBasicPieces : Nat → List Char → List Char → Except Failure ((List Char) × List Char)
  | 0, cs, acc => .ok (acc, cs)
  | fuel + 1, cs, acc => do
    match ← multiBasicPiece cs with
    | some (piece, rest) => multiBasicPieces fuel rest (acc ++ piece)
    | none => .ok (acc, cs)

/-- One or two quotes at the front that are followed by what `after` accepts. -/
def quotesBefore (after : List Char → Bool) (quote : Char) : List Char → Option (List Char × List Char)
  | q1 :: q2 :: r =>
    if q1 = quote && q2 = quote && after r then some ([q1, q2], r)
    else if q1 = quote && after (q2 :: r) then some ([q1], q2 :: r)
    else none
  | [q1] => if q1 = quote && after [] then some ([q1], []) else none
  | [] => none

def startsWithThree (quote : Char) (cs : List Char) : Bool := cs.take 3 == [quote, quote, quote]

def startsWithOther (quote : Char) : List Char → Bool
  | c :: _ => c != quote
  | [] => false

/-- Runs of one or two quotes, each followed by more pieces of a multi-line basic string
(`fuel` bounds the runs). Quotes not followed by a piece are dropped and end the runs. -/
def multiBasicQuoted : Nat → List Char → List Char → Except Failure ((List Char) × List Char)
  | 0, r, acc => .ok (acc, r)
  | fuel + 1, r, acc =>
    match quotesBefore (startsWithOther '"') '"' r with
    | some (qs, rest) => do
      match ← multiBasicPiece rest with
      | some (piece, rest) =>
        let (more, rest) ← multiBasicPieces (rest.length + 1) rest []
        multiBasicQuoted fuel rest (acc ++ qs ++ piece ++ more)
      | none => .ok (acc, rest)
    | none => .ok (acc, r)

/-- The body of a multi-line basic string: pieces, then runs of one or two quotes each
followed by more pieces, then one or two quotes before the closing delimiter. -/
def multiBasicBody (cs : List Char) : Except Failure ((List Char) × List Char) := do
  let (body, r) ← multiBasicPieces (cs.length + 1) cs []
  let (body, r) ← multiBasicQuoted (r.length + 1) r body
  match quotesBefore (startsWithThree '"') '"' r with
  | some (qs, rest) => .ok (body ++ qs, rest)
  | none => .ok (body, r)

def multiBasicString (cs : List Char) : Except Failure (String × List Char) :=
  if startsWithThree '"' cs then
    annotate [.label "multiline basic string"] do
      let r := dropLeadingNewline (cs.drop 3)
      let (body, r) ← commit (multiBasicBody r)
      if startsWithThree '"' r then .ok (String.ofList body, r.drop 3) else refuseAt r
  else failAt cs

/-- One piece of a multi-line literal string: a character or a line break. -/
def multiLiteralPiece (cs : List Char) : Option (List Char × List Char) :=
  match cs with
  | c :: r =>
    if c = '\t' || (' ' ≤ c && c ≤ '&') || ('(' ≤ c && c ≤ '~') || 0x80 ≤ c.toNat then some ([c], r)
    else match newline cs with
      | .ok rest => some (['\n'], rest)
      | .error _ => none
  | [] => none

/-- Pieces of a multi-line literal string, as many as there are (`fuel` bounds them). -/
def multiLiteralPieces : Nat → List Char → List Char → List Char × List Char
  | 0, cs, acc => (acc, cs)
  | fuel + 1, cs, acc =>
    match multiLiteralPiece cs with
    | some (piece, rest) => multiLiteralPieces fuel rest (acc ++ piece)
    | none => (acc, cs)

/-- Runs of one or two apostrophes, each followed by more pieces of a multi-line literal
string (`fuel` bounds the runs). -/
def multiLiteralQuoted : Nat → List Char → List Char → List Char × List Char
  | 0, r, acc => (acc, r)
  | fuel + 1, r, acc =>
    match quotesBefore (startsWithOther '\'') '\'' r with
    | some (qs, rest) =>
      match multiLiteralPiece rest with
      | some (piece, rest) =>
        let (more, rest) := multiLiteralPieces (rest.length + 1) rest []
        multiLiteralQuoted fuel rest (acc ++ qs ++ piece ++ more)
      | none => (acc, r)
    | none => (acc, r)

/-- The body of a multi-line literal string, in the same shape as a multi-line basic one. -/
def multiLiteralBody (cs : List Char) : List Char × List Char :=
  let (body, r) := multiLiteralPieces (cs.length + 1) cs []
  let (body, r) := multiLiteralQuoted (r.length + 1) r body
  match quotesBefore (startsWithThree '\'') '\'' r with
  | some (qs, rest) => (body ++ qs, rest)
  | none => (body, r)

def multiLiteralString (cs : List Char) : Except Failure (String × List Char) :=
  if startsWithThree '\'' cs then
    let (body, r) := multiLiteralBody (dropLeadingNewline (cs.drop 3))
    if startsWithThree '\'' r then .ok (String.ofList body, r.drop 3)
    else refuseAt r [.label "multiline literal string"]
  else failAt cs

def string (cs : List Char) : Except Failure (String × List Char) :=
  orElse (multiBasicString cs) fun _ =>
    orElse (basicString cs) fun _ =>
      orElse (multiLiteralString cs) fun _ => literalString cs

/-! ## Numbers -/

/-- Digits of a class, each optionally after one underscore; an underscore must be followed by
a digit. `digit` is the class. Returns the characters read. -/
def groupedDigits (digit : Char → Bool) : Nat → List Char → List Char → Except Failure ((List Char) × List Char)
  | 0, cs, acc => .ok (acc, cs)
  | fuel + 1, cs, acc =>
    match cs with
    | c :: r =>
      if digit c then groupedDigits digit fuel r (acc ++ [c])
      else if c = '_' then
        match r with
        | d :: r' => if digit d then groupedDigits digit fuel r' (acc ++ [c, d])
                     else refuseAt r [.expected "digit"]
        | [] => refuseAt [] [.expected "digit"]
      else .ok (acc, cs)
    | [] => .ok (acc, [])

/-- A decimal integer's text: an optional sign, then `0` or a digit from 1 with more grouped
digits. -/
def decimalText (cs : List Char) : Except Failure ((List Char) × List Char) :=
  annotate [.label "integer"] do
    let (sign, r) := match cs with
      | c :: r => if c = '+' || c = '-' then ([c], r) else ([], cs)
      | [] => ([], [])
    match r with
    | d :: r' =>
      if '1' ≤ d && d ≤ '9' then
        let (more, rest) ← groupedDigits Char.isDigit (r'.length + 1) r' []
        .ok (sign ++ d :: more, rest)
      else if d = '0' then .ok (sign ++ [d], r')
      else failAt r
    | [] => failAt []

/-- The value of digits in a base, underscores skipped. -/
def digitsValue (base : Nat) (cs : List Char) : Nat :=
  cs.foldl (fun a c => match hexValue? c with | some v => a * base + v | none => a) 0

def decimalInteger (cs : List Char) : Except Failure (Int × List Char) := do
  let (text, r) ← decimalText cs
  let negative := text.head? == some '-'
  let magnitude := digitsValue 10 text
  let v : Int := if negative then -(magnitude : Int) else magnitude
  if v < Word.i64Min then refuseAt cs [.cause "number too small to fit in target type"]
  else if Word.i64Max < v then refuseAt cs [.cause "number too large to fit in target type"]
  else .ok (v, r)

/-- An integer in base 16, 8 or 2 after its two-letter prefix. -/
def prefixedInteger (base : Nat) (name : String) (cs : List Char) : Except Failure (Int × List Char) := do
  let isDigit (c : Char) : Bool := match hexValue? c with | some v => decide (v < base) | none => false
  let r := cs.drop 2
  let (digits, rest) ← commit (annotate [.label name] (match r with
    | d :: r' => if isDigit d then groupedDigits isDigit (r'.length + 1) r' [d] else failAt r
    | [] => failAt []))
  let v := digitsValue base digits
  if Word.i64Max < v then refuseAt cs [.cause "number too large to fit in target type"]
  else .ok (v, rest)

def integer (cs : List Char) : Except Failure (Int × List Char) :=
  match cs with
  | '0' :: 'x' :: _ => prefixedInteger 16 "hexadecimal integer" cs
  | '0' :: 'o' :: _ => prefixedInteger 8 "octal integer" cs
  | '0' :: 'b' :: _ => prefixedInteger 2 "binary integer" cs
  | _ => decimalInteger cs

/-- Digits that may start with zero, grouped by underscores. -/
def plainDigits (cs : List Char) : Except Failure ((List Char) × List Char) :=
  match cs with
  | d :: r => if d.isDigit then groupedDigits Char.isDigit (r.length + 1) r [d] else failAt cs
  | [] => failAt []

def fraction : List Char → Except Failure ((List Char) × List Char)
  | '.' :: r => do
    let (ds, rest) ← annotate [.expected "digit"] (commit (plainDigits r))
    .ok ('.' :: ds, rest)
  | cs => failAt cs

/-- An exponent: `e` or `E`, an optional sign and digits. -/
def exponent : List Char → Except Failure ((List Char) × List Char)
  | e :: r =>
    if e = 'e' || e = 'E' then
      let (sign, r) := match r with
        | s :: r' => if s = '+' || s = '-' then ([s], r') else ([], r)
        | [] => ([], [])
      do
        let (ds, rest) ← commit (plainDigits r)
        .ok (e :: sign ++ ds, rest)
    else failAt (e :: r)
  | [] => failAt []

def specialFloat (cs : List Char) : Except Failure (Float × List Char) :=
  let (negative, r) := match cs with
    | '+' :: r => (false, r)
    | '-' :: r => (true, r)
    | _ => (false, cs)
  if r.take 3 == ['i', 'n', 'f'] then
    .ok ((if negative then -1.0 else 1.0) / 0.0, r.drop 3)
  else if r.take 3 == ['n', 'a', 'n'] then .ok (0.0 / 0.0, r.drop 3)
  else failAt r

/-- A float: a decimal integer with an exponent, a fraction or both, or a special value. A
value beyond the largest double is refused. -/
def float (cs : List Char) : Except Failure (Float × List Char) :=
  annotate [.label "floating-point number"] <| orElse (do
    let (whole, r) ← decimalText cs
    let (tail, r) ← orElse (exponent r) fun _ => do
      let (frac, r) ← fraction r
      match exponent r with
      | .ok (e, r) => .ok (frac ++ e, r)
      | .error f => if f.committed then .error f else .ok (frac, r)
    let text := String.ofList ((whole ++ tail).filter (· != '_'))
    match Binary64.readDecimal? text with
    | some x => if x == (1.0 / 0.0 : Float) then refuseAt cs else .ok (x, r)
    | none => refuseAt cs) fun _ => specialFloat cs

/-! ## Dates and times -/

def fixedDigits (n : Nat) (cs : List Char) : Except Failure (Nat × List Char) :=
  let ds := cs.take n
  if ds.length == n && ds.all Char.isDigit then .ok (digitsValue 10 ds, cs.drop n) else failAt cs

/-- Fixed digits within a range; out of range is a failure at their start. -/
def rangedDigits (n lo hi : Nat) (cs : List Char) : Except Failure (Nat × List Char) := do
  let (v, r) ← fixedDigits n cs
  if lo ≤ v && v ≤ hi then .ok (v, r) else failAt cs [.cause "value is out of range"]

def char (c : Char) : List Char → Except Failure (List Char)
  | d :: r => if d = c then .ok r else failAt (d :: r)
  | [] => failAt []

def padded (w v : Nat) : String :=
  let s := toString v
  String.ofList (List.replicate (w - s.length) '0') ++ s

def daysInMonth (year month : Nat) : Nat :=
  if month = 2 then
    if year % 4 = 0 && (year % 100 != 0 || year % 400 = 0) then 29 else 28
  else if month = 4 || month = 6 || month = 9 || month = 11 then 30 else 31

def fullDate (cs : List Char) : Except Failure (String × List Char) := do
  let (year, r) ← fixedDigits 4 cs
  let r ← char '-' r
  let (month, r) ← commit (rangedDigits 2 1 12 r)
  let r ← commit (char '-' r)
  let (day, rest) ← commit (rangedDigits 2 1 31 r)
  if daysInMonth year month < day then refuseAt r [.cause "value is out of range"]
  else .ok (padded 4 year ++ "-" ++ padded 2 month ++ "-" ++ padded 2 day, rest)

/-- A fraction of a second: a point and digits, as nanoseconds (digits past nine dropped). -/
def secondFraction : List Char → Except Failure (Nat × List Char)
  | '.' :: r =>
    let ds := r.takeWhile Char.isDigit
    if ds.isEmpty then failAt r
    else
      let nine := ds.take 9
      .ok (digitsValue 10 nine * Nat.pow 10 (9 - nine.length), r.drop ds.length)
  | cs => failAt cs

/-- The text of nanoseconds after a point, without trailing zeros; empty for zero. -/
def nanosText (n : Nat) : String :=
  if n = 0 then "" else "." ++ String.ofList ((padded 9 n).toList.reverse.dropWhile (· = '0')).reverse

/-- A time `HH:MM:SS` with an optional fraction, and its text. -/
def partialTime (cs : List Char) : Except Failure (String × List Char) := do
  let (hour, r) ← rangedDigits 2 0 23 cs
  let r ← char ':' r
  commit do
    let (minute, r) ← rangedDigits 2 0 59 r
    let r ← char ':' r
    let (second, r) ← rangedDigits 2 0 60 r
    let (nanos, r) := match secondFraction r with
      | .ok (n, rest) => (n, rest)
      | .error _ => (0, r)
    .ok (padded 2 hour ++ ":" ++ padded 2 minute ++ ":" ++ padded 2 second ++ nanosText nanos, r)

def timeOffset (cs : List Char) : Except Failure (String × List Char) :=
  annotate [.label "time offset"] <|
    match cs with
    | c :: r =>
      if c = 'Z' || c = 'z' then .ok ("Z", r)
      else if c = '+' || c = '-' then commit do
        let (hour, r) ← rangedDigits 2 0 23 r
        let r ← char ':' r
        let (minute, r) ← rangedDigits 2 0 59 r
        let sign := if c = '-' && (hour != 0 || minute != 0) then "-" else "+"
        .ok (sign ++ padded 2 hour ++ ":" ++ padded 2 minute, r)
      else failAt cs
    | [] => failAt []

/-- A date, a time, or a date with a time and an optional offset, as normalized text. -/
def dateTime (cs : List Char) : Except Failure (String × List Char) :=
  orElse (annotate [.label "date-time"] do
    let (date, r) ← fullDate cs
    let timed : Except Failure (String × List Char) := match r with
      | d :: r' =>
        if d = 'T' || d = 't' || d = ' ' then do
          let (time, r) ← partialTime r'
          match timeOffset r with
          | .ok (offset, r) => .ok ("T" ++ time ++ offset, r)
          | .error f => if f.committed then .error f else .ok ("T" ++ time, r)
        else failAt r
      | [] => failAt []
    match timed with
    | .ok (rest, r) => .ok (date ++ rest, r)
    | .error f => if f.committed then .error f else .ok (date, r))
    fun _ => annotate [.label "time"] (partialTime cs)

end FleetTelemetry.Toml
