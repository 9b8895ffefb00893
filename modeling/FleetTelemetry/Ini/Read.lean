import FleetTelemetry.Text.Blank

/-!
# Reading INI documents

An INI document is a list of sections, each a list of keys with text values. The keys before
the first header form a section without a name, which is always there, even when empty.

* A header `[name]` opens a section; the name is trimmed. A name given twice opens a second
  section of that name.
* A key is the text up to the next `=` or `:`, trimmed; it may run over several lines.
* A value starts after the `=` or `:` and its blanks. A quoted part (`"..."` or `'...'`) there
  is taken without its quotes, the rest of the line follows it as it stands, and the whole value
  is trimmed.
* A backslash escapes the next character: `\0`, `\a`, `\b`, `\t`, `\r`, `\n` stand for control
  characters, `\xHHHH` for the character of that code, a backslash at the end of a line joins
  the next line, and any other character stands for itself.
* A line starting with `;` or `#` is a comment; such a character after the start of a line is
  refused.

A fault gives its place as the line and column counted from 1, after the reading position.
-/

namespace FleetTelemetry.Ini

/-- A section: its name (`none` for the keys before the first header) and its keys with their
values, in the order written. -/
structure Section where
  name : Option String
  entries : Array (String × String)

structure Fault where
  line : Nat
  column : Nat
  info : String

def Fault.message (f : Fault) : String :=
  toString f.line ++ ":" ++ toString f.column ++ " " ++ f.info

/-- A reading position: the characters from the current one on, the line breaks before it, and
its column (0 when it is a line break itself). -/
structure Cursor where
  rest : List Char
  line : Nat
  column : Nat

namespace Cursor

def current (c : Cursor) : Option Char := c.rest.head?

/-- The position whose characters are `cs`, coming after a position at `line` and `column`. -/
def enter (line column : Nat) : List Char → Cursor
  | [] => ⟨[], line, column⟩
  | '\n' :: cs => ⟨'\n' :: cs, line + 1, 0⟩
  | c :: cs => ⟨c :: cs, line, column + 1⟩

def start (cs : List Char) : Cursor := enter 0 0 cs

def next (c : Cursor) : Cursor :=
  match c.rest with
  | [] => c
  | _ :: cs => enter c.line c.column cs

def fault (c : Cursor) (info : String) : Fault := ⟨c.line + 1, c.column + 1, info⟩

end Cursor

def showChar (c : Char) : String :=
  if c = '\n' then "\\n" else if c = '\r' then "\\r" else if c = '\t' then "\\t"
  else if c = '\'' then "\\'" else if c = '\\' then "\\\\" else c.toString

/-- How a stopping point is shown in a fault: `Some('c')`, or `None` for the end. -/
def showStop : Option Char → String
  | none => "None"
  | some c => "Some('" ++ showChar c ++ "')"

/-- The fault of a text that ends before one of `stops`. -/
def endFault (c : Cursor) (stops : List (Option Char)) : Fault :=
  c.fault ("expecting \"[" ++ ", ".intercalate (stops.map showStop) ++ "]\" but found EOF.")

def escaped (e : Char) : Char :=
  if e = '0' then '\x00' else if e = 'a' then '\x07' else if e = 'b' then '\x08'
  else if e = 't' then '\t' else if e = 'r' then '\r' else if e = 'n' then '\n' else e

/-- The value of hexadecimal digits after an optional `+`; `none` unless there is a digit and
all are digits. -/
def hexValue? (code : List Char) : Option Nat :=
  let digits := match code with
    | '+' :: ds => ds
    | ds => ds
  let value (d : Char) : Option Nat :=
    if '0' ≤ d ∧ d ≤ '9' then some (d.toNat - 48)
    else if 'a' ≤ d ∧ d ≤ 'f' then some (d.toNat - 87)
    else if 'A' ≤ d ∧ d ≤ 'F' then some (d.toNat - 55)
    else none
  if digits.isEmpty then none
  else digits.foldl (fun acc d => acc.bind fun a => (value d).map (a * 16 + ·)) (some 0)

/-- Reads the `n` characters of a `\x` escape, the cursor standing on the `x`; a backslash among
them must stand before a line break. Leaves the cursor on the last character read. -/
def hexCode (stops : List (Option Char)) : Nat → Cursor → List Char →
    Except Fault (List Char × Cursor)
  | 0, c, code => .ok (code, c)
  | n + 1, c, code =>
    let c := c.next
    match c.current with
    | none => .error (endFault c stops)
    | some '\\' =>
      let c := c.next
      if c.current = some '\n' then hexCode stops n c (code ++ ['\\'])
      else .error (c.fault ("expect '\\n' after '\\', but found " ++ showStop c.current))
    | some ch => hexCode stops n c (code ++ [ch])

/-- Reads text up to one of `stops` (`none` is the end of the text), resolving escapes; leaves
the cursor on the stop. -/
def readUntil (stops : List (Option Char)) : Nat → Cursor → Array Char →
    Except Fault (String × Cursor)
  | 0, c, acc => .ok (String.ofList acc.toList, c)
  | fuel + 1, c, acc =>
    if stops.contains c.current then .ok (String.ofList acc.toList, c)
    else match c.current with
      | none => .error (endFault c stops)
      | some '\\' =>
        let c := c.next
        match c.current with
        | none => .error (endFault c stops)
        | some '\n' => readUntil stops fuel c.next acc
        | some 'x' => do
          let (code, c) ← hexCode stops 4 c []
          match (hexValue? code).bind fun n => if n.isValidChar then some (Char.ofNat n) else none with
          | some ch => readUntil stops fuel c.next (acc.push ch)
          | none => .error (c.fault "unknown character in \\xHH form")
        | some e => readUntil stops fuel c.next (acc.push (escaped e))
      | some ch => readUntil stops fuel c.next (acc.push ch)

/-- Reads text up to one of `stops`, with fuel enough for the rest of the text. -/
def readTo (stops : List (Option Char)) (c : Cursor) : Except Fault (String × Cursor) :=
  readUntil stops (c.rest.length + 1) c #[]

def skipBlanks : Nat → Cursor → Cursor
  | 0, c => c
  | fuel + 1, c => match c.current with
    | some ch => if Text.isBlank ch then skipBlanks fuel c.next else c
    | none => c

def skipLineBlanks : Nat → Cursor → Cursor
  | 0, c => c
  | fuel + 1, c => match c.current with
    | some ch => if Text.isBlank ch && ch ≠ '\n' && ch ≠ '\r' then skipLineBlanks fuel c.next else c
    | none => c

/-- Skips a comment, through the line break that ends it. -/
def skipComment : Nat → Cursor → Cursor
  | 0, c => c
  | fuel + 1, c => match c.current with
    | some '\n' => c.next
    | some _ => skipComment fuel c.next
    | none => c

/-- Reads the value after the `=` or `:` the cursor stands on: after blanks, a quoted part
(`"..."` or `'...'`) if one starts there, then the rest of the line; the whole is trimmed. -/
def readValue (c : Cursor) : Except Fault (String × Cursor) := do
  let c := skipLineBlanks c.rest.length c.next
  let (quoted, c) ← match c.current with
    | some q =>
      if q = '"' || q = '\'' then do
        let (part, c) ← readTo [some q] c.next
        pure (part, c.next)
      else pure ("", c)
    | none => pure ("", c)
  let (rest, c) ← readTo [some '\n', some '\r', none] c
  pure (Text.trim (quoted ++ rest), c)

def addEntry (sections : Array Section) (key value : String) : Array Section :=
  sections.modify (sections.size - 1) fun s => { s with entries := s.entries.push (key, value) }

/-- Reads the document from the cursor on, given the sections so far (the last one open) and
the key read but not yet given its value. Every round consumes a character, so the fuel is the
length of the text and one more. -/
def readSections : Nat → Cursor → String → Array Section → Except Fault (Array Section)
  | 0, _, _, sections => .ok sections
  | fuel + 1, c, key, sections =>
    let c := skipBlanks c.rest.length c
    match c.current with
    | none => .ok sections
    | some ch =>
      if ch = ';' || ch = '#' then
        if c.column > 1 then .error (c.fault "doesn't support inline comment")
        else readSections fuel (skipComment c.rest.length c) key sections
      else if ch = '[' then do
        let (name, c) ← readTo [some ']'] c.next
        let c := if c.current = some ']' then c.next else c
        readSections fuel c key (sections.push ⟨some (Text.trim name), #[]⟩)
      else if ch = '=' || ch = ':' then
        if key.isEmpty then .error (c.fault "missing key")
        else do
          let (value, c) ← readValue c
          readSections fuel c "" (addEntry sections key value)
      else do
        let (k, c) ← readTo [some '=', some ':'] c
        readSections fuel c (Text.trim k) sections

/-- Reads an INI document into its sections: first the one without a name, then the others in
the order of their headers. -/
def read (text : String) : Except Fault (List Section) :=
  let cs := text.toList
  (readSections (cs.length + 1) (Cursor.start cs) "" #[⟨none, #[]⟩]).map (·.toList)

end FleetTelemetry.Ini
