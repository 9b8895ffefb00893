/-!
# TOML values and read failures

A TOML document reads into a `Value`: strings, 64-bit integers, doubles, booleans, dates and
times (kept as their normalized text), arrays and tables. Tables keep their keys in the order the
document defines them.

A failure to read remembers where it happened, as the number of characters left, and what it
says: at most one *label* ("invalid array"), what was *expected* there ("`]`", "newline"), and a
*cause* ("duplicate key `a` in document root"). A failure is *committed* once the reader is sure
no other reading of the text applies. The rendered message shows the line and column, the line
itself with a caret under the place, and the description.
-/

namespace FleetTelemetry.Toml

inductive Value where
  | str (s : String)
  | int (i : Int)
  | float (x : Float)
  | bool (b : Bool)
  /-- A date, a time or both, in normalized text (`1979-05-27T07:32:00Z`). -/
  | datetime (text : String)
  | arr (items : List Value)
  | table (members : List (String × Value))
  deriving Inhabited

def Value.kindName : Value → String
  | .str _ => "string"
  | .int _ => "integer"
  | .float _ => "float"
  | .bool _ => "boolean"
  | .datetime _ => "datetime"
  | .arr _ => "array"
  | .table _ => "inline table"

inductive Note where
  | label (what : String)
  | expected (what : String)
  | cause (text : String)
  deriving Repr, BEq

structure Failure where
  /-- How many characters of the document were left where the failure happened. -/
  left : Nat
  notes : List Note := []
  committed : Bool := false
  deriving Repr

/-- The description of a failure: the first label, then everything expected, then the cause. -/
def Failure.description (f : Failure) : String :=
  let label := f.notes.findSome? fun | .label l => some l | _ => none
  let expected := f.notes.filterMap fun | .expected e => some e | _ => none
  let cause := f.notes.findSome? fun | .cause c => some c | _ => none
  let parts := (label.map ("invalid " ++ ·)).toList ++
    (if expected.isEmpty then [] else ["expected " ++ ", ".intercalate expected]) ++ cause.toList
  "\n".intercalate parts

def failAt (cs : List Char) (notes : List Note := []) : Except Failure α :=
  .error { left := cs.length, notes }

def refuseAt (cs : List Char) (notes : List Note := []) : Except Failure α :=
  .error { left := cs.length, notes, committed := true }

def commit : Except Failure α → Except Failure α
  | .error f => .error { f with committed := true }
  | ok => ok

def annotate (ns : List Note) : Except Failure α → Except Failure α
  | .error f => .error { f with notes := f.notes ++ ns }
  | ok => ok

/-- The first reading, or, when it fails without committing, the second. -/
def orElse (a : Except Failure α) (b : Unit → Except Failure α) : Except Failure α :=
  match a with
  | .error f => if f.committed then .error f else b ()
  | ok => ok

/-- The notes of a value that starts like nothing TOML knows: a string was most likely meant. -/
def stringNotes : List Note := [.label "string", .expected "`\"`", .expected "`'`"]

def decimalWidth (n : Nat) : Nat := (toString n).length

def utf8Length (cs : List Char) : Nat := cs.foldl (fun n c => n + c.utf8Size) 0

/-- The line (from 0) and column (from 0) of the character at `index`.

The column counts characters from the start of the line; at a character beyond ASCII it counts
bytes instead, and at the end of the text it is one past the last character. -/
def linePosition (text : List Char) (index : Nat) : Nat × Nat :=
  if text.isEmpty then (0, index)
  else
    let safe := min index (text.length - 1)
    let beyondEnd := index - safe
    let before := text.take safe
    let lineStart := match (before.reverse.findIdx? (· = '\n')) with
      | some k => safe - k
      | none => 0
    let line := (text.take lineStart).count '\n'
    let here := (text.drop safe).headD ' '
    let column :=
      if beyondEnd = 0 && here.utf8Size != 1 then utf8Length ((text.drop lineStart).take (safe - lineStart))
      else safe - lineStart
    (line, column + beyondEnd)

/-- The rendered failure for a document: position, the line with carets under the character at
fault (one for each of its bytes), and the description. -/
def Failure.render (f : Failure) (document : String) : String :=
  let text := document.toList
  let index := text.length - f.left
  let (line, column) := linePosition text index
  let carets := match text.drop index with
    | c :: _ => c.utf8Size
    | [] => 1
  let lineNo := line + 1
  let gutter := String.ofList (List.replicate (decimalWidth lineNo + 1) ' ')
  let content := ((document.splitOn "\n").drop line).headD ""
  "TOML parse error at line " ++ toString lineNo ++ ", column " ++ toString (column + 1) ++ "\n" ++
    gutter ++ "|\n" ++
    toString lineNo ++ " | " ++ content ++ "\n" ++
    gutter ++ "|" ++ String.ofList (List.replicate (column + 1) ' ') ++
      String.ofList (List.replicate carets '^') ++ "\n" ++
    f.description ++ "\n"

end FleetTelemetry.Toml
