import FleetTelemetry.Config.Setting

/-!
# Key paths

Every top-level key a source gives is read as a path into the configuration: a name, then any
number of `.name` and `[index]` steps, as in `sink.url` or `quiet_statuses[1]`. Names are made of
ASCII letters, digits, blanks, `_` and `-`; an index is a decimal integer, possibly negative
(counting from the end), with blanks around it. A key that is not such a path is one plain name.

Setting a value at a path makes the way there: a step into something that is not a table (for a
name) or a list (for an index) first replaces it by an empty one, and a list is lengthened with
nothings up to the index (at the front, for a negative index past the start). At the end, a
table value merges into the table there key by key, anything else replaces what was there, and
a list element is simply replaced.
-/

namespace FleetTelemetry.Config

inductive KeyStep where
  | member (name : String)
  /-- The element of a list; a negative index counts from the end. -/
  | element (index : Int)

structure KeyPath where
  head : String
  steps : List KeyStep

def isPathNameChar (c : Char) : Bool :=
  ('a' ≤ c && c ≤ 'z') || ('A' ≤ c && c ≤ 'Z') || ('0' ≤ c && c ≤ '9') || c = ' ' || c = '_' ||
    c = '-'

def isIndexBlank (c : Char) : Bool := c = ' ' || c = '\t'

/-- The name at the front of a key, when there is one, and the rest. -/
def frontName? (cs : List Char) : Option (String × List Char) :=
  let name := cs.takeWhile isPathNameChar
  if name.isEmpty then none else some (String.ofList name, cs.dropWhile isPathNameChar)

/-- The index after `[` and the rest after its `]`: blanks, an optional `-`, digits, blanks. The
index must fit a signed 64-bit word. -/
def frontIndex? (cs : List Char) : Option (Int × List Char) :=
  let cs := cs.dropWhile isIndexBlank
  let (negative, cs) := match cs with
    | '-' :: rest => (true, rest)
    | _ => (false, cs)
  let digits := cs.takeWhile Char.isDigit
  if digits.isEmpty then none
  else
    let n : Nat := digits.foldl (fun a c => a * 10 + (c.toNat - 48)) 0
    let i : Int := if negative then -(n : Int) else n
    match (cs.dropWhile Char.isDigit).dropWhile isIndexBlank with
    | ']' :: rest => if Word.i64Min ≤ i ∧ i ≤ Word.i64Max then some (i, rest) else none
    | _ => none

/-- The steps of the rest of a key, when all of it reads as steps. -/
def readSteps : Nat → List Char → Option (List KeyStep)
  | _, [] => some []
  | 0, _ => none
  | fuel + 1, '.' :: cs => do
    let (name, rest) ← frontName? cs
    let steps ← readSteps fuel rest
    pure (.member name :: steps)
  | fuel + 1, '[' :: cs => do
    let (i, rest) ← frontIndex? cs
    let steps ← readSteps fuel rest
    pure (.element i :: steps)
  | _ + 1, _ => none

def KeyPath.read? (key : String) : Option KeyPath := do
  let (head, rest) ← frontName? key.toList
  let steps ← readSteps rest.length rest
  pure ⟨head, steps⟩

/-- Puts a member into a member list, replacing the member of the same key. -/
def upsert (k : String) (v : Setting) : List (String × Setting) → List (String × Setting)
  | [] => [(k, v)]
  | (k', v') :: rest => if k' == k then (k, v) :: rest else (k', v') :: upsert k v rest

mutual
/-- Sets a key of a table's members to a setting; a table merges into the table there (made
when missing or not a table, unless nothing is merged). -/
def setKey (k : String) (v : Setting) (members : List (String × Setting)) : List (String × Setting) :=
  match v with
  | .table _ [] => if (members.lookup k).isSome then members else upsert k (.table none []) members
  | .table _ incoming =>
    let (origin, current) := match members.lookup k with
      | some (.table o ms) => (o, ms)
      | _ => (none, [])
    upsert k (.table origin (setKeys incoming current)) members
  | other => upsert k other members

def setKeys : List (String × Setting) → List (String × Setting) → List (String × Setting)
  | [], members => members
  | (k, v) :: rest, members => setKeys rest (setKey k v members)
end

/-- The members of a setting seen as a table; anything else is an empty table. -/
def asTable : Setting → Option String × List (String × Setting)
  | .table o ms => (o, ms)
  | _ => (none, [])

/-- The items of a setting seen as a list; anything else is an empty list. -/
def asList : Setting → Option String × List Setting
  | .arr o xs => (o, xs)
  | _ => (none, [])

/-- The items of a list made long enough to hold index `i`, and the place `i` stands for. -/
def reach (items : List Setting) (i : Int) : List Setting × Nat :=
  if 0 ≤ i then
    let n := i.toNat
    (items ++ List.replicate (n + 1 - items.length) (.nil none), n)
  else
    let back := i.natAbs
    if back ≤ items.length then (items, items.length - back)
    else (List.replicate (back - items.length) (.nil none) ++ items, 0)

def stepInto (step : KeyStep) (f : Setting → Setting) (node : Setting) : Setting :=
  match step with
  | .member name =>
    let (o, ms) := asTable node
    .table o (upsert name (f ((ms.lookup name).getD (.nil none))) ms)
  | .element i =>
    let (o, xs) := asList node
    let (xs, n) := reach xs i
    .arr o (xs.set n (f (xs.getD n (.nil none))))

/-- Sets the last step of a path, in the setting it starts from. -/
def setLast (step : KeyStep) (v : Setting) (node : Setting) : Setting :=
  match step with
  | .member name => let (o, ms) := asTable node; .table o (setKey name v ms)
  | .element i =>
    let (o, xs) := asList node
    let (xs, n) := reach xs i
    .arr o (xs.set n v)

def setSteps : List KeyStep → Setting → Setting → Setting
  | [], _, node => node
  | [last], v, node => setLast last v node
  | step :: rest, v, node => stepInto step (setSteps rest v) node

def KeyPath.set (p : KeyPath) (v : Setting) (members : List (String × Setting)) :
    List (String × Setting) :=
  (asTable (setSteps (.member p.head :: p.steps) v (.table none members))).2

def mergeSource (source : List (String × Setting)) (members : List (String × Setting)) :
    List (String × Setting) :=
  source.foldl (fun acc (k, v) =>
    match KeyPath.read? k with
    | some p => p.set v acc
    | none => setKey k v acc) members

end FleetTelemetry.Config
