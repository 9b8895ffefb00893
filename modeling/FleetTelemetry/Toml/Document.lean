import FleetTelemetry.Toml.Scalar

/-!
# TOML documents

A document is a sequence of lines: blank lines, comments, key-value pairs and table headers
(`[a.b]` for a table, `[[a.b]]` for the next table of an array of tables). Key-value pairs
belong to the table of the last header, or to the root before any header. A key may be dotted
(`a.b.c = 1`), which defines the tables on its way.

Values are strings, numbers, booleans, dates and times (see `Toml.Scalar`), arrays (`[1, 2]`,
across lines, with comments) and inline tables (`{ a = 1, b.c = 2 }`, on one line). Arrays and
inline tables nest at most 80 deep.

A document may define each key once: a second definition of a key, a header naming a table
defined before, or a dotted key through a non-table value is refused, with the place of the key
or header.
-/

namespace FleetTelemetry.Toml

/-- A key that clashes with what the document defined before. -/
inductive Clash where
  /-- The key exists already; the table it is in, when the message names it. -/
  | duplicate (key : String) (table : Option (List String))
  | extendsValue (path : List String) (kind : String)

def Clash.message : Clash → String
  | .duplicate k none => "duplicate key `" ++ k ++ "`"
  | .duplicate k (some []) => "duplicate key `" ++ k ++ "` in document root"
  | .duplicate k (some t) => "duplicate key `" ++ k ++ "` in table `" ++ ".".intercalate t ++ "`"
  | .extendsValue p kind =>
    "dotted key `" ++ ".".intercalate p ++ "` attempted to extend non-table type (" ++ kind ++ ")"

inductive Item where
  | value (v : Value)
  /-- A table; `implicit` when only named on the way to another, `dotted` when a dotted key
  defined it. -/
  | table (implicit dotted : Bool) (items : List (String × Item))
  | tables (elems : List (List (String × Item)))
  deriving Inhabited

mutual
def Item.toValue : Item → Value
  | .value v => v
  | .table _ _ items => .table (itemsToValue items)
  | .tables elems => .arr (tablesToValue elems)

def itemsToValue : List (String × Item) → List (String × Value)
  | [] => []
  | (k, i) :: rest => (k, i.toValue) :: itemsToValue rest

def tablesToValue : List (List (String × Item)) → List Value
  | [] => []
  | t :: rest => .table (itemsToValue t) :: tablesToValue rest
end

def itemsOfMembers : List (String × Value) → List (String × Item)
  | [] => []
  | (k, v) :: rest => (k, .value v) :: itemsOfMembers rest

def setItem (k : String) (i : Item) : List (String × Item) → List (String × Item)
  | [] => []
  | (k', j) :: rest => if k' == k then (k, i) :: rest else (k', j) :: setItem k i rest

/-- A table's entries after `f` changes the table at `path` below them.

Missing tables on the way are created, implicit and `dotted` as given; in the last table of an
array of tables the way goes on. A value on the way is a clash, and so is an explicit table of
the other kind (dotted or by header). `inline` reads inline tables the way an inline table's own
entries do: a nested inline table is entered like a table written by header. `f` learns whether
the table it changes was defined by a dotted key. -/
def descend (dotted inline : Bool) (f : Bool → List (String × Item) → Except Clash (List (String × Item))) :
    List String → List String → Bool → List (String × Item) → Except Clash (List (String × Item))
  | _, [], here, items => f here items
  | done, k :: ks, _, items =>
    match items.lookup k with
    | none => do
      let sub ← descend dotted inline f (done ++ [k]) ks dotted []
      pure (items ++ [(k, .table true dotted sub)])
    | some (.value (.table ms)) =>
      if inline then do
        let sub ← descend dotted inline f (done ++ [k]) ks false (itemsOfMembers ms)
        pure (setItem k (.table false false sub) items)
      else throw (.extendsValue (done ++ [k]) "inline table")
    | some (.value v) => throw (.extendsValue (done ++ [k]) v.kindName)
    | some (.tables elems) => do
      let sub ← descend dotted inline f (done ++ [k]) ks false (elems.getLastD [])
      pure (setItem k (.tables (elems.dropLast ++ [sub])) items)
    | some (.table implicit d sub) =>
      if !implicit && !inline && d != dotted then throw (.duplicate k none)
      else do
        let sub ← descend dotted inline f (done ++ [k]) ks d sub
        pure (setItem k (.table implicit d sub) items)

/-- Adds a key-value pair at a dotted path of a table whose own path is `tablePath`. -/
def putPair (inline : Bool) (tablePath path : List String) (key : String) (v : Value)
    (items : List (String × Item)) : Except Clash (List (String × Item)) :=
  descend true inline (fun targetDotted items =>
    if targetDotted == path.isEmpty then throw (.duplicate key none)
    else if items.any (·.1 == key) then
      throw (.duplicate key (if inline then none else some tablePath))
    else pure (items ++ [(key, .value v)])) [] path false items

/-- Changes the table named by the last header, in place (through the last table of arrays). -/
def atHeader (f : List (String × Item) → Except Clash (List (String × Item))) :
    List String → List (String × Item) → Except Clash (List (String × Item))
  | [], items => f items
  | k :: ks, items =>
    match items.lookup k with
    | some (.table i d sub) => do
      let sub ← atHeader f ks sub
      pure (setItem k (.table i d sub) items)
    | some (.tables elems) => do
      let sub ← atHeader f ks (elems.getLastD [])
      pure (setItem k (.tables (elems.dropLast ++ [sub])) items)
    | _ => pure items

/-- Opens the table of a `[…]` header: a new table, or one that was only implicit so far. -/
def openTable (path : List String) (root : List (String × Item)) : Except Clash (List (String × Item)) :=
  let parent := path.dropLast
  let key := path.getLastD ""
  descend false false (fun _ items =>
    match items.lookup key with
    | some (.table true false sub) => pure (setItem key (.table false false sub) items)
    | some _ => throw (.duplicate key (some parent))
    | none => pure (items ++ [(key, .table false false [])])) [] parent false root

def openArrayTable (path : List String) (root : List (String × Item)) : Except Clash (List (String × Item)) :=
  let parent := path.dropLast
  let key := path.getLastD ""
  descend false false (fun _ items =>
    match items.lookup key with
    | some (.tables elems) => pure (setItem key (.tables (elems ++ [[]])) items)
    | some _ => throw (.duplicate key (some parent))
    | none => pure (items ++ [(key, .tables [[]])])) [] parent false root

def inlineTableValue (pairs : List (List String × String × Value)) : Except Clash Value :=
  let rec build : List (List String × String × Value) → List (String × Item) → Except Clash (List (String × Item))
    | [], items => pure items
    | (path, key, v) :: rest, items => do build rest (← putPair true [] path key v items)
  (fun items => (Item.table false false items).toValue) <$> build pairs []

/-! ## Keys -/

/-- A key without dots: quoted (basic or literal) or bare. -/
def simpleKey (cs : List Char) : Except Failure (String × List Char) :=
  match cs with
  | '"' :: _ => basicString cs
  | '\'' :: _ => literalString cs
  | _ =>
    let k := cs.takeWhile isBareKeyChar
    if k.isEmpty then failAt cs else .ok (String.ofList k, cs.drop k.length)

def dottedParts : Nat → List Char → List String → Except Failure ((List String) × List Char)
  | 0, cs, acc => .ok (acc, cs)
  | fuel + 1, cs, acc =>
    match cs with
    | '.' :: r =>
      match simpleKey (skipBlanks r) with
      | .ok (k, rest) => dottedParts fuel (skipBlanks rest) (acc ++ [k])
      | .error f => if f.committed then .error f else .ok (acc, cs)
    | _ => .ok (acc, cs)

/-- A key, dotted or not, with the blanks around its parts. -/
def key (cs : List Char) : Except Failure ((List String) × List Char) :=
  annotate [.label "key"] do
    let (k, r) ← simpleKey (skipBlanks cs)
    let r := skipBlanks r
    dottedParts (r.length + 1) r [k]

def inlineEntry (item : List Char → Except Failure (Value × List Char)) (cs : List Char) : Except Failure ((List String × Value) × List Char) := do
  let (path, r) ← key cs
  commit do
    let r ← annotate [.expected "`.`", .expected "`=`"] (char '=' r)
    let (v, r) ← item (skipBlanks r)
    .ok ((path, v), skipBlanks r)

/-! ## Arrays and inline tables -/

def arrayItem (item : List Char → Except Failure (Value × List Char)) (cs : List Char) : Except Failure (Value × List Char) := do
  let r ← skipInsideArray cs
  let (v, r) ← item r
  let r ← skipInsideArray r
  .ok (v, r)

/-- More elements of an array, each after a comma; a trailing comma is allowed (`fuel` bounds
the elements). -/
def moreItems (item : List Char → Except Failure (Value × List Char)) : Nat → List Char → List Value → Except Failure ((List Value) × List Char)
  | 0, cs, acc => .ok (acc, cs)
  | fuel + 1, cs, acc =>
    match cs with
    | ',' :: r =>
      match arrayItem item r with
      | .ok (v, rest) => moreItems item fuel rest (acc ++ [v])
      | .error f => if f.committed then .error f else .ok (acc, r)
    | _ => .ok (acc, cs)

/-- An array after its opening bracket; `item` reads the elements. -/
def arrayOf (item : List Char → Except Failure (Value × List Char)) (cs : List Char) : Except Failure (Value × List Char) :=
  annotate [.label "array"] do
    let (items, r) ← commit do
      let (items, r) ← match arrayItem item cs with
        | .ok (v, r) => moreItems item (r.length + 1) r [v]
        | .error f => if f.committed then .error f else .ok ([], cs)
      let r ← skipInsideArray r
      .ok (items, r)
    match r with
    | ']' :: rest => .ok (.arr items, rest)
    | _ => refuseAt r [.expected "`]`"]

/-- More entries of an inline table, each after a comma (`fuel` bounds them). -/
def moreEntries (item : List Char → Except Failure (Value × List Char)) :
    Nat → List Char → List (List String × Value) → Except Failure ((List (List String × Value)) × List Char)
  | 0, cs, acc => .ok (acc, cs)
  | fuel + 1, cs, acc =>
    match cs with
    | ',' :: r =>
      match inlineEntry item r with
      | .ok (e, rest) => moreEntries item fuel rest (acc ++ [e])
      | .error f => if f.committed then .error f else .ok (acc, cs)
    | _ => .ok (acc, cs)

/-- An inline table after its opening brace; `item` reads the values. -/
def inlineTableOf (item : List Char → Except Failure (Value × List Char)) (cs : List Char) : Except Failure (Value × List Char) := do
  let (entries, r) ← commit (match inlineEntry item cs with
    | .ok (e, r) => moreEntries item (r.length + 1) r [e]
    | .error f => if f.committed then .error f else .ok ([], cs))
  let r := skipBlanks r
  let pairs := entries.map fun (path, v) => (path.dropLast, path.getLastD "", v)
  match inlineTableValue pairs with
  | .error c => refuseAt cs [.cause c.message]
  | .ok table =>
    match r with
    | '\x7d' :: rest => .ok (table, rest)
    | _ => refuseAt r [.label "inline table", .expected "`\x7d`"]

def word (w : String) (v : Value) (cs : List Char) : Except Failure (Value × List Char) :=
  if cs.take w.length == w.toList then .ok (v, cs.drop w.length) else failAt cs stringNotes

/-- A value; `room` is how much deeper arrays and inline tables may nest. -/
def value : Nat → List Char → Except Failure (Value × List Char)
  | 0, cs => failAt cs [.cause "recursion limit exceeded"]
  | room + 1, cs =>
    match cs with
    | [] => failAt []
    | c :: r =>
      if c = '"' || c = '\'' then (fun (s, rest) => (Value.str s, rest)) <$> string cs
      else if c = '[' then
        if room = 0 then refuseAt r [.cause "recursion limit exceeded", .label "array"]
        else arrayOf (value room) r
      else if c = '\x7b' then
        if room = 0 then refuseAt r [.cause "recursion limit exceeded"]
        else inlineTableOf (value room) r
      else if c = '+' || c = '-' || c.isDigit then
        orElse ((fun (t, rest) => (Value.datetime t, rest)) <$> dateTime cs) fun _ =>
          orElse ((fun (x, rest) => (Value.float x, rest)) <$> float cs) fun _ =>
            (fun (i, rest) => (Value.int i, rest)) <$> integer cs
      else if c = '_' then
        annotate [.expected "leading digit"] ((fun (i, rest) => (Value.int i, rest)) <$> integer cs)
      else if c = '.' then
        annotate [.expected "leading digit"] ((fun (x, rest) => (Value.float x, rest)) <$> float cs)
      else if c = 't' then word "true" (.bool true) cs
      else if c = 'f' then word "false" (.bool false) cs
      else if c = 'i' then word "inf" (.float (1.0 / 0.0)) cs
      else if c = 'n' then word "nan" (.float (0.0 / 0.0)) cs
      else failAt cs stringNotes

def nestingLimit : Nat := 80

/-! ## Lines -/

/-- A key-value line: the key, `=`, the value, and the rest of the line. -/
def pairLine (cs : List Char) : Except Failure ((List String × Value) × List Char) := do
  let (path, r) ← key cs
  commit do
    let r ← annotate [.expected "`.`", .expected "`=`"] (char '=' r)
    let (v, r) ← value nestingLimit (skipBlanks r)
    let r ← annotate [.expected "newline", .expected "`#`"] (lineTrailing r)
    .ok ((path, v), r)

/-- A header line: whether it opens a table of an array of tables, and its path. -/
def headerLine (cs : List Char) : Except Failure ((Bool × List String) × List Char) :=
  annotate [.label "table header"] <|
    match cs with
    | '[' :: '[' :: r => do
      let (path, r) ← commit (key r)
      let r ← match r with
        | ']' :: ']' :: rest => .ok rest
        | _ => refuseAt r [.expected "`.`", .expected "`]]`"]
      let r ← commit (annotate [.expected "newline", .expected "`#`"] (lineTrailing r))
      .ok ((true, path), r)
    | '[' :: r => do
      let (path, r) ← commit (key r)
      let r ← match r with
        | ']' :: rest => .ok rest
        | _ => refuseAt r [.expected "`.`", .expected "`]`"]
      let r ← commit (annotate [.expected "newline", .expected "`#`"] (lineTrailing r))
      .ok ((false, path), r)
    | _ => failAt cs

/-- A document being read: its tables so far and the path of the last header. -/
structure Assembly where
  root : List (String × Item) := []
  header : List String := []

/-- Reads the lines of a document (`fuel` bounds them). -/
def lines : Nat → List Char → Assembly → Except Failure Assembly
  | 0, _, a => .ok a
  | fuel + 1, cs, a =>
    let cs := skipBlanks cs
    match cs with
    | [] => .ok a
    | '#' :: _ =>
      match lineEnd (skipComment cs) with
      | .ok r => lines fuel r a
      | .error f => .error { f with committed := true }
    | '\n' :: _ | '\r' :: _ =>
      match newline cs with
      | .ok r => lines fuel r a
      | .error _ => failAt cs
    | '[' :: _ => do
      let ((many, path), r) ← commit (headerLine cs)
      let opened := if many then openArrayTable path a.root else openTable path a.root
      match opened with
      | .ok root => lines fuel r { root, header := path }
      | .error c => refuseAt cs [.label "table header", .cause c.message]
    | _ => do
      let ((path, v), r) ← commit (pairLine cs)
      let put := atHeader (putPair false a.header path.dropLast (path.getLastD "") v) a.header a.root
      match put with
      | .ok root => lines fuel r { a with root }
      | .error c => refuseAt cs [.cause c.message]

def read (text : String) : Except Failure Value :=
  let cs := match text.toList with
    | '\uFEFF' :: rest => rest
    | cs => cs
  (fun a => (Item.table false false a.root).toValue) <$> lines (cs.length + 1) cs {}

end FleetTelemetry.Toml
