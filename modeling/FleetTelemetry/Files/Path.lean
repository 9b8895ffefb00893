/-!
# File paths

Paths are texts with `/` between their parts; an absolute path starts with `/`. The operations
here are the lexical ones a program applies before it touches a disk:

* `join` puts a relative path below a directory and leaves an absolute one alone;
* `components` are the parts of a path without empty parts and `.` (a leading `.` of a relative
  path stays);
* `extension` is what follows the last dot of the last part, unless that dot starts the part;
* `relativeTo` writes a path relative to a directory, climbing with `..` where they differ.
-/

namespace FleetTelemetry.Files

def isAbsolute (p : String) : Bool := p.startsWith "/"

/-- A path below a directory; an absolute path stays as it is. -/
def join (base p : String) : String :=
  if isAbsolute p then p
  else if base.endsWith "/" then base ++ p
  else base ++ "/" ++ p

/-- The parts of a path: empty parts and `.` dropped, except a leading `.` of a relative path;
an absolute path starts with the part `/`. -/
def components (p : String) : List String :=
  let parts := p.splitOn "/"
  let named := parts.filter fun s => s != "" && s != "."
  if isAbsolute p then "/" :: named
  else if parts.head? == some "." then "." :: named
  else named

/-- The last part of a path, unless it is `..` or the root. -/
def fileName (p : String) : Option String :=
  match (components p).getLast? with
  | some "/" | some ".." | some "." | none => none
  | some n => some n

/-- The extension of a path: the text after the last dot of its last part, unless that dot
is the part's first character. -/
def extension (p : String) : Option String :=
  match fileName p with
  | none => none
  | some n =>
    match (n.splitOn ".").reverse with
    | [_] | [] => none
    | ext :: before =>
      if ".".intercalate before.reverse == "" then none else some ext

/-- A path relative to a directory, both absolute: the parts they share are dropped and each
other part of the directory becomes `..`. `none` when only the directory is relative. -/
def relativeTo (path base : String) : Option String :=
  if isAbsolute path != isAbsolute base then
    if isAbsolute path then some path else none
  else
    let rec go : List String → List String → Bool → Option (List String)
      | [], [], _ => some []
      | a :: as, [], _ => some (a :: as)
      | [], _ :: bs, _ => (".." :: ·) <$> go [] bs false
      | a :: as, b :: bs, sharing =>
        if sharing && a == b then go as bs true
        else if b == "." then (a :: ·) <$> go as bs false
        else if b == ".." then none
        else some (List.replicate (bs.length + 1) ".." ++ a :: as)
    (fun parts => "/".intercalate parts) <$> go (components path) (components base) true

end FleetTelemetry.Files
