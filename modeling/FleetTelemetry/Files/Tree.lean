import FleetTelemetry.Files.Path
import FleetTelemetry.Store.File

/-!
# A small file tree

The files a command-line run can see: a working directory (with the directories above it),
directories made during the run, and files with their text. Relative paths are read from the
working directory.

A path is followed part by part, as an operating system does: `..` goes up, and a path that
goes on below a plain file is *blocked* (the system says "Not a directory"); a path that goes on
below something missing is *lost* (nothing is there). What a file store needs of a path is its
`Disk` view; writing a file makes the directories above it.
-/

namespace FleetTelemetry.Files

inductive Walk where
  | at (parts : List String)
  | blocked
  | lost
  deriving BEq, Repr

structure Tree where
  workDir : String
  madeDirs : List (List String) := []
  files : List (List String × String) := []

namespace Tree

def workParts (t : Tree) : List String := (components t.workDir).drop 1

/-- Whether there is a directory at these parts: the root, the working directory or one above
it, or one made during the run. -/
def isDirAt (t : Tree) (parts : List String) : Bool :=
  parts.isPrefixOf t.workParts || t.madeDirs.contains parts

def fileAt? (t : Tree) (parts : List String) : Option String := t.files.lookup parts

def follow (t : Tree) : List String → List String → Walk
  | here, [] => .at here
  | here, p :: ps =>
    if (t.fileAt? here).isSome then .blocked
    else if !t.isDirAt here then .lost
    else if p == ".." then follow t here.dropLast ps
    else follow t (here ++ [p]) ps

def walk (t : Tree) (path : String) : Walk :=
  t.follow [] ((components (join t.workDir path)).drop 1)

def disk (t : Tree) (path : String) : Disk :=
  match t.walk path with
  | .blocked => { folderIsFile := true }
  | .lost => {}
  | .at parts =>
    match t.fileAt? parts with
    | some text => { entry := some (.file text) }
    | none => if t.isDirAt parts then { entry := some .directory } else {}

def isFile (t : Tree) (path : String) : Bool :=
  match t.walk path with
  | .at parts => (t.fileAt? parts).isSome
  | _ => false

def read? (t : Tree) (path : String) : Option String :=
  match t.walk path with
  | .at parts => t.fileAt? parts
  | _ => none

def write (t : Tree) (path : String) (text : String) : Tree :=
  match t.walk path with
  | .at parts =>
    let above := (List.range parts.length).map fun n => parts.take n
    let made := above.filter fun d => !t.isDirAt d
    { t with madeDirs := t.madeDirs ++ made,
             files := (t.files.filter (·.1 != parts)) ++ [(parts, text)] }
  | _ => t

def store (t : Tree) (path : String) (d : Disk) : Tree :=
  match d.entry with
  | some (.file text) => t.write path text
  | _ => t

end Tree

end FleetTelemetry.Files
