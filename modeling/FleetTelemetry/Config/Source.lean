import FleetTelemetry.Config.Path
import FleetTelemetry.Toml.Document
import FleetTelemetry.Yaml.Read
import FleetTelemetry.Ini.Read
import FleetTelemetry.Ron.Read
import FleetTelemetry.Json5.Read
import FleetTelemetry.Json.Read
import FleetTelemetry.Float.Read
import FleetTelemetry.Files.Tree

/-!
# Configuration sources

Settings come from a file and from the environment, in that order; a later source wins.

* **File.** The file's extension picks its format: `toml`, `json`, `yaml`/`yml`, `ini`, `ron`
  or `json5`. A path that names no file is tried with each known extension added. The file's
  settings remember the path relative to the working directory. A file whose root is not a
  table is refused, and so is a YAML file of more than one document; a YAML file of none is an
  empty table. A YAML mapping key must be a text or an integer, and any other key stops the
  program. An INI file's values are all texts: its keys before the first header are top-level
  keys, and each section is a table. A RON map's keys must read as texts, and a RON character
  is a text.
* **Environment.** Variables whose lower-cased name starts with the prefix and `_` give a
  setting under the rest of the name; the value reads as a boolean (`true`/`false` in any
  case), an integer, a double, a list split at commas (for list keys), or else a text.

Keys are lower-cased as they are read, in files at every level. Merging puts each top-level key
of a source into the configuration at the key path it names (see `Config.Path`).
-/

namespace FleetTelemetry.Config

open Files

mutual
/-- A TOML value as a setting from an origin; dates and times become their text. -/
def ofToml (origin : Option String) : Toml.Value → Setting
  | .str s => .str origin s
  | .int i => .int origin i
  | .float x => .float origin x
  | .bool b => .bool origin b
  | .datetime t => .str origin t
  | .arr xs => .arr origin (ofTomlItems origin xs)
  | .table ms => .table origin (ofTomlMembers origin ms)

def ofTomlItems (origin : Option String) : List Toml.Value → List Setting
  | [] => []
  | x :: xs => ofToml origin x :: ofTomlItems origin xs

def ofTomlMembers (origin : Option String) : List (String × Toml.Value) → List (String × Setting)
  | [] => []
  | (k, v) :: rest => (Text.toLower k, ofToml origin v) :: ofTomlMembers origin rest
end

mutual
/-- A JSON value as a setting from an origin; integers that fit 64 signed bits stay integers,
other numbers become doubles; of a repeated key the last member counts. -/
def ofJson (origin : Option String) : Json → Setting
  | .null => .nil origin
  | .bool b => .bool origin b
  | .num n => match n.toInt? with
    | some i => .int origin i
    | none => .float origin n.toFloat
  | .str s => .str origin s
  | .arr xs => .arr origin (ofJsonItems origin xs)
  | .obj ms => .table origin (ofJsonMembers origin ms [])

def ofJsonItems (origin : Option String) : List Json → List Setting
  | [] => []
  | x :: xs => ofJson origin x :: ofJsonItems origin xs

/-- The members of a JSON object as settings under lower-cased keys, added to `acc`. -/
def ofJsonMembers (origin : Option String) : List (String × Json) → List (String × Setting) →
    List (String × Setting)
  | [], acc => acc
  | (k, v) :: rest, acc => ofJsonMembers origin rest (upsert (Text.toLower k) (ofJson origin v) acc)
end

/-- The stop of the program on a YAML mapping key that is neither a text nor an integer. -/
def yamlKeyHalt : Halt := ⟨"internal error: entered unreachable code"⟩

mutual
/-- A YAML node as a setting from an origin; a real is read as a double, and one that does not
read as one (`.inf`, `.nan`) is refused. -/
def ofYaml (origin : Option String) : Yaml.Node → Except ConfigFault Setting
  | .null | .bad => .ok (.nil origin)
  | .bool b => .ok (.bool origin b)
  | .int i => .ok (.int origin i)
  | .real t => match Binary64.readDecimal? t with
    | some x => .ok (.float origin x)
    | none => .error (.unreadable ("Parsing " ++ t ++ " as floating point number failed") origin)
  | .str s => .ok (.str origin s)
  | .seq xs => (.arr origin ·) <$> ofYamlItems origin xs
  | .map es => (.table origin ·) <$> ofYamlEntries origin es []

def ofYamlItems (origin : Option String) : List Yaml.Node → Except ConfigFault (List Setting)
  | [] => .ok []
  | x :: xs => do
    let v ← ofYaml origin x
    let vs ← ofYamlItems origin xs
    pure (v :: vs)

/-- The entries of a YAML mapping as settings, added to `acc`: a text key is lower-cased, an
integer key is written out, and any other key stops the program. Of two keys with one text the
later counts. -/
def ofYamlEntries (origin : Option String) : List (Yaml.Node × Yaml.Node) →
    List (String × Setting) → Except ConfigFault (List (String × Setting))
  | [], acc => .ok acc
  | (k, v) :: rest, acc => do
    let key ← match k with
      | .str s => pure (Text.toLower s)
      | .int i => pure (toString i)
      | _ => throw (.halted yamlKeyHalt)
    let s ← ofYaml origin v
    ofYamlEntries origin rest (upsert key s acc)
end

mutual
def ofJson5 (origin : Option String) : Json5.Value → Setting
  | .null => .nil origin
  | .bool b => .bool origin b
  | .int i => .int origin i
  | .float x => .float origin x
  | .str s => .str origin s
  | .array xs => .arr origin (ofJson5Items origin xs)
  | .object ms => .table origin (ofJson5Members origin ms [])

def ofJson5Items (origin : Option String) : List Json5.Value → List Setting
  | [] => []
  | x :: xs => ofJson5 origin x :: ofJson5Items origin xs

/-- The members of a JSON5 object as settings under lower-cased keys, added to `acc`; of a
repeated key the last member counts. -/
def ofJson5Members (origin : Option String) : List (String × Json5.Value) →
    List (String × Setting) → List (String × Setting)
  | [], acc => acc
  | (k, v) :: rest, acc => ofJson5Members origin rest (upsert (Text.toLower k) (ofJson5 origin v) acc)
end

/-- How a RON map key that is not text is named when it is refused as a key. -/
def ronFound : Ron.Value → String
  | .bool b => "the boolean \x60" ++ toString b ++ "\x60"
  | .int i => "the signed integer \x60" ++ toString i ++ "\x60"
  | .float x => "the floating point number \x60" ++ Binary64.plainText x ++ "\x60"
  | .option _ => "an optional value"
  | .unit => "a unit value"
  | .seq _ => "a sequence"
  | .map _ => "a map"
  | .char c => "the UTF-8 character \x60" ++ c.toString ++ "\x60"
  | .str s => "the string " ++ Json.debugQuote s

/-- The text of a RON map key: a string or a character. -/
def ronKeyText (origin : Option String) : Ron.Value → Except ConfigFault String
  | .str s => .ok s
  | .char c => .ok c.toString
  | other => .error (.unreadable ("Expected a string but found " ++ ronFound other ++ " instead") origin)

mutual
/-- A RON value as a setting from an origin: `Some(v)` is `v`, `None` and the unit are nothing,
a character is a text. -/
def ofRon (origin : Option String) : Ron.Value → Except ConfigFault Setting
  | .option (some v) => ofRon origin v
  | .option none | .unit => .ok (.nil origin)
  | .bool b => .ok (.bool origin b)
  | .int i => .ok (.int origin i)
  | .float x => .ok (.float origin x)
  | .char c => .ok (.str origin c.toString)
  | .str s => .ok (.str origin s)
  | .seq xs => (.arr origin ·) <$> ofRonItems origin xs
  | .map es => (.table origin ·) <$> ofRonEntries origin es []

def ofRonItems (origin : Option String) : List Ron.Value → Except ConfigFault (List Setting)
  | [] => .ok []
  | x :: xs => do
    let v ← ofRon origin x
    let vs ← ofRonItems origin xs
    pure (v :: vs)

/-- The entries of a RON map as settings under lower-cased keys, added to `acc` in key
order; every key must be a string or a character. -/
def ofRonEntries (origin : Option String) : List (Ron.Value × Ron.Value) →
    List (String × Setting) → Except ConfigFault (List (String × Setting))
  | [], acc => .ok acc
  | (k, v) :: rest, acc => do
    let key ← ronKeyText origin k
    let s ← ofRon origin v
    ofRonEntries origin rest (upsert (Text.toLower key) s acc)
end

/-- The settings of an INI document: the keys before the first header at the top, each section
as a table of texts under its name, names lower-cased. Of a key or a section given twice, the
last counts. -/
def ofIni (origin : Option String) (sections : List Ini.Section) : List (String × Setting) :=
  let texts (s : Ini.Section) : List (String × Setting) :=
    s.entries.toList.foldl (fun acc (k, v) => upsert (Text.toLower k) (.str origin v) acc) []
  sections.foldl (fun acc s =>
    match s.name with
    | none => (texts s).foldl (fun a (k, v) => upsert k v a) acc
    | some n => upsert (Text.toLower n) (.table origin (texts s)) acc) []

/-! ## The environment -/

def environmentOrigin : String := "the environment"

def envValue (listKeys : List String) (key value : String) : Setting :=
  let o := some environmentOrigin
  let lower := Text.toLower value
  if lower == "true" then .bool o true
  else if lower == "false" then .bool o false
  else match readInt64? value with
    | some i => .int o i
    | none => match Binary64.readDecimal? value with
      | some x => .float o x
      | none =>
        if listKeys.contains key then .arr o ((value.splitOn ",").map (.str o))
        else .str o value

def envSettings (pre : String) (listKeys : List String) (vars : List (String × String)) :
    List (String × Setting) :=
  let start := Text.toLower pre ++ "_"
  vars.filterMap fun (name, value) =>
    let key := Text.toLower name
    if key.startsWith start then
      let k := String.ofList (key.toList.drop start.length)
      some (k, envValue listKeys k value)
    else none

/-! ## Files -/

inductive Format where
  | toml | json | yaml | ini | ron | json5
  deriving BEq, Repr

def formatExtensions : List (Format × List String) :=
  [(.toml, ["toml"]), (.json, ["json"]), (.yaml, ["yaml", "yml"]), (.ini, ["ini"]),
   (.ron, ["ron"]), (.json5, ["json5"])]

def formatOf? (ext : String) : Option Format :=
  (formatExtensions.find? fun (_, exts) => exts.contains ext).map (·.1)

/-- The settings of a file's text in a format, remembering `uri` as their origin. -/
def parseFormat (f : Format) (uri : Option String) (text : String) :
    Except ConfigFault (List (String × Setting)) :=
  let unreadable (cause : String) : ConfigFault := .unreadable cause uri
  let rootTable (s : Setting) : Except ConfigFault (List (String × Setting)) :=
    match s with
    | .table _ ms => .ok ms
    | other => .error (unreadable (ConfigFault.mismatch uri other.unexpected "a map" none).text)
  match f with
  | .toml =>
    match Toml.read text with
    | .ok v => rootTable (ofToml uri v)
    | .error e => .error (unreadable (e.render text))
  | .json =>
    match Json.parse text with
    | .ok v => rootTable (ofJson uri v)
    | .error e => .error (unreadable e.message)
  | .yaml =>
    match Yaml.read text with
    | .ok [] => .ok []
    | .ok [d] => ofYaml uri d >>= rootTable
    | .ok ds => .error (unreadable ("Got " ++ toString ds.length ++ " YAML documents, expected 1"))
    | .error f => .error (unreadable f.message)
  | .ini =>
    match Ini.read text with
    | .ok sections => .ok (ofIni uri sections)
    | .error f => .error (unreadable f.message)
  | .ron =>
    match Ron.read text with
    | .ok v => ofRon uri v >>= rootTable
    | .error f => .error (unreadable f.message)
  | .json5 =>
    match Json5.read text with
    | .ok v => rootTable (ofJson5 uri v)
    | .error e => .error (unreadable e)

/-- The paths a configuration name may stand for, in the order they are tried: the name below
the working directory, then that path with each format's extension added. -/
def candidatePaths (workDir name : String) : List String :=
  let path := join workDir name
  path :: formatExtensions.flatMap fun (_, exts) =>
    if (fileName path).isSome then exts.map fun e => path ++ "." ++ e else []

/-- Finds the configuration file a name stands for: the file itself (whose extension must name a
format), or the name with a format's extension added. The result is the path found and its
format. -/
def findFile (tree : Tree) (name : String) : Except ConfigFault (String × Format) :=
  let path := join tree.workDir name
  if tree.isFile path then
    match formatOf? ((extension path).getD "") with
    | some f => .ok (path, f)
    | none => .error (.message ("configuration file \"" ++ path ++ "\" is not of a registered file format"))
  else
    let tried := (candidatePaths tree.workDir name).drop 1
    match tried.find? tree.isFile with
    | some found => .ok (found, (formatOf? ((extension found).getD "")).getD .toml)
    | none => .error (.message ("configuration file \"" ++ name ++ "\" not found"))

def fileSettings (tree : Tree) (name : String) : Except ConfigFault (List (String × Setting)) := do
  let (path, format) ← findFile tree name
  let uri := some ((relativeTo path tree.workDir).getD path)
  parseFormat format uri ((tree.read? path).getD "")

end FleetTelemetry.Config
