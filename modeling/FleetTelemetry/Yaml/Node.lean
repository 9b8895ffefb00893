import FleetTelemetry.Float.Read
import FleetTelemetry.Word

/-!
# YAML nodes

A YAML document loads into a tree of nodes: null, booleans, 64-bit integers, reals, strings,
sequences and mappings, and the bad value that stands for what a tag refuses or an alias that
names no finished node. A mapping keeps its keys in order; a key given again takes the later
value and moves to the end.

A quoted or block scalar is always a string. A plain scalar without a tag is resolved by its
text: `~` and `null` are null, `true` and `false` are booleans (lower case only), `0x` and `0o`
prefixes, a `+` and decimal digits (with an optional sign) within 64 bits are integers, and text
that reads as a double (`1.5`, `1e5`, `inf`, `NaN`, `.inf`, `.nan`) is a real kept as written.
Everything else is a string. The tags `!!bool`, `!!int`, `!!float` and `!!null` ask for one kind
and give the bad value when the text is not of it; every other tag gives a string.
-/

namespace FleetTelemetry.Yaml

inductive Node where
  | null
  | bool (b : Bool)
  | int (i : Int)
  | real (text : String)
  | str (s : String)
  | seq (items : List Node)
  | map (entries : List (Node × Node))
  /-- What a tag refuses, or an alias that names no finished node. -/
  | bad
  deriving Inhabited, BEq

def digitValue? (radix : Nat) (c : Char) : Option Nat :=
  let v := if '0' ≤ c ∧ c ≤ '9' then some (c.toNat - 48)
    else if 'a' ≤ c ∧ c ≤ 'f' then some (c.toNat - 87)
    else if 'A' ≤ c ∧ c ≤ 'F' then some (c.toNat - 55)
    else none
  v.bind fun d => if d < radix then some d else none

/-- The value of digits in a radix: `none` unless there is at least one and all are digits. -/
def digitsValue? (radix : Nat) : List Char → Option Nat
  | [] => none
  | c :: cs => cs.foldl (fun acc d => acc.bind fun a => (digitValue? radix d).map (a * radix + ·))
      (digitValue? radix c)

/-- A signed 64-bit integer in a radix: an optional `+` or `-`, then digits. -/
def readInteger? (radix : Nat) (s : String) : Option Int :=
  let (negative, digits) := match s.toList with
    | '-' :: ds => (true, ds)
    | '+' :: ds => (false, ds)
    | ds => (false, ds)
  (digitsValue? radix digits).bind fun n =>
    let v : Int := if negative then -(n : Int) else n
    if Word.i64Min ≤ v ∧ v ≤ Word.i64Max then some v else none

def specialReals : List String :=
  [".inf", ".Inf", ".INF", "+.inf", "+.Inf", "+.INF", "-.inf", "-.Inf", "-.INF", ".nan", "NaN",
   ".NAN"]

def isReal (s : String) : Bool := specialReals.contains s || (Binary64.readDecimal? s).isSome

def Node.ofPlain (s : String) : Node :=
  let prefixed : Option Int :=
    if s.startsWith "0x" then readInteger? 16 (s.drop 2).toString
    else if s.startsWith "0o" then readInteger? 8 (s.drop 2).toString
    else if s.startsWith "+" then readInteger? 10 (s.drop 1).toString
    else none
  match prefixed with
  | some i => .int i
  | none =>
    if s == "~" || s == "null" then .null
    else if s == "true" then .bool true
    else if s == "false" then .bool false
    else match readInteger? 10 s with
      | some i => .int i
      | none => if isReal s then .real s else .str s

def Node.ofScalar (text : String) (quoted : Bool) (handle suffix : Option String) : Node :=
  if quoted then .str text
  else
    match handle, suffix with
    | some "tag:yaml.org,2002:", some "bool" =>
      if text = "true" then .bool true else if text = "false" then .bool false else .bad
    | some "tag:yaml.org,2002:", some "int" =>
      match readInteger? 10 text with
      | some i => .int i
      | none => .bad
    | some "tag:yaml.org,2002:", some "float" => if isReal text then .real text else .bad
    | some "tag:yaml.org,2002:", some "null" => if text = "~" || text = "null" then .null else .bad
    | some _, _ => .str text
    | none, _ => Node.ofPlain text

def insertEntry (k v : Node) (entries : Array (Node × Node)) : Array (Node × Node) :=
  (entries.filter fun e => !(e.1 == k)).push (k, v)

end FleetTelemetry.Yaml
