import FleetTelemetry.Float.Text
import FleetTelemetry.Json.Shape
import FleetTelemetry.Text.Lower
import FleetTelemetry.Halt

/-!
# Configuration settings

A configuration is a tree of settings: nothing, booleans, 64-bit integers, doubles, texts,
lists and tables. Every setting remembers where it came from (a file by its path, or the
environment), so that a complaint about it can say so.

Settings convert loosely to what a program asks for:

* a text accepts any scalar (numbers and booleans are written out);
* an integer accepts a boolean (1 or 0), a double (rounded half away from zero) and a text
  that reads as one, including `true`/`on`/`yes` and `false`/`off`/`no`;
* an unsigned integer in the same way, but a negative integer is refused;
* a boolean accepts a number (true unless zero) and the texts `1`/`true`/`on`/`yes` and
  `0`/`false`/`off`/`no` in any letter case.

A refusal names what was found, what was expected, the key it was found under and its origin:
``invalid type: string "abc", expected an integer for key `gmt_offset` in the environment``.
-/

namespace FleetTelemetry.Config

/-- A configuration setting, with where it came from (`none` for tables made while merging). -/
inductive Setting where
  | nil (origin : Option String)
  | bool (origin : Option String) (b : Bool)
  | int (origin : Option String) (i : Int)
  | float (origin : Option String) (x : Float)
  | str (origin : Option String) (s : String)
  | arr (origin : Option String) (items : List Setting)
  | table (origin : Option String) (members : List (String × Setting))
  deriving Inhabited

namespace Setting

def origin : Setting → Option String
  | .nil o | .bool o _ | .int o _ | .float o _ | .str o _ | .arr o _ | .table o _ => o

def unexpected : Setting → String
  | .nil _ => "unit value"
  | .bool _ b => "boolean `" ++ toString b ++ "`"
  | .int _ i => "64-bit integer `" ++ toString i ++ "`"
  | .float _ x => "floating point `" ++ Binary64.plainText x ++ "`"
  | .str _ s => "string " ++ Json.debugQuote s
  | .arr _ _ => "sequence"
  | .table _ _ => "map"

end Setting

inductive ConfigFault where
  /-- A setting of the wrong kind: what was found, what was expected, the key and origin. -/
  | mismatch (origin : Option String) (found : String) (expected : String) (key : Option String)
  | message (text : String)
  | unreadable (cause : String) (uri : Option String)
  | halted (h : Halt)

namespace ConfigFault

def text : ConfigFault → String
  | .mismatch origin found expected key =>
    "invalid type: " ++ found ++ ", expected " ++ expected ++
      (match key with | some k => " for key `" ++ k ++ "`" | none => "") ++
      (match origin with | some o => " in " ++ o | none => "")
  | .message t => t
  | .unreadable cause uri => cause ++ (match uri with | some u => " in " ++ u | none => "")
  | .halted h => h.message

/-- A key segment put in front of the key of a mismatch: `k` before `[i]`, `k.` before a name. -/
def underKey (segment : String) : ConfigFault → ConfigFault
  | .mismatch o f e key =>
    let joined := match key with
      | none => segment
      | some k => if k.startsWith "[" then segment ++ k else segment ++ "." ++ k
    .mismatch o f e (some joined)
  | other => other

def atIndex (i : Nat) : ConfigFault → ConfigFault
  | .mismatch o f e key => .mismatch o f e (some ("[" ++ toString i ++ "]" ++ key.getD ""))
  | other => other

end ConfigFault

/-- The integer nearest to a finite double, halves away from zero; for NaN and the infinities,
the sign bit (`true` for negative). -/
def roundedInt (x : Float) : Except Bool Int :=
  match Binary64.Parts.ofBits x.toBits with
  | none => .error (Binary64.signBit x.toBits)
  | some p =>
    let magnitude : Nat :=
      if 0 ≤ p.exponent then p.significand * Nat.pow 2 p.exponent.toNat
      else
        let d := Nat.pow 2 (-p.exponent).toNat
        let q := p.significand / d
        if 2 * (p.significand % d) ≥ d then q + 1 else q
    .ok (if p.negative then -(magnitude : Int) else magnitude)

/-- A double rounded to a signed 64-bit integer, saturating; NaN gives zero. -/
def roundToInt64 (x : Float) : Int :=
  if x.isNaN then 0
  else match roundedInt x with
    | .ok i => max Word.i64Min (min Word.i64Max i)
    | .error negative => if negative then Word.i64Min else Word.i64Max

/-- A double rounded to an unsigned 64-bit integer, saturating; NaN gives zero. -/
def roundToUInt64 (x : Float) : Nat :=
  if x.isNaN then 0
  else match roundedInt x with
    | .ok i => if i < 0 then 0 else min Word.u64Max i.toNat
    | .error negative => if negative then 0 else Word.u64Max

/-- Reads a signed decimal integer (an optional sign, then digits) within 64 bits. -/
def readInt64? (s : String) : Option Int :=
  let (negative, digits) := match s.toList with
    | '-' :: ds => (true, ds)
    | '+' :: ds => (false, ds)
    | ds => (false, ds)
  if digits.isEmpty || !digits.all Char.isDigit then none
  else
    let n : Nat := digits.foldl (fun a c => a * 10 + (c.toNat - 48)) 0
    let v : Int := if negative then -(n : Int) else n
    if Word.i64Min ≤ v && v ≤ Word.i64Max then some v else none

/-- Reads an unsigned decimal integer (an optional `+`, then digits) within 64 bits. -/
def readUInt64? (s : String) : Option Nat :=
  let digits := match s.toList with
    | '+' :: ds => ds
    | ds => ds
  if digits.isEmpty || !digits.all Char.isDigit then none
  else
    let n : Nat := digits.foldl (fun a c => a * 10 + (c.toNat - 48)) 0
    if n ≤ Word.u64Max then some n else none

def numberWord? (s : String) : Option Nat :=
  let l := Text.toLower s
  if l == "true" || l == "on" || l == "yes" then some 1
  else if l == "false" || l == "off" || l == "no" then some 0
  else none

namespace Setting

def toText (v : Setting) : Except ConfigFault String :=
  match v with
  | .str _ s => .ok s
  | .bool _ b => .ok (toString b)
  | .int _ i => .ok (toString i)
  | .float _ x => .ok (Binary64.plainText x)
  | _ => .error (.mismatch v.origin v.unexpected "a string" none)

def toInt (v : Setting) : Except ConfigFault Int :=
  match v with
  | .int _ i => .ok i
  | .str o s =>
    match numberWord? s with
    | some n => .ok n
    | none => match readInt64? s with
      | some i => .ok i
      | none => .error (.mismatch o v.unexpected "an integer" none)
  | .bool _ b => .ok (if b then 1 else 0)
  | .float _ x => .ok (roundToInt64 x)
  | _ => .error (.mismatch v.origin v.unexpected "an integer" none)

def toUnsigned (v : Setting) : Except ConfigFault Nat :=
  match v with
  | .int o i =>
    if 0 ≤ i then .ok i.toNat
    else .error (.mismatch o v.unexpected "an unsigned 64 bit or less integer" none)
  | .str o s =>
    match numberWord? s with
    | some n => .ok n
    | none => match readUInt64? s with
      | some n => .ok n
      | none => .error (.mismatch o v.unexpected "an integer" none)
  | .bool _ b => .ok (if b then 1 else 0)
  | .float _ x => .ok (roundToUInt64 x)
  | _ => .error (.mismatch v.origin v.unexpected "an integer" none)

def toFlag (v : Setting) : Except ConfigFault Bool :=
  match v with
  | .bool _ b => .ok b
  | .int _ i => .ok (i != 0)
  | .float _ x => .ok (x != 0.0)
  | .str o s =>
    let l := Text.toLower s
    if l == "1" || l == "true" || l == "on" || l == "yes" then .ok true
    else if l == "0" || l == "false" || l == "off" || l == "no" then .ok false
    else .error (.mismatch o ("string " ++ Json.debugQuote l) "a boolean" none)
  | _ => .error (.mismatch v.origin v.unexpected "a boolean" none)

/-- How a value is named when a list or a choice was wanted instead: the words of a generic
refusal, where doubles always show a decimal point. -/
def found : Setting → String
  | .nil _ => "unit value"
  | .bool _ b => "boolean `" ++ toString b ++ "`"
  | .int _ i => "integer `" ++ toString i ++ "`"
  | .float _ x => "floating point `" ++ Binary64.pointedText x ++ "`"
  | .str _ s => "string " ++ Json.debugQuote s
  | .arr _ _ => "sequence"
  | .table _ _ => "map"

end Setting

end FleetTelemetry.Config
