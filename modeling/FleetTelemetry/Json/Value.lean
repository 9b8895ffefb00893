import FleetTelemetry.Float.Text

/-!
# JSON values

A JSON number keeps the kind it was read or built as: an unsigned integer below `2^64`, a
negative integer not below `-2^63`, or a finite double. The kind is visible in the output
(`1` and `1.0` are different texts), so it is part of the value. Objects keep their members in
the order they were given; `Json.sortedObj` builds the key-sorted, duplicate-free objects that
dictionaries produce.
-/

namespace FleetTelemetry

inductive Number where
  | nat (n : Nat)
  | neg (n : Int)
  | float (x : Float)

namespace Number

/-- The number from an integer: the integer kinds when it fits, else the nearest double. -/
def ofInt (i : Int) : Number :=
  if 0 ≤ i then
    if i.toNat ≤ Word.u64Max then .nat i.toNat else .float (Binary64.ofNat i.toNat)
  else if Word.i64Min ≤ i then .neg i
  else .float (-(Binary64.ofNat i.natAbs))

def toFloat : Number → Float
  | .nat n => Binary64.ofNat n
  | .neg n => -(Binary64.ofNat n.natAbs)
  | .float x => x

/-- The value as a signed 64-bit integer, when it is one. -/
def toInt? : Number → Option Int
  | .nat n => if n ≤ Word.i64Max.toNat then some n else none
  | .neg n => some n
  | .float _ => none

/-- The value as an unsigned 64-bit integer, when it is one. -/
def toNat? : Number → Option Nat
  | .nat n => some n
  | _ => none

def text : Number → String
  | .nat n => toString n
  | .neg n => toString n
  | .float x => if Binary64.isFinite x then Binary64.jsonText x else "null"

/-- Two numbers are equal when they have the same kind and value (doubles compare as doubles). -/
def beq : Number → Number → Bool
  | .nat a, .nat b => a == b
  | .neg a, .neg b => a == b
  | .float a, .float b => a == b
  | _, _ => false

instance : BEq Number := ⟨beq⟩

end Number

inductive Json where
  | null
  | bool (b : Bool)
  | num (n : Number)
  | str (s : String)
  | arr (items : List Json)
  | obj (members : List (String × Json))

namespace Json

instance : Inhabited Json := ⟨.null⟩

/-- Structural equality, numbers compared by `Number.beq`. -/
def beq : Json → Json → Bool
  | .null, .null => true
  | .bool a, .bool b => a == b
  | .num a, .num b => a == b
  | .str a, .str b => a == b
  | .arr as, .arr bs => listBeq as bs
  | .obj as, .obj bs => membersBeq as bs
  | _, _ => false
where
  listBeq : List Json → List Json → Bool
    | [], [] => true
    | a :: as, b :: bs => beq a b && listBeq as bs
    | _, _ => false
  membersBeq : List (String × Json) → List (String × Json) → Bool
    | [], [] => true
    | (k, a) :: as, (l, b) :: bs => k == l && beq a b && membersBeq as bs
    | _, _ => false

instance : BEq Json := ⟨beq⟩

def ofNat (n : Nat) : Json := .num (Number.ofInt n)

def ofInt (i : Int) : Json := .num (Number.ofInt i)

/-- A double; infinities and NaN become `null`, as JSON has no text for them. -/
def ofFloat (x : Float) : Json := if Binary64.isFinite x then .num (.float x) else .null

def ofOption (s : Option String) : Json := match s with
  | some s => .str s
  | none => .null

def insertSorted (k : String) (v : Json) : List (String × Json) → List (String × Json)
  | [] => [(k, v)]
  | (k', v') :: rest =>
    if k < k' then (k, v) :: (k', v') :: rest
    else if k = k' then (k, v) :: rest
    else (k', v') :: insertSorted k v rest

/-- The dictionary of the given members: sorted by key, a later member replacing an earlier. -/
def sortedObj (members : List (String × Json)) : Json :=
  .obj (members.foldl (fun acc (k, v) => insertSorted k v acc) [])

def get? (j : Json) (k : String) : Option Json :=
  match j with
  | .obj ms => ms.lookup k
  | _ => none

def getStr? : Json → Option String
  | .str s => some s
  | _ => none

def getArr? : Json → Option (List Json)
  | .arr xs => some xs
  | _ => none

def isNull : Json → Bool
  | .null => true
  | _ => false

def setSorted (j : Json) (k : String) (v : Json) : Json :=
  match j with
  | .obj ms => .obj (insertSorted k v ms)
  | other => other

end Json

end FleetTelemetry
