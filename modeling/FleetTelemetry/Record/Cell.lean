import FleetTelemetry.Json.Value
import FleetTelemetry.Float.Read
import FleetTelemetry.Text.Blank

/-!
# Vendor records and their cells

The vendor answers with positional rows: a `RawRecord` is a list of JSON cells, one per
requested property. Cells are loosely typed (a coordinate may be a number or a numeric string,
an identifier a number or a string), so three readings interpret them: whether a cell holds
something (`truthy`), the finite coordinate it gives (`coordinate`), and its text (`text`).
-/

namespace FleetTelemetry

structure RawRecord where
  values : List Json
  deriving Inhabited

namespace RawRecord

def len (r : RawRecord) : Nat := r.values.length

def isEmpty (r : RawRecord) : Bool := r.values.isEmpty

def get? (r : RawRecord) (i : Nat) : Option Json := r.values[i]?

end RawRecord

namespace Cell

/-- Whether a cell holds something: not `null`, `false`, zero, or an empty string, list or
object. -/
def truthy : Json → Bool
  | .null => false
  | .bool b => b
  | .num n => n.toFloat != 0.0
  | .str s => !s.isEmpty
  | .arr xs => !xs.isEmpty
  | .obj ms => !ms.isEmpty

/-- The finite double a cell gives: a number, or a string holding a decimal number (blanks
around it ignored). -/
def coordinate (v : Json) : Option Float :=
  let parsed := match v with
    | .num n => some n.toFloat
    | .str s => Binary64.readDecimal? (Text.trim s)
    | _ => none
  parsed.filter Binary64.isFinite

/-- The text of a cell: a string as it is, a number or a boolean as written, else empty. -/
def text : Json → String
  | .str s => s
  | .num n => n.text
  | .bool b => if b then "true" else "false"
  | _ => ""

end Cell

end FleetTelemetry
