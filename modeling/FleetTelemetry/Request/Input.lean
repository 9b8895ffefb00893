import FleetTelemetry.Json.Print
import FleetTelemetry.Json.Shape
import FleetTelemetry.Time.Rfc3339
import FleetTelemetry.Error

/-!
# Reading requests

A request is a JSON object; its members are read by name, a member that is `null` counting as
absent. A missing or mistyped member ends the request with a `BadInput` answer naming it. Every
other failure is also answered by an object: `Panic` when the program stops, `Deserialize` when
a typed decoder rejects a value, and `<Family>.<Variant>` for the library's own faults.
-/

namespace FleetTelemetry.Request

/-- The outcome of a request: the answer, or the object that answers a failure. -/
abbrev Reply := Except Json

/-- The wall clock as a request sees it: every call that reads the time gets this instant. -/
structure Clock where
  now : Time.Stamp

def answer (members : List (String × Json)) : Json := Json.sortedObj members

def badInput (message : String) : Json :=
  .obj [("error", .str "BadInput"), ("message", .str message)]

def reject (message : String) : Reply α := .error (badInput message)

def panicAnswer (h : Halt) : Json :=
  .obj [("error", .str "Panic"), ("message", .str h.message)]

def deserializeAnswer (e : Json.Error) : Json :=
  .obj [("error", .str "Deserialize"), ("message", .str e.message)]

def faultAnswer (family variant message : String) : Json :=
  .obj [("error", .str (family ++ "." ++ variant)), ("message", .str message)]

def invalidAnswer (e : Invalid) : Json := faultAnswer "ValidationError" e.variant e.message

def vendorAnswer (e : VendorFault) : Json :=
  answer [("error", .str ("VendorError." ++ e.variant)), ("message", .str e.display),
    ("code", match e.code with | some c => Json.ofInt c | none => .null),
    ("detail", .str e.message)]

def decodeAnswer (e : DecodeFault) : Json := faultAnswer "DecodeError" "Arity" e.message

def storeAnswer (e : StoreFault) : Json := faultAnswer "StoreError" e.variant e.message

def sinkAnswer (e : SinkFault) : Json := faultAnswer "SinkError" e.variant e.message

def pollAnswer : PollFault → Json
  | .invalid e => invalidAnswer e
  | .vendor e => vendorAnswer e
  | .decode e => decodeAnswer e
  | .store e => storeAnswer e
  | .sink e => sinkAnswer e

def halted : Except Halt α → Reply α
  | .ok a => .ok a
  | .error h => .error (panicAnswer h)

def decoded : Except Json.Error α → Reply α
  | .ok a => .ok a
  | .error e => .error (deserializeAnswer e)

/-! ### Members -/

def field? (input : Json) (k : String) : Option Json :=
  match input.get? k with
  | some .null => none
  | other => other

def need (input : Json) (k : String) : Reply Json :=
  match field? input k with
  | some v => .ok v
  | none => reject ("missing field `" ++ k ++ "`")

def str? (input : Json) (k : String) : Reply (Option String) :=
  match field? input k with
  | none => .ok none
  | some (.str s) => .ok (some s)
  | some _ => reject ("`" ++ k ++ "` must be a string")

def str (input : Json) (k : String) : Reply String := do
  match ← str? input k with
  | some s => pure s
  | none => reject ("missing field `" ++ k ++ "`")

def strOr (input : Json) (k : String) (d : String) : Reply String :=
  (·.getD d) <$> str? input k

def boolOr (input : Json) (k : String) (d : Bool) : Reply Bool :=
  match field? input k with
  | none => .ok d
  | some (.bool b) => .ok b
  | some _ => reject ("`" ++ k ++ "` must be a boolean")

def intIn? (input : Json) (k : String) (lo hi : Int) : Reply (Option Int) :=
  match field? input k with
  | none => .ok none
  | some (.num n) =>
    match n.toInt?, n with
    | some i, _ => if lo ≤ i ∧ i ≤ hi then .ok (some i) else reject ("`" ++ k ++ "` out of range")
    | none, .nat _ => reject ("`" ++ k ++ "` out of range")
    | none, _ => reject ("`" ++ k ++ "` must be an integer")
  | some _ => reject ("`" ++ k ++ "` must be an integer")

def intOr (input : Json) (k : String) (lo hi d : Int) : Reply Int :=
  (·.getD d) <$> intIn? input k lo hi

def int (input : Json) (k : String) (lo hi : Int) : Reply Int := do
  match ← intIn? input k lo hi with
  | some i => pure i
  | none => reject ("missing field `" ++ k ++ "`")

def nat? (input : Json) (k : String) : Reply (Option Nat) :=
  match field? input k with
  | none => .ok none
  | some (.num (.nat n)) => .ok (some n)
  | some (.num (.neg _)) => reject ("`" ++ k ++ "` out of range")
  | some _ => reject ("`" ++ k ++ "` must be an unsigned integer")

def natIn? (input : Json) (k : String) (hi : Nat) : Reply (Option Nat) := do
  match ← nat? input k with
  | some n => if n ≤ hi then pure (some n) else reject ("`" ++ k ++ "` out of range")
  | none => pure none

def natOr (input : Json) (k : String) (hi d : Nat) : Reply Nat :=
  (·.getD d) <$> natIn? input k hi

def nat (input : Json) (k : String) (hi : Nat) : Reply Nat := do
  match ← natIn? input k hi with
  | some n => pure n
  | none => reject ("missing field `" ++ k ++ "`")

/-- A status code member: a natural below `2^16`; an out-of-range one is named by its key. -/
def statusCode? (input : Json) (k : String) : Reply (Option Nat) :=
  match field? input k with
  | none => .ok none
  | some (.num (.nat n)) => if n < 65536 then .ok (some n) else reject k
  | some _ => reject k

def arr? (input : Json) (k : String) : Reply (Option (List Json)) :=
  match field? input k with
  | none => .ok none
  | some (.arr xs) => .ok (some xs)
  | some _ => reject ("`" ++ k ++ "` must be an array")

def arrOrEmpty (input : Json) (k : String) : Reply (List Json) := (·.getD []) <$> arr? input k

def arr (input : Json) (k : String) : Reply (List Json) := do
  match ← arr? input k with
  | some xs => pure xs
  | none => reject ("missing field `" ++ k ++ "`")

def stampOf (s : String) : Reply Time.Stamp :=
  match Time.parseRfc3339 s with
  | .ok t => .ok t
  | .error e => reject ("bad RFC 3339 timestamp " ++ Json.debugQuote s ++ ": " ++ e.message)

def stamp? (input : Json) (k : String) : Reply (Option Time.Stamp) := do
  match ← str? input k with
  | some s => some <$> stampOf s
  | none => pure none

def stamp (input : Json) (k : String) : Reply Time.Stamp := do
  stampOf (← str input k)

/-- Runs a step for each element, stopping at the first failure. -/
def eachOf (f : Json → Reply α) : List Json → Reply (List α)
  | [] => .ok []
  | x :: xs => do
    let a ← f x
    let rest ← eachOf f xs
    pure (a :: rest)

end FleetTelemetry.Request
