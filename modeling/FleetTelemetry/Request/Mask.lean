import FleetTelemetry.Time.Calendar
import FleetTelemetry.Time.Stamp
import FleetTelemetry.Json.Value

/-!
# Masking what depends on the run

Answers that involve a real network or the wall clock hide what differs from run to run:

1. `127.0.0.1:<port>` for a known port becomes `127.0.0.1:` and the port's role
   (`SERVER_PORT`, `VENDOR_PORT`, `SINK_PORT`, `CLOSED_PORT`);
2. the private working directory becomes `{tmp}`;
3. every timestamp-looking text (`YYYY-MM-DD`, then `T`, a space or `%20`, then `HH:MM:SS`
   with `:` or `%3A`, an optional fraction and an optional `Z` or `±HH:MM` offset) that lies
   within 26 hours of the clock becomes `<now-relative>`; one without an offset is read as UTC.

Masking applies to every string of an answer, keys included.
-/

namespace FleetTelemetry.Request

def nowRelative : String := "<now-relative>"

/-- How close to the clock a time must be to depend on it: 26 hours. -/
def nearClockNanos : Int := 26 * 3600 * Time.nanosPerSecond

def readDigits (n : Nat) (cs : List Char) : Option (Nat × List Char) :=
  let ds := cs.take n
  if ds.length == n && ds.all Char.isDigit then
    some (ds.foldl (fun a c => a * 10 + (c.toNat - 48)) 0, cs.drop n)
  else none

def readOneOf (options : List String) (cs : List Char) : Option (List Char) :=
  options.findSome? fun o => if cs.take o.length == o.toList then some (cs.drop o.length) else none

/-- A timestamp-looking text at the start: the instant it names (none when it names no valid
date) and its length. -/
def stampPrefix (cs : List Char) : Option (Option Int × Nat) := do
  let (year, r) ← readDigits 4 cs
  let r ← readOneOf ["-"] r
  let (month, r) ← readDigits 2 r
  let r ← readOneOf ["-"] r
  let (day, r) ← readDigits 2 r
  let r ← readOneOf ["T", " ", "%20"] r
  let (hour, r) ← readDigits 2 r
  let r ← readOneOf [":", "%3A"] r
  let (minute, r) ← readDigits 2 r
  let r ← readOneOf [":", "%3A"] r
  let (second, r) ← readDigits 2 r
  let (nanos, r) := match r with
    | '.' :: more@(d :: _) =>
      if d.isDigit then
        let fraction := more.takeWhile Char.isDigit
        let nine := (fraction.take 9 ++ List.replicate (9 - min 9 fraction.length) '0')
        (nine.foldl (fun a c => a * 10 + (c.toNat - 48)) 0, more.drop fraction.length)
      else (0, r)
    | _ => (0, r)
  let (offset, r) := match r with
    | 'Z' :: more => (0, more)
    | sign :: more =>
      if sign = '+' || sign = '-' then
        match readDigits 2 more with
        | some (oh, ':' :: m2) =>
          match readDigits 2 m2 with
          | some (om, rest) =>
            let o : Int := oh * 3600 + om * 60
            ((if sign = '-' then -o else o), rest)
          | none => (0, r)
        | _ => (0, r)
      else (0, r)
    | [] => (0, r)
  let valid := Time.isValidDate year month day && hour < 24 && minute < 60 && second < 60
  let instant : Option Int := if valid then
      some ((Time.daysFromCivil year month day * 86400 + hour * 3600 + minute * 60 + second - offset)
        * Time.nanosPerSecond + nanos)
    else none
  pure (instant, cs.length - r.length)

/-- Replaces every timestamp near the clock by `<now-relative>`. -/
def maskTimes (now : Time.Stamp) (s : String) : String :=
  String.ofList (go s.toList [] (s.length + 1))
where
  /-- Scans the text with fuel, copying or replacing each timestamp-looking part. -/
  go : List Char → List Char → Nat → List Char
  | [], acc, _ => acc.reverse
  | cs, acc, 0 => acc.reverse ++ cs
  | c :: rest, acc, fuel + 1 =>
    match stampPrefix (c :: rest) with
    | some (instant, n) =>
      let near := match instant with
        | some t => decide ((t - now.utc).natAbs ≤ nearClockNanos.natAbs)
        | none => false
      let shown := if near then nowRelative.toList else (c :: rest).take n
      go ((c :: rest).drop n) (shown.reverse ++ acc) fuel
    | none => go rest (c :: acc) fuel

def maskPorts (names : List (Nat × String)) (s : String) : String :=
  let host := "127.0.0.1:"
  match s.splitOn host with
  | [] => s
  | first :: pieces =>
    first ++ String.join (pieces.map fun p =>
      let ds := p.toList.takeWhile Char.isDigit
      let port := ds.foldl (fun a c => a * 10 + (c.toNat - 48)) 0
      match (if ds.isEmpty then none else names.lookup port) with
      | some name => host ++ name ++ String.ofList (p.toList.drop ds.length)
      | none => host ++ p)

structure Masking where
  ports : List (Nat × String)
  /-- The private working directory, when the run has one. -/
  workDir : Option String := none
  now : Time.Stamp

def Masking.text (m : Masking) (s : String) : String :=
  let s := maskPorts m.ports s
  let s := match m.workDir with
    | some d => s.replace d "{tmp}"
    | none => s
  maskTimes m.now s

def mapStrings (f : String → String) : Json → Json
  | .str s => .str (f s)
  | .arr xs => .arr (mapItems f xs)
  | .obj ms => .obj (mapMembers f ms)
  | other => other
where
  mapItems (f : String → String) : List Json → List Json
  | [] => []
  | x :: xs => mapStrings f x :: mapItems f xs
  mapMembers (f : String → String) : List (String × Json) → List (String × Json)
  | [] => []
  | (k, v) :: ms => (f k, mapStrings f v) :: mapMembers f ms

def Masking.answer (m : Masking) (j : Json) : Json := mapStrings m.text j

end FleetTelemetry.Request
