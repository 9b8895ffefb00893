/-!
# Punycode

Punycode writes a label of any Unicode characters with ASCII letters, digits and `-` only
(RFC 3492): the ASCII characters of the label first, then a `-` if there were any, then the
places and code points of the others as variable-length integers in base 36, with a bias that
adapts to the sizes seen so far.

Decoding refuses a non-ASCII character before the last `-`, a digit that is not a letter or a
decimal digit, an integer cut short by the end, a value past 32 bits and a code point that is not
a character.
-/

namespace FleetTelemetry.Http.Punycode

/-- The largest value decoding works with: the largest unsigned 32-bit number. -/
def limit : Nat := 4294967295

def digit (d : Nat) : Char := if d < 26 then Char.ofNat (97 + d) else Char.ofNat (22 + d)

def digitValue? (c : Char) : Option Nat :=
  if '0' ≤ c ∧ c ≤ '9' then some (c.toNat - 48 + 26)
  else if 'a' ≤ c ∧ c ≤ 'z' then some (c.toNat - 97)
  else if 'A' ≤ c ∧ c ≤ 'Z' then some (c.toNat - 65)
  else none

/-- The bias after a delta, for a label now of `numPoints` code points. -/
def adapt (delta numPoints : Nat) (first : Bool) : Nat :=
  let delta := if first then delta / 700 else delta / 2
  let delta := delta + delta / numPoints
  go delta 0 (delta + 1)
where
  go (delta k : Nat) : Nat → Nat
  | 0 => k + (36 * delta) / (delta + 38)
  | fuel + 1 =>
    if delta > 455 then go (delta / 35) (k + 36) fuel
    else k + (36 * delta) / (delta + 38)

def threshold (k bias : Nat) : Nat :=
  if k ≤ bias then 1 else if k ≥ bias + 26 then 26 else k - bias

def integer (q bias : Nat) : List Char :=
  go q 36 (q + 2)
where
  go (q k : Nat) : Nat → List Char
  | 0 => [digit q]
  | fuel + 1 =>
    let t := threshold k bias
    if q < t then [digit q]
    else digit (t + (q - t) % (36 - t)) :: go ((q - t) / (36 - t)) (k + 36) fuel

/-- Encodes the code points of one label (without the `xn--` prefix). -/
def encode (codes : List Nat) : String :=
  let basic := codes.filter (· < 0x80)
  let b := basic.length
  let out0 := basic.map Char.ofNat ++ (if b > 0 then ['-'] else [])
  let rec loop (n delta bias h : Nat) (out : List Char) : Nat → List Char
    | 0 => out
    | fuel + 1 =>
      if h ≥ codes.length then out
      else
        let m := (codes.filter (· ≥ n)).foldl min 0x110000
        let delta := delta + (m - n) * (h + 1)
        let (delta, bias, h, out) := codes.foldl (fun (delta, bias, h, out) c =>
          if c < m then (delta + 1, bias, h, out)
          else if c == m then
            (0, adapt delta (h + 1) (h == b), h + 1, out ++ integer delta bias)
          else (delta, bias, h, out)) (delta, bias, h, out)
        loop (m + 1) (delta + 1) bias h out fuel
  String.ofList (loop 0x80 0 72 b out0 (codes.length + 1))

/-- Reads one variable-length integer, adding it to `i`: the new `i` and the digits left. -/
def readInteger (bias : Nat) : Nat → Nat → Nat → Nat → List Char → Option (Nat × List Char)
  | 0, _, _, _, _ => none
  | _ + 1, _, _, _, [] => none
  | fuel + 1, i, weight, k, c :: rest => do
    let d ← digitValue? c
    let i := i + d * weight
    guard (i ≤ limit)
    let t := threshold k bias
    if d < t then return (i, rest)
    let weight := weight * (36 - t)
    guard (weight ≤ limit)
    readInteger bias fuel i weight (k + 36) rest

/-- Inserts the code points the digits give into the decoded code points so far. Each round
reads one integer, so the fuel of the number of digits is enough. -/
def insertAll : Nat → Nat → Nat → Nat → List Nat → List Char → Option (List Nat)
  | _, _, _, _, out, [] => some out
  | 0, _, _, _, _, _ => none
  | fuel + 1, n, bias, i, out, ds => do
    let (i', rest) ← readInteger bias (ds.length + 1) i 1 36 ds
    let size := out.length + 1
    let bias := adapt (i' - i) size (i == 0)
    let n := n + i' / size
    guard (Nat.isValidChar n)
    let place := i' % size
    insertAll fuel n bias (place + 1) (out.take place ++ [n] ++ out.drop place) rest

/-- Decodes a label (without the `xn--` prefix) into its code points. -/
def decode? (label : List Char) : Option (List Nat) :=
  let (basic, digits) := match (label.reverse.findIdx? (· = '-')) with
    | some k => (label.take (label.length - 1 - k), label.drop (label.length - k))
    | none => ([], label)
  if basic.any (·.toNat ≥ 0x80) then none
  else insertAll (digits.length + 1) 0x80 72 0 (basic.map Char.toNat) digits

end FleetTelemetry.Http.Punycode
