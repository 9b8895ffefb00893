import FleetTelemetry.Text.Packed
import FleetTelemetry.Text.Compose
import FleetTelemetry.Http.DomainData
import FleetTelemetry.Http.Punycode

/-!
# Internationalized domain names

The host of a URL with a special scheme is brought to ASCII as Unicode Technical Standard 46
says, keeping its deviation characters, with no check of hyphens or lengths:

1. every character is mapped: most stand for themselves, capitals and compatibility forms stand
   for their small or plain forms (a fullwidth digit for the digit, an ideographic full stop for
   `.`), some are dropped (a soft hyphen), and some are refused;
2. the result is put in Normalization Form C and split into labels at `.`;
3. a label that starts with `xn--` is decoded from Punycode, and must then hold a character
   beyond ASCII, be in Normalization Form C and hold only valid characters;
4. no label may start with a combining mark, a zero-width joiner or non-joiner must follow a
   virama, and no label may hold an ASCII character a domain forbids: a control, a space, DEL or
   one of `%#/:<>?@[\]^|`;
5. every label beyond ASCII is written `xn--` and its Punycode.
-/

namespace FleetTelemetry.Http

def isForbiddenHostChar (c : Char) : Bool :=
  c = '\x00' || c = '\t' || c = '\n' || c = '\r' || c = ' ' || c = '#' || c = '/' || c = ':' ||
    c = '<' || c = '>' || c = '?' || c = '@' || c = '[' || c = '\\' || c = ']' || c = '^' ||
    c = '|'

def isForbiddenDomainChar (c : Char) : Bool :=
  isForbiddenHostChar c || c.toNat < 0x20 || c = '%' || c.toNat = 0x7F

inductive CharRule where
  | valid
  | deviation
  | ignored
  | disallowed
  | mapped (targets : List Nat)

/-- The one-character mappings: first points, last points, strides and shifts. -/
def mappedRuns : Array Nat × Array Nat × Array Nat × Array Int :=
  let records := Text.readRecords mappedRunText
  ((records.map (Text.field · 0)).toArray, (records.map (Text.field · 1)).toArray,
    (records.map (Text.field · 2)).toArray, (records.map (·.getD 3 0)).toArray)

/-- The mappings to several code points: the characters and what they stand for. -/
def mappedMany : Array Nat × Array (List Nat) :=
  let records := Text.readRecords mappedManyText
  ((records.map (Text.field · 0)).toArray, (records.map fun r => (r.drop 1).map Int.toNat).toArray)

def disallowedSet : Text.RangeSet := Text.RangeSet.read disallowedText

def ignoredSet : Text.RangeSet := Text.RangeSet.read ignoredText

def deviationSet : Text.RangeSet := Text.RangeSet.read deviationText

def runTarget? (c : Nat) : Option Nat :=
  let (firsts, lasts, strides, shifts) := mappedRuns
  (Text.lastAtMost firsts c).bind fun i =>
    if c ≤ lasts.getD i 0 ∧ (c - firsts.getD i 0) % strides.getD i 1 = 0 then
      some ((c : Int) + shifts.getD i 0).toNat
    else none

def charRule (c : Nat) : CharRule :=
  let (codes, parts) := mappedMany
  match Text.findKey? codes c with
  | some i => .mapped (parts.getD i [])
  | none =>
    match runTarget? c with
    | some m => .mapped [m]
    | none =>
      if ignoredSet.contains c then .ignored
      else if deviationSet.contains c then .deviation
      else if disallowedSet.contains c then .disallowed
      else .valid

/-- The code points a character maps to; `none` when it is refused. -/
def mapChar (c : Nat) : Option (List Nat) :=
  match charRule c with
  | .mapped targets => some targets
  | .ignored => some []
  | .disallowed => none
  | .valid | .deviation => some [c]

def isLabelChar (c : Nat) : Bool :=
  match charRule c with
  | .valid | .deviation => true
  | _ => false

def splitLabels (cs : List Nat) : List (List Nat) :=
  cs.foldr (fun c labels =>
    if c = 0x2E then [] :: labels
    else match labels with
      | l :: ls => (c :: l) :: ls
      | [] => [[c]]) [[]]

/-- Whether every zero-width joiner and non-joiner of a label follows a virama, a character of
combining class 9. -/
def joinersFollowVirama (label : List Nat) : Bool :=
  (label.zip (0 :: label)).all fun (c, before) =>
    !(c = 0x200C || c = 0x200D) || Text.combiningClass before = 9

def asciiText (cs : List Nat) : String := String.ofList (cs.map Char.ofNat)

def labelToAscii (label : List Nat) : Option String := do
  let (unicode, ascii) ←
    if label.take 4 = [0x78, 0x6E, 0x2D, 0x2D] then do
      let decoded ← Punycode.decode? ((label.drop 4).map Char.ofNat)
      guard (decoded.any (· ≥ 0x80))
      guard (Text.nfc decoded == decoded)
      guard (decoded.all isLabelChar)
      pure (decoded, asciiText label)
    else
      pure (label, if label.all (· < 0x80) then asciiText label else "xn--" ++ Punycode.encode label)
  guard (!(unicode.head?.map Text.isMark).getD false)
  guard (joinersFollowVirama unicode)
  guard (unicode.all fun c => c ≥ 0x80 || !isForbiddenDomainChar (Char.ofNat c))
  pure ascii

def domainToAscii (s : String) : Option String := do
  let mapped ← s.toList.mapM fun c => mapChar c.toNat
  let labels ← (splitLabels (Text.nfc mapped.flatten)).mapM labelToAscii
  pure (".".intercalate labels)

end FleetTelemetry.Http
