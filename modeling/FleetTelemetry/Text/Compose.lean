import FleetTelemetry.Text.Packed
import FleetTelemetry.Text.ComposeData

/-!
# Canonical composition

Text in Normalization Form C: every character fully decomposed by its canonical decomposition,
each run of combining characters put in the order of their canonical combining classes, and
then every pair that has a canonical composite composed again, from the left.

A character composes with the last starter (a character of class 0) before it unless a
character between them is blocked: one of class 0, or of a class at least its own. Hangul
syllables decompose into their jamo, and jamo compose into syllables, by arithmetic on their
code points.
-/

namespace FleetTelemetry.Text

/-- The combining class ranges: first points, last points and classes. -/
def combiningClassTable : Array Nat × Array Nat × Array Nat :=
  let records := readRecords combiningClassText
  ((records.map (field · 0)).toArray, (records.map (field · 1)).toArray,
    (records.map (field · 2)).toArray)

def combiningClass (c : Nat) : Nat :=
  let (firsts, lasts, classes) := combiningClassTable
  match lastAtMost firsts c with
  | some i => if c ≤ lasts.getD i 0 then classes.getD i 0 else 0
  | none => 0

/-- The one-level canonical decompositions: the code points and their parts. -/
def decompositionTable : Array Nat × Array (List Nat) :=
  let records := readRecords decompositionText
  ((records.map (field · 0)).toArray, (records.map fun r => (r.drop 1).map Int.toNat).toArray)

def decomposition? (c : Nat) : Option (List Nat) :=
  let (codes, parts) := decompositionTable
  (findKey? codes c).map (parts.getD · [])

def pairKey (a b : Nat) : Nat := a * 0x110000 + b

/-- The canonical compositions: pair keys and composites, ordered by the pair. -/
def compositionTable : Array Nat × Array Nat :=
  let records := readRecords compositionText
  ((records.map fun r => pairKey (field r 0) (field r 1)).toArray,
    (records.map (field · 2)).toArray)

def markSet : RangeSet := RangeSet.read markText

def isMark (c : Nat) : Bool := markSet.contains c

/-! ### Hangul -/

def syllableBase : Nat := 0xAC00
def leadBase : Nat := 0x1100
def vowelBase : Nat := 0x1161
/-- The code point before the first trailing consonant jamo. -/
def trailBase : Nat := 0x11A7
def syllableCount : Nat := 11172

def isSyllable (c : Nat) : Bool := syllableBase ≤ c && c < syllableBase + syllableCount

/-- The jamo of a Hangul syllable: a leading consonant, a vowel and possibly a trailing
consonant. -/
def syllableParts (c : Nat) : List Nat :=
  let i := c - syllableBase
  let trail := trailBase + i % 28
  [leadBase + i / 588, vowelBase + (i % 588) / 28] ++ (if trail = trailBase then [] else [trail])

def composePair (a b : Nat) : Option Nat :=
  if leadBase ≤ a && a < leadBase + 19 && vowelBase ≤ b && b < vowelBase + 21 then
    some (syllableBase + ((a - leadBase) * 21 + (b - vowelBase)) * 28)
  else if isSyllable a && (a - syllableBase) % 28 = 0 && trailBase < b && b < trailBase + 28 then
    some (a + (b - trailBase))
  else
    let (keys, composites) := compositionTable
    (findKey? keys (pairKey a b)).map (composites.getD · 0)

/-! ### Normalization -/

/-- The full canonical decomposition of a code point. Decompositions nest at most four deep,
so a depth of eight is never reached. -/
def decompose (c : Nat) : List Nat :=
  go 8 c
where
  go : Nat → Nat → List Nat
  | 0, c => [c]
  | depth + 1, c =>
    if isSyllable c then syllableParts c
    else match decomposition? c with
      | some parts => parts.flatMap (go depth)
      | none => [c]

/-- Inserts a character after those of a sorted run whose class is at most its own. -/
def insertByClass (x : Nat × Nat) : List (Nat × Nat) → List (Nat × Nat)
  | [] => [x]
  | y :: ys => if x.2 < y.2 then x :: y :: ys else y :: insertByClass x ys

/-- A run of combining characters put in the order of their classes; characters of one class
keep their order. -/
def sortRun (run : List (Nat × Nat)) : List Nat :=
  (run.foldl (fun sorted x => insertByClass x sorted) []).map (·.1)

def reorder (cs : List Nat) : List Nat :=
  let (done, run) := cs.foldl (fun (done, run) c =>
    let k := combiningClass c
    if k = 0 then (done ++ sortRun run ++ [c], []) else (done, run ++ [(c, k)])) ([], [])
  done ++ sortRun run

/-- The state of composition: the characters put out, the place of the last starter among them,
and the class of the last character put out after it (0 when that is the starter itself). -/
structure ComposeState where
  out : Array Nat
  starter : Option Nat
  lastClass : Nat

/-- Composes one more character with the last starter, or puts it out. -/
def ComposeState.push (s : ComposeState) (c : Nat) : ComposeState :=
  let k := combiningClass c
  let composite := match s.starter with
    | some p => if s.lastClass < k || s.lastClass = 0 then composePair (s.out.getD p 0) c else none
    | none => none
  match composite, s.starter with
  | some m, some p => { s with out := s.out.set! p m }
  | _, _ =>
    { out := s.out.push c, starter := if k = 0 then some s.out.size else s.starter, lastClass := k }

def compose (cs : List Nat) : List Nat :=
  (cs.foldl ComposeState.push ⟨#[], none, 0⟩).out.toList

def nfc (cs : List Nat) : List Nat := compose (reorder (cs.flatMap decompose))

end FleetTelemetry.Text
