/-!
# Similar names

The Jaro similarity of two texts, from 0 (nothing in common) to 1 (equal): characters match
when equal and at most `max(|a|, |b|) / 2 - 1` places apart, each character of the second text
matching at most once; with `m` matches and `t` half the number of matched pairs out of order,
the similarity is `(m/|a| + m/|b| + (m - t)/m) / 3`. Two empty texts are equal; an empty and a
non-empty text have nothing in common.

A name is suggested for a mistyped one when their similarity exceeds 0.7; of several, the most
similar comes last.
-/

namespace FleetTelemetry.Cli

/-- The places of the second text's characters that match the first text's, in order. -/
def jaroMatches (as bs : List Char) (window : Nat) : List Bool × List Bool :=
  let step := fun (acc : List Bool × List Bool) (p : Char × Nat) =>
    let (aFlags, bFlags) := acc
    let (c, i) := p
    let lo := i - window
    let hi := min bs.length (i + window + 1)
    match (List.range hi).find? (fun j => lo ≤ j && bs[j]? == some c && bFlags[j]? == some false) with
    | some j => (aFlags.set i true, bFlags.set j true)
    | none => (aFlags, bFlags)
  as.zipIdx.foldl step (List.replicate as.length false, List.replicate bs.length false)

def jaro (a b : String) : Float :=
  let as := a.toList
  let bs := b.toList
  if as.isEmpty && bs.isEmpty then 1.0
  else if as.isEmpty || bs.isEmpty then 0.0
  else
    let window := max as.length bs.length / 2 - 1
    let (aFlags, bFlags) := jaroMatches as bs window
    let aMatched := (as.zip aFlags).filterMap fun (c, f) => if f then some c else none
    let bMatched := (bs.zip bFlags).filterMap fun (c, f) => if f then some c else none
    let m := aMatched.length
    let t := ((aMatched.zip bMatched).filter fun (x, y) => x != y).length / 2
    if m == 0 then 0.0
    else
      let mf := Float.ofNat m
      (mf / Float.ofNat as.length + mf / Float.ofNat bs.length + Float.ofNat (m - t) / mf) / 3.0

def similarNames (text : String) (names : List String) : List String :=
  let scored := (names.map fun n => (jaro text n, n)).filter fun p => p.1 > 0.7
  (scored.mergeSort fun x y => x.1 ≤ y.1).map (·.2)

end FleetTelemetry.Cli
