/-!
# Parsing expression grammars with reported expectations

A parser runs over an array of characters and either succeeds, with a value and the position
after it, or fails. Either way it hands on its state, because a failure leaves behind what it
learned about where the text went wrong.

That report follows one rule. Every call of a named rule that fails at some position records
the rule there, and only the furthest position counts: a failure further on forgets the rules
recorded before. A rule whose own parts already recorded exactly one failure at its position
adds nothing, and inside a negative lookahead the roles swap: a rule that *succeeds* there is
recorded, as unexpected. Inside an atomic rule nothing is recorded.

Between the parts of a sequence, a non-atomic rule skips blanks and comments; atomic and
compound-atomic rules do not. The error names the furthest position as `line:column` (columns
in characters) and shows its line with a caret under it.
-/

namespace FleetTelemetry.Peg

/-- How a rule treats blanks between its parts and the failures of the rules inside it. -/
inductive Atomicity where
  /-- Blanks are skipped between parts; failures inside are recorded. -/
  | nonAtomic
  /-- No blanks are skipped; failures of rules inside are still recorded. -/
  | compound
  /-- No blanks are skipped and nothing inside is recorded. -/
  | atomic
  deriving BEq

inductive Lookahead where
  | none
  | positive
  | negative
  deriving BEq

/-- The state of a parse: the input, the position, and what is known about failures so far. -/
structure State (R : Type) where
  input : Array Char
  pos : Nat
  attemptPos : Nat
  positives : List R
  negatives : List R
  atomicity : Atomicity
  lookahead : Lookahead

def State.start (input : Array Char) : State R :=
  ⟨input, 0, 0, [], [], .nonAtomic, .none⟩

inductive Result (R α : Type) where
  | ok (value : α) (state : State R)
  | fail (state : State R)

/-- A parser of values of type `α` for a grammar whose named rules are `R`. -/
def Parser (R α : Type) : Type := State R → Result R α

namespace Parser

variable {R α β : Type}

def ret (a : α) : Parser R α := fun s => .ok a s

def andThen (p : Parser R α) (f : α → Parser R β) : Parser R β := fun s =>
  match p s with
  | .ok a s => f a s
  | .fail s => .fail s

instance : Monad (Parser R) where
  pure := ret
  bind := andThen

def fail : Parser R α := fun s => .fail s

/-- Runs a parser and puts the position back where it started when it fails. -/
def rewinding (p : Parser R α) : Parser R α := fun s =>
  match p s with
  | .ok a s' => .ok a s'
  | .fail s' => .fail { s' with pos := s.pos }

/-- The first of two parsers that succeeds; the second starts where the first did. -/
def orElse (p q : Parser R α) : Parser R α := fun s =>
  match p s with
  | .ok a s' => .ok a s'
  | .fail s' => q { s' with pos := s.pos }

def optional (p : Parser R α) : Parser R (Option α) := fun s =>
  match p s with
  | .ok a s' => .ok (some a) s'
  | .fail s' => .ok none { s' with pos := s.pos }

/-- Repeats a parser until it fails or stops advancing, at most `fuel` times. -/
def repeatUpTo (p : Parser R α) : Nat → List α → Parser R (List α)
  | 0, acc => fun s => .ok acc.reverse s
  | fuel + 1, acc => fun s =>
    match p s with
    | .ok a s' => if s'.pos ≤ s.pos then .ok (a :: acc).reverse s' else repeatUpTo p fuel (a :: acc) s'
    | .fail s' => .ok acc.reverse { s' with pos := s.pos }

/-- Repeats a parser as often as it succeeds; each round advances, so the rest of the input
bounds the rounds. -/
def many (p : Parser R α) : Parser R (List α) := fun s =>
  repeatUpTo p (s.input.size - s.pos + 1) [] s

def satisfy (test : Char → Bool) : Parser R Char := fun s =>
  match s.input[s.pos]? with
  | some c => if test c then .ok c { s with pos := s.pos + 1 } else .fail s
  | none => .fail s

def anyChar : Parser R Char := satisfy fun _ => true

def matchesAt (input : Array Char) (pos : Nat) (cs : List Char) (same : Char → Char → Bool) :
    Bool :=
  cs.length ≤ input.size - pos &&
    (cs.zipIdx.all fun (c, i) => same (input.getD (pos + i) ' ') c)

def literal (lit : String) : Parser R Unit := fun s =>
  if matchesAt s.input s.pos lit.toList (· == ·) then .ok () { s with pos := s.pos + lit.length }
  else .fail s

def literalAnyCase (lit : String) : Parser R Unit := fun s =>
  if matchesAt s.input s.pos lit.toList (fun a b => a.toLower == b.toLower) then
    .ok () { s with pos := s.pos + lit.length }
  else .fail s

def endOfInput : Parser R Unit := fun s =>
  if s.pos = s.input.size then .ok () s else .fail s

/-- Runs a parser without consuming: succeeds when it does (`positive`) or when it fails. -/
def lookahead (positive : Bool) (p : Parser R α) : Parser R Unit := fun s =>
  let inner : Lookahead :=
    if positive then (if s.lookahead == .negative then .negative else .positive)
    else (if s.lookahead == .negative then .positive else .negative)
  let restore (s' : State R) : State R := { s' with pos := s.pos, lookahead := s.lookahead }
  match p { s with lookahead := inner } with
  | .ok _ s' => if positive then .ok () (restore s') else .fail (restore s')
  | .fail s' => if positive then .fail (restore s') else .ok () (restore s')

def withAtomicity (a : Atomicity) (p : Parser R α) : Parser R α := fun s =>
  match p { s with atomicity := a } with
  | .ok v s' => .ok v { s' with atomicity := s.atomicity }
  | .fail s' => .fail { s' with atomicity := s.atomicity }

def attemptsAt (s : State R) (pos : Nat) : Nat :=
  if pos = s.attemptPos then s.positives.length + s.negatives.length else 0

/-- Records a rule started at `pos`, given how much was recorded there before it ran. -/
def track (r : R) (pos positivesBefore negativesBefore attemptsBefore : Nat) (s : State R) :
    State R :=
  if s.atomicity == .atomic then s
  else
    let now := attemptsAt s pos
    if now > attemptsBefore && now - attemptsBefore = 1 then s
    else
      let s := if pos = s.attemptPos then
          { s with positives := s.positives.take positivesBefore,
                   negatives := s.negatives.take negativesBefore }
        else s
      let s := if pos > s.attemptPos then
          { s with positives := [], negatives := [], attemptPos := pos }
        else s
      if pos = s.attemptPos then
        if s.lookahead == .negative then { s with negatives := s.negatives ++ [r] }
        else { s with positives := s.positives ++ [r] }
      else s

/-- A named rule: its failure is recorded (its success, inside a negative lookahead). -/
def rule (r : R) (p : Parser R α) : Parser R α := fun s =>
  let pos := s.pos
  let (pb, nb) := if pos = s.attemptPos then (s.positives.length, s.negatives.length) else (0, 0)
  let before := attemptsAt s pos
  match p s with
  | .ok v s' =>
    if s'.lookahead == .negative then .ok v (track r pos pb nb before s') else .ok v s'
  | .fail s' =>
    if s'.lookahead == .negative then .fail s' else .fail (track r pos pb nb before s')

def slice (input : Array Char) (start stop : Nat) : String :=
  String.ofList ((input.toList.drop start).take (stop - start))

def captured (p : Parser R α) : Parser R String := fun s =>
  match p s with
  | .ok _ s' => .ok (slice s.input s.pos s'.pos) s'
  | .fail s' => .fail s'

end Parser

/-! ### Reporting -/

/-- The line and column (both from 1, columns in characters) of a position; a carriage return
before a line feed ends a line with it, alone it is a column. -/
def lineColumn (input : Array Char) (pos : Nat) : Nat × Nat :=
  go (input.toList.take pos) 1 1
where
  go : List Char → Nat → Nat → Nat × Nat
  | [], line, col => (line, col)
  | '\r' :: '\n' :: rest, line, _ => go rest (line + 1) 1
  | '\n' :: rest, line, _ => go rest (line + 1) 1
  | _ :: rest, line, col => go rest line (col + 1)

def lineOf (input : Array Char) (pos : Nat) : List Char :=
  let cs := input.toList
  let before := cs.take pos
  let start := match before.reverse.findIdx? (· = '\n') with
    | some k => pos - k
    | none => 0
  let after := cs.drop pos
  let stop := match after.findIdx? (· = '\n') with
    | some k => pos + k + 1
    | none => cs.length
  (cs.drop start).take (stop - start)

/-- How a list of names reads: `a`, `a or b`, `a, b, or c`. -/
def enumerate (names : List String) : String :=
  match names.reverse with
  | [] => ""
  | [a] => a
  | [b, a] => a ++ " or " ++ b
  | last :: others => ", ".intercalate others.reverse ++ ", or " ++ last

def sortedNames {R : Type} (rank : R → Nat) (name : R → String) (rules : List R) : List String :=
  let ranked := (rules.map fun r => (rank r, name r)).foldl (fun acc x =>
    if acc.any (·.1 == x.1) then acc else insert x acc) []
  ranked.map (·.2)
where
  insert (x : Nat × String) : List (Nat × String) → List (Nat × String)
  | [] => [x]
  | y :: ys => if x.1 < y.1 then x :: y :: ys else y :: insert x ys

/-- The message of a failure: what was unexpected and what was expected there. -/
def failureMessage (positives negatives : List String) : String :=
  match negatives.isEmpty, positives.isEmpty with
  | false, false => "unexpected " ++ enumerate negatives ++ "; expected " ++ enumerate positives
  | false, true => "unexpected " ++ enumerate negatives
  | true, false => "expected " ++ enumerate positives
  | true, true => "unknown parsing error"

/-- The report of a failed parse: the furthest position, its line with a caret under it, and
the message. A line break at the position is shown as a visible symbol. -/
def report {R : Type} (rank : R → Nat) (name : R → String) (s : State R) : String :=
  let pos := s.attemptPos
  let (line, col) := lineColumn s.input pos
  let raw := lineOf s.input pos
  let here := s.input[pos]?
  let shown : List Char :=
    if here = some '\n' || here = some '\r' then
      raw.map fun c => if c = '\r' then '␍' else if c = '\n' then '␊' else c
    else raw.filter fun c => c ≠ '\r' && c ≠ '\n'
  let spacing := String.ofList (List.replicate (toString line).length ' ')
  let underline := String.ofList ((shown.take (col - 1)).map fun c => if c = '\t' then '\t' else ' ')
    ++ "^---"
  let message := failureMessage (sortedNames rank name s.positives) (sortedNames rank name s.negatives)
  spacing ++ "--> " ++ toString line ++ ":" ++ toString col ++ "\n" ++
    spacing ++ " |\n" ++
    toString line ++ " | " ++ String.ofList shown ++ "\n" ++
    spacing ++ " | " ++ underline ++ "\n" ++
    spacing ++ " |\n" ++
    spacing ++ " = " ++ message

end FleetTelemetry.Peg
