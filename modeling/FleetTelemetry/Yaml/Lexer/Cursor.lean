import FleetTelemetry.Yaml.Token

/-!
# The lexer's state

The lexer walks the characters of a stream once and queues the tokens it finds. Besides its
place it keeps what the layout of the text means so far:

* the **indentation**: the column of every open block collection, innermost last. A block
  collection opens when a key or entry stands further right than the current column, and closes
  (with a block-end token) when a line starts to the left of it. An entry `-` followed by the end
  of its line also opens a one-column level that does not close with a token;
* the **key candidates**: one per flow level, the place and queue position of a token that might
  still turn out to be a simple key. It becomes a key when a `:` follows on its line; in block
  context it stops being one at the next line. A candidate is *required* when it stands at the
  column of its block mapping, where only a key may stand;
* the **flow level** and, per open flow sequence, whether an implicit one-pair mapping
  (`[a: b]`) is open in it.

Every loop of the lexer reads at least one character a round or stops, so the characters left
bound its rounds; `Lexer.budget` gives that bound.
-/

namespace FleetTelemetry.Yaml

structure KeyCandidate where
  possible : Bool
  required : Bool
  tokenNumber : Nat
  mark : Mark
  deriving Inhabited

def KeyCandidate.none : KeyCandidate := ⟨false, false, 0, ⟨0, 0, 0⟩⟩

/-- An enclosing level of indentation: its column, and whether leaving it ends a block
collection. -/
structure Indentation where
  column : Int
  needsBlockEnd : Bool

inductive ImplicitMapping where
  | possible
  | inside
  deriving BEq

structure Lexer where
  input : Array Char
  mark : Mark := ⟨0, 1, 0⟩
  queue : Array Token := #[]
  taken : Nat := 0
  started : Bool := false
  ended : Bool := false
  keyAllowed : Bool := true
  keys : Array KeyCandidate := #[]
  indent : Int := -1
  indents : Array Indentation := #[]
  flowLevel : Nat := 0
  /-- Whether only blanks stand between the start of the line and the place. -/
  leadingBlank : Bool := true
  flowMappingStarted : Bool := false
  implicitMappings : Array ImplicitMapping := #[]
  /-- The index at which a `:` right after a quoted key or a flow collection is a value
  indicator. -/
  adjacentValueAt : Nat := 0

def Lexer.ofString (text : String) : Lexer := { input := text.toList.toArray }

abbrev LexM := StateT Lexer (Except Fault)

namespace Lexer

/-- The character `k` places ahead; the end reads as `endChar`. -/
def peekAt (s : Lexer) (k : Nat) : Char := s.input.getD (s.mark.index + k) endChar

def ch (s : Lexer) : Char := s.peekAt 0

def budget (s : Lexer) : Nat := s.input.size - s.mark.index + 2

/-- Whether the place is at the start of a line holding `---` or `...` followed by a blank or
the end. -/
def atDocumentIndicator (s : Lexer) : Bool :=
  s.mark.column = 0 &&
    ((s.ch = '-' && s.peekAt 1 = '-' && s.peekAt 2 = '-') ||
      (s.ch = '.' && s.peekAt 1 = '.' && s.peekAt 2 = '.')) &&
    isBlankOrEnd (s.peekAt 3)

def atDocumentStart (s : Lexer) : Bool := s.atDocumentIndicator && s.ch = '-'

def atDocumentEnd (s : Lexer) : Bool := s.atDocumentIndicator && s.ch = '.'

end Lexer

def faultAt {α : Type} (m : Mark) (info : String) : LexM α := throw ⟨m, info⟩

def faultHere {α : Type} (info : String) : LexM α := do throw ⟨(← get).mark, info⟩

/-! ### Moving -/

/-- Steps over a blank (or any character inside a line), keeping `leadingBlank`. -/
def skipBlank : LexM Unit := modify fun s =>
  { s with mark := { s.mark with index := s.mark.index + 1, column := s.mark.column + 1 } }

def skipContent (n : Nat) : LexM Unit := modify fun s =>
  { s with mark := { s.mark with index := s.mark.index + n, column := s.mark.column + n },
           leadingBlank := false }

def skipNonBlank : LexM Unit := skipContent 1

/-- Steps over a line feed (or a lone carriage return) to the next line. -/
def skipNewline : LexM Unit := modify fun s =>
  { s with mark := ⟨s.mark.index + 1, s.mark.line + 1, 0⟩, leadingBlank := true }

def skipBreak : LexM Unit := do
  let s ← get
  if s.ch = '\r' && s.peekAt 1 = '\n' then
    skipBlank
    skipNewline
  else if isBreak s.ch then skipNewline

/-- Steps over characters up to a line break or the end: the rest of a comment. -/
def skipToLineEnd : Nat → LexM Unit
  | 0 => pure ()
  | fuel + 1 => do
    if isBreakOrEnd (← get).ch then pure ()
    else
      skipNonBlank
      skipToLineEnd fuel

/-- Steps over spaces (and tabs, when `tabs` holds) and a comment up to the end of the line.
A comment must follow a blank. Gives whether a tab and whether a space was met. -/
def skipSpaceToEnd (tabs : Bool) : LexM (Bool × Bool) := do
  go (← get).budget false false
where
  go : Nat → Bool → Bool → LexM (Bool × Bool)
  | 0, tab, space => pure (tab, space)
  | fuel + 1, tab, space => do
    let c := (← get).ch
    if c = ' ' then
      skipBlank
      go fuel tab true
    else if c = '\t' && tabs then
      skipBlank
      go fuel true space
    else if c = '#' then
      if !tab && !space then faultHere "comments must be separated from other tokens by whitespace"
      skipToLineEnd (← get).budget
      go fuel tab space
    else pure (tab, space)

/-! ### Key candidates -/

def allowKey : LexM Unit := modify fun s => { s with keyAllowed := true }

def disallowKey : LexM Unit := modify fun s => { s with keyAllowed := false }

def setLastKey (k : KeyCandidate) : LexM Unit :=
  modify fun s => { s with keys := s.keys.pop.push k }

/-- Records the token about to be queued as a key candidate, when keys may start here. -/
def saveKey : LexM Unit := do
  let s ← get
  if s.keyAllowed then
    let required := s.flowLevel == 0 && s.indent == (s.mark.column : Int) &&
      (s.indents.back?.map (·.needsBlockEnd)).getD false
    setLastKey ⟨true, required, s.taken + s.queue.size, s.mark⟩

/-- Drops the innermost key candidate; a required one may not be dropped. -/
def removeKey : LexM Unit := do
  let s ← get
  let k := s.keys.back?.getD .none
  if k.possible && k.required then faultHere "simple key expected"
  setLastKey { k with possible := false }

/-- In block context a key candidate on an earlier line (or over 1024 characters back) can no
longer be a key; a required one is then an error. -/
def staleKeys : LexM Unit := do
  let s ← get
  if s.flowLevel == 0 then
    let keys ← s.keys.mapM fun (k : KeyCandidate) =>
      if k.possible && (k.mark.line < s.mark.line || k.mark.index + 1024 < s.mark.index) then
        if k.required then faultAt s.mark "simple key expect ':'"
        else pure { k with possible := false }
      else pure k
    set { s with keys }

/-! ### Tokens and indentation -/

def pushToken (m : Mark) (kind : TokenKind) : LexM Unit :=
  modify fun s => { s with queue := s.queue.push ⟨m, kind⟩ }

def insertToken (position : Nat) (t : Token) : LexM Unit :=
  modify fun s => { s with queue := s.queue.insertIdxIfInBounds position t }

/-- Opens a block collection at a column further right than the current indentation, queuing its
start token (at the position of a token already queued, when `number` gives one). A one-column
level left by an entry is dropped first. Nothing happens inside a flow collection. -/
def rollIndent (column : Nat) (number : Option Nat) (kind : TokenKind) (m : Mark) : LexM Unit := do
  let s ← get
  if s.flowLevel == 0 then
    let s := if s.indent ≤ column then
        match s.indents.back? with
        | some i =>
          if i.needsBlockEnd then s else { s with indent := i.column, indents := s.indents.pop }
        | none => s
      else s
    if s.indent < column then
      let s := { s with indents := s.indents.push ⟨s.indent, true⟩, indent := column }
      match number with
      | some n => set { s with queue := s.queue.insertIdxIfInBounds (n - s.taken) ⟨m, kind⟩ }
      | none => set { s with queue := s.queue.push ⟨m, kind⟩ }
    else set s

def unrollIndent (column : Int) : LexM Unit := do
  let s ← get
  if s.flowLevel == 0 then go s.indents.size
where
  go : Nat → LexM Unit
  | 0 => pure ()
  | fuel + 1 => do
    let s ← get
    if s.indent > column then
      match s.indents.back? with
      | some i =>
        set { s with indent := i.column, indents := s.indents.pop }
        if i.needsBlockEnd then pushToken s.mark .blockEnd
        go fuel
      | none => pure ()

/-- Adds a one-column level of indentation inside a block collection; it closes without a token
at the end of the line. -/
def rollOneColumn : LexM Unit := modify fun s =>
  if s.flowLevel == 0 && (s.indents.back?.map (·.needsBlockEnd)).getD false then
    { s with indents := s.indents.push ⟨s.indent, false⟩, indent := s.indent + 1 }
  else s

def unrollOneColumn : LexM Unit := modify fun s => go s s.indents.size
where
  go (s : Lexer) : Nat → Lexer
  | 0 => s
  | fuel + 1 =>
    match s.indents.back? with
    | some i =>
      if i.needsBlockEnd then s
      else go { s with indent := i.column, indents := s.indents.pop } fuel
    | none => s

/-- Enters a flow collection, with a key slot of its own; 255 levels at most. -/
def increaseFlowLevel : LexM Unit := do
  let s ← get
  set { s with keys := s.keys.push .none }
  if s.flowLevel ≥ 255 then faultHere "recursion limit exceeded"
  modify fun s => { s with flowLevel := s.flowLevel + 1 }

def decreaseFlowLevel : LexM Unit := modify fun s =>
  if s.flowLevel > 0 then { s with flowLevel := s.flowLevel - 1, keys := s.keys.pop } else s

/-- Skips blanks, line breaks and comments up to the next token. A tab may not stand in the
indentation of a block collection unless the rest of its line is empty. -/
def skipToNextToken : Nat → LexM Unit
  | 0 => pure ()
  | fuel + 1 => do
    let s ← get
    let c := s.ch
    if c = '\t' && !s.indents.isEmpty && s.leadingBlank && (s.mark.column : Int) < s.indent then
      let _ ← skipSpaceToEnd true
      if !isBreakOrEnd (← get).ch then
        faultHere "tabs disallowed within this context (block indentation)"
      skipToNextToken fuel
    else if c = '\t' || c = ' ' then
      skipBlank
      skipToNextToken fuel
    else if isBreak c then
      skipBreak
      if (← get).flowLevel == 0 then allowKey
      skipToNextToken fuel
    else if c = '#' then
      skipToLineEnd (← get).budget
      skipToNextToken fuel
    else pure ()

end FleetTelemetry.Yaml
