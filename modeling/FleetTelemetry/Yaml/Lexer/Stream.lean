import FleetTelemetry.Yaml.Lexer.Scalar
import FleetTelemetry.Yaml.Lexer.Property

/-!
# The token stream

`Lexer.next` hands on the tokens of a stream one at a time. It reads ahead while the first queued
token may still turn out to be a simple key: a key token is only put before a scalar (or a flow
collection) once the `:` after it is seen, together with the start of a block mapping when the
key opens one.

Each token is found by looking at the first character after blanks and comments: a `%` or a
document marker at the start of a line, a flow indicator, `-`, `?` or `:` followed by a blank (or
`:` in flow context), an anchor, alias or tag, a block or quoted scalar, and otherwise a plain
scalar. The characters `@` and the backquote cannot start a token.
-/

namespace FleetTelemetry.Yaml

def fetchStreamStart : LexM Unit := modify fun s =>
  { s with indent := -1, started := true, keyAllowed := true,
           queue := s.queue.push ⟨s.mark, .streamStart⟩, keys := s.keys.push .none }

/-- Ends the stream: all block collections close, and no key may still be required. -/
def fetchStreamEnd : LexM Unit := do
  modify fun s =>
    if s.mark.column = 0 then s
    else { s with mark := { s.mark with column := 0, line := s.mark.line + 1 } }
  let s ← get
  let keys ← s.keys.mapM fun (k : KeyCandidate) =>
    if k.required && k.possible then faultAt s.mark "simple key expected"
    else pure { k with possible := false }
  set { s with keys }
  unrollIndent (-1)
  removeKey
  disallowKey
  pushToken (← get).mark .streamEnd

def fetchDirective : LexM Unit := do
  unrollIndent (-1)
  removeKey
  disallowKey
  let t ← scanDirective
  pushToken t.mark t.kind

def fetchDocumentIndicator (kind : TokenKind) : LexM Unit := do
  unrollIndent (-1)
  removeKey
  disallowKey
  let m := (← get).mark
  skipContent 3
  pushToken m kind

def fetchFlowStart (mapping : Bool) : LexM Unit := do
  saveKey
  rollOneColumn
  increaseFlowLevel
  allowKey
  let m := (← get).mark
  skipNonBlank
  if mapping then modify fun s => { s with flowMappingStarted := true }
  else modify fun s => { s with implicitMappings := s.implicitMappings.push .possible }
  let _ ← skipSpaceToEnd true
  pushToken m (if mapping then .flowMappingStart else .flowSequenceStart)

def endImplicitMapping (m : Mark) : LexM Unit := do
  let s ← get
  if s.implicitMappings.back? == some .inside then
    set { s with flowMappingStarted := false,
                 implicitMappings := s.implicitMappings.pop.push .possible }
    pushToken m .flowMappingEnd

def fetchFlowEnd (mapping : Bool) : LexM Unit := do
  removeKey
  decreaseFlowLevel
  disallowKey
  if !mapping then
    endImplicitMapping (← get).mark
    modify fun s => { s with implicitMappings := s.implicitMappings.pop }
  let m := (← get).mark
  skipNonBlank
  let _ ← skipSpaceToEnd true
  let s ← get
  if s.flowLevel > 0 then set { s with adjacentValueAt := s.mark.index }
  pushToken m (if mapping then .flowMappingEnd else .flowSequenceEnd)

def fetchFlowEntry : LexM Unit := do
  removeKey
  allowKey
  endImplicitMapping (← get).mark
  let m := (← get).mark
  skipNonBlank
  let _ ← skipSpaceToEnd true
  pushToken m .flowEntry

def TokenKind.isProperty : TokenKind → Bool
  | .anchor _ | .tag _ _ => true
  | _ => false

/-- Reads a block entry `-`, opening a block sequence when it stands right of the current
indentation. -/
def fetchBlockEntry : LexM Unit := do
  let s ← get
  if s.flowLevel > 0 then faultHere "\"-\" is only valid inside a block"
  if !s.keyAllowed then faultHere "block sequence entries are not allowed in this context"
  match s.queue.back? with
  | some t =>
    if t.kind.isProperty && s.mark.column = 0 && t.mark.column = 0 && s.indent > -1 then
      faultAt t.mark "invalid indentation for anchor"
  | none => pure ()
  let m := s.mark
  skipNonBlank
  rollIndent m.column none .blockSequenceStart m
  let (tabs, _) ← skipSpaceToEnd true
  let s ← get
  if tabs && s.ch = '-' && isBlankOrEnd (s.peekAt 1) then
    faultHere "'-' must be followed by a valid YAML whitespace"
  let _ ← skipSpaceToEnd false
  let s ← get
  if isBreak s.ch || isFlowIndicator s.ch then rollOneColumn
  removeKey
  allowKey
  pushToken m .blockEntry

/-- Skips spaces, line breaks and comments after a `?`. -/
def skipAfterKeyIndicator : Nat → LexM Unit
  | 0 => pure ()
  | fuel + 1 => do
    let c := (← get).ch
    if c = ' ' then
      skipBlank
      skipAfterKeyIndicator fuel
    else if isBreak c then
      skipBreak
      if (← get).flowLevel == 0 then allowKey
      skipAfterKeyIndicator fuel
    else if c = '#' then
      skipToLineEnd (← get).budget
      skipAfterKeyIndicator fuel
    else pure ()

def fetchKey : LexM Unit := do
  let s ← get
  let start := s.mark
  if s.flowLevel == 0 then
    if !s.keyAllowed then faultHere "mapping keys are not allowed in this context"
    rollIndent start.column none .blockMappingStart start
  else modify fun s => { s with flowMappingStarted := true }
  removeKey
  if (← get).flowLevel == 0 then allowKey else disallowKey
  skipNonBlank
  skipAfterKeyIndicator (← get).budget
  if (← get).ch = '\t' then faultHere "tabs disallowed in this context"
  pushToken start .key

/-- Reads a value indicator `:`. When the last key candidate is still possible it becomes a key:
a key token goes before it, and the start of a block mapping when it opens one, or of a flow
mapping when it opens an implicit one-pair mapping in a flow sequence (whose key must then stand
on the line of the `:`). -/
def fetchValue : LexM Unit := do
  let s ← get
  let k := s.keys.back?.getD .none
  let start := s.mark
  let implicit := !s.implicitMappings.isEmpty && !s.flowMappingStarted
  if implicit then set { s with implicitMappings := s.implicitMappings.pop.push .inside }
  skipNonBlank
  if (← get).ch = '\t' then
    let (_, spaces) ← skipSpaceToEnd true
    let c := (← get).ch
    if !spaces && (c = '-' || isNameChar c) then
      faultHere "':' must be followed by a valid YAML whitespace"
  if k.possible then
    let s ← get
    insertToken (k.tokenNumber - s.taken) ⟨k.mark, .key⟩
    if implicit then
      if k.mark.line < start.line then faultAt start "illegal placement of ':' indicator"
      insertToken (k.tokenNumber - s.taken) ⟨s.mark, .flowMappingStart⟩
    rollIndent k.mark.column (some k.tokenNumber) .blockMappingStart start
    setLastKey { k with possible := false }
    disallowKey
  else
    if implicit then pushToken (← get).mark .flowMappingStart
    let s ← get
    if s.flowLevel == 0 then
      if !s.keyAllowed then faultAt start "mapping values are not allowed in this context"
      rollIndent start.column none .blockMappingStart start
    if (← get).flowLevel == 0 then allowKey else disallowKey
  pushToken start .value

def fetchAnchor (isAlias : Bool) : LexM Unit := do
  saveKey
  disallowKey
  let t ← scanAnchor isAlias
  pushToken t.mark t.kind

def fetchTag : LexM Unit := do
  saveKey
  disallowKey
  let t ← scanTag
  pushToken t.mark t.kind

def fetchBlockScalar (literal : Bool) : LexM Unit := do
  removeKey
  allowKey
  let t ← scanBlock literal
  pushToken t.mark t.kind

/-- Reads a quoted scalar; in flow context a `:` right after it is a value indicator. -/
def fetchQuoted (single : Bool) : LexM Unit := do
  saveKey
  disallowKey
  let t ← scanQuoted single
  skipToNextToken (← get).budget
  modify fun s => { s with adjacentValueAt := s.mark.index }
  pushToken t.mark t.kind

def fetchPlain : LexM Unit := do
  saveKey
  disallowKey
  let t ← scanPlain
  pushToken t.mark t.kind

/-- Finds the next token (or the tokens that close block collections before it). -/
def fetchNextToken : LexM Unit := do
  if !(← get).started then
    fetchStreamStart
    return
  skipToNextToken (← get).budget
  staleKeys
  unrollIndent (← get).mark.column
  let s ← get
  if s.ch = endChar then
    fetchStreamEnd
    return
  if s.mark.column = 0 then
    if s.ch = '%' then
      fetchDirective
      return
    if s.atDocumentStart then
      fetchDocumentIndicator .documentStart
      return
    if s.atDocumentEnd then
      fetchDocumentIndicator .documentEnd
      let _ ← skipSpaceToEnd true
      if !isBreakOrEnd (← get).ch then faultHere "invalid content after document end marker"
      return
  if (s.mark.column : Int) < s.indent then faultHere "invalid indentation"
  let c := s.ch
  let next := s.peekAt 1
  if c = '[' then fetchFlowStart false
  else if c = '\x7b' then fetchFlowStart true
  else if c = ']' then fetchFlowEnd false
  else if c = '\x7d' then fetchFlowEnd true
  else if c = ',' then fetchFlowEntry
  else if c = '-' && isBlankOrEnd next then fetchBlockEntry
  else if c = '?' && isBlankOrEnd next then fetchKey
  else if c = ':' && (isBlankOrEnd next ||
      (s.flowLevel > 0 && (isFlowIndicator next || s.mark.index = s.adjacentValueAt))) then
    fetchValue
  else if c = '*' then fetchAnchor true
  else if c = '&' then fetchAnchor false
  else if c = '!' then fetchTag
  else if c = '|' && s.flowLevel == 0 then fetchBlockScalar true
  else if c = '>' && s.flowLevel == 0 then fetchBlockScalar false
  else if c = '\'' then fetchQuoted true
  else if c = '"' then fetchQuoted false
  else if c = '%' || c = '@' || c = '\x60' then
    faultHere ("unexpected character: \x60" ++ String.singleton c ++ "'")
  else fetchPlain

/-- Whether the lexer must read further before handing on its first queued token: when none is
queued, or when that token may still become a key. -/
def needMoreTokens : LexM Bool := do
  if (← get).queue.isEmpty then return true
  staleKeys
  let s ← get
  pure (s.keys.any fun k => k.possible && k.tokenNumber == s.taken)

/-- Reads tokens until the first queued one is settled. -/
def fetchMoreTokens : Nat → LexM Unit
  | 0 => pure ()
  | fuel + 1 => do
    if ← needMoreTokens then
      fetchNextToken
      fetchMoreTokens fuel

/-- The next token, or `none` after the end of the stream. -/
def Lexer.next : LexM (Option Token) := do
  if (← get).ended then return none
  fetchMoreTokens ((← get).budget + 2)
  let s ← get
  match s.queue[0]? with
  | none => faultHere "did not find expected next token"
  | some t =>
    let ended := match t.kind with
      | .streamEnd => true
      | _ => false
    set { s with queue := s.queue.eraseIdxIfInBounds 0, taken := s.taken + 1, ended }
    pure (some t)

end FleetTelemetry.Yaml
