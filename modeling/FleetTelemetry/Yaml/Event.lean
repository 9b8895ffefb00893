import FleetTelemetry.Yaml.Lexer.Stream

/-!
# YAML events

The tokens of a stream are read into events, the way a document is walked: the start and end of
the stream and of each document, scalars, aliases, and the starts and ends of sequences and
mappings. A node may carry an anchor (numbered from 1 in the order the anchors appear; 0 is
none) and a tag, whose handle is expanded by the `%TAG` directive of the document or, for `!!`,
to `tag:yaml.org,2002:`.

The reader is a machine whose phase says what may come next, with a stack of the phases to
return to after a nested node. A node that is missing where one may stand (an empty value, a key
with no text) is the empty plain scalar `~`; a node with only an anchor or a tag is the empty
plain scalar with them.
-/

namespace FleetTelemetry.Yaml

/-- A resolved tag: the expanded handle and the suffix. -/
structure Tag where
  handle : String
  suffix : String

inductive Event where
  | streamStart
  | streamEnd
  | documentStart
  | documentEnd
  | alias (id : Nat)
  | scalar (text : String) (style : ScalarStyle) (anchor : Nat) (tag : Option Tag)
  | sequenceStart (anchor : Nat) (tag : Option Tag)
  | sequenceEnd
  | mappingStart (anchor : Nat) (tag : Option Tag)
  | mappingEnd

def Event.emptyScalar : Event := .scalar "~" .plain 0 none

inductive Phase where
  | streamStart
  | implicitDocumentStart
  | documentStart
  | documentContent
  | documentEnd
  | blockNode
  | blockSequenceFirstEntry
  | blockSequenceEntry
  | indentlessSequenceEntry
  | blockMappingFirstKey
  | blockMappingKey
  | blockMappingValue
  | flowSequenceFirstEntry
  | flowSequenceEntry
  | flowSequenceEntryMappingKey
  | flowSequenceEntryMappingValue
  | flowSequenceEntryMappingEnd
  | flowMappingFirstKey
  | flowMappingKey
  | flowMappingValue
  | flowMappingEmptyValue
  | finished
  deriving BEq, Inhabited

structure EventReader where
  lexer : Lexer
  phases : Array Phase := #[]
  phase : Phase := .streamStart
  peeked : Option Token := none
  anchors : List (String × Nat) := []
  nextAnchor : Nat := 1
  tagHandles : List (String × String) := []

abbrev ReadM := StateT EventReader (Except Fault)

def peekToken : ReadM Token := do
  let r ← get
  match r.peeked with
  | some t => pure t
  | none =>
    match Lexer.next.run r.lexer with
    | .ok (some t, lexer) =>
      set { r with lexer, peeked := some t }
      pure t
    | .ok (none, lexer) => throw ⟨lexer.mark, "unexpected eof"⟩
    | .error e => throw e

def skipToken : ReadM Unit := modify fun r => { r with peeked := none }

def tokenBudget : ReadM Nat := do pure (← get).lexer.budget

def setPhase (p : Phase) : ReadM Unit := modify fun r => { r with phase := p }

def pushPhase (p : Phase) : ReadM Unit := modify fun r => { r with phases := r.phases.push p }

def popPhase : ReadM Unit := modify fun r =>
  { r with phase := r.phases.back?.getD .finished, phases := r.phases.pop }

/-- Gives an anchor name its number; a name given again names the later node. -/
def registerAnchor (name : String) : ReadM Nat := do
  let r ← get
  set { r with anchors := (name, r.nextAnchor) :: r.anchors, nextAnchor := r.nextAnchor + 1 }
  pure r.nextAnchor

def resolveTag (m : Mark) (handle suffix : String) : ReadM Tag := do
  let handles := (← get).tagHandles
  if handle = "!!" then pure ⟨(handles.lookup "!!").getD "tag:yaml.org,2002:", suffix⟩
  else if handle.isEmpty && suffix = "!" then pure ⟨(handles.lookup "").getD "", suffix⟩
  else
    match handles.lookup handle with
    | some expansion => pure ⟨expansion, suffix⟩
    | none =>
      if handle.length ≥ 2 && handle.startsWith "!" && handle.endsWith "!" then
        throw ⟨m, "the handle wasn't declared"⟩
      else pure ⟨handle, suffix⟩

/-- Reads the directives before a document: one `%YAML` at most, and the `%TAG` handles (each
directive replaces what the ones before it declared). -/
def processDirectives : Nat → Bool → ReadM Unit
  | 0, _ => pure ()
  | fuel + 1, versionSeen => do
    let t ← peekToken
    match t.kind with
    | .versionDirective _ _ =>
      if versionSeen then throw ⟨t.mark, "duplicate version directive"⟩
      modify fun r => { r with tagHandles := [] }
      skipToken
      processDirectives fuel true
    | .tagDirective handle expansion =>
      modify fun r => { r with tagHandles := [(handle, expansion)] }
      skipToken
      processDirectives fuel versionSeen
    | _ => pure ()

def nodeProperties (t : Token) : ReadM (Nat × Option Tag) := do
  match t.kind with
  | .anchor name =>
    skipToken
    let id ← registerAnchor name
    let t' ← peekToken
    match t'.kind with
    | .tag handle suffix =>
      skipToken
      pure (id, some (← resolveTag t.mark handle suffix))
    | _ => pure (id, none)
  | .tag handle suffix =>
    skipToken
    let tag ← resolveTag t.mark handle suffix
    let t' ← peekToken
    match t'.kind with
    | .anchor name =>
      skipToken
      pure (← registerAnchor name, some tag)
    | _ => pure (0, some tag)
  | _ => pure (0, none)

/-- Reads a node: an alias, or properties and then a scalar or the start of a collection. Block
collections may start only where `block` holds; an entry `-` starts a sequence at the same
indentation only where `indentless` holds. -/
def parseNode (block indentless : Bool) : ReadM (Event × Mark) := do
  let t ← peekToken
  match t.kind with
  | .alias name =>
    popPhase
    skipToken
    match (← get).anchors.lookup name with
    | none => throw ⟨t.mark, "while parsing node, found unknown anchor"⟩
    | some id => pure (.alias id, t.mark)
  | _ =>
    let (anchor, tag) ← nodeProperties t
    let t ← peekToken
    let noContent : ReadM (Event × Mark) :=
      if tag.isSome || anchor > 0 then do
        popPhase
        pure (.scalar "" .plain anchor tag, t.mark)
      else throw ⟨t.mark, "while parsing a node, did not find expected node content"⟩
    match t.kind with
    | .blockEntry =>
      if indentless then do
        setPhase .indentlessSequenceEntry
        pure (.sequenceStart anchor tag, t.mark)
      else noContent
    | .scalar style text =>
      popPhase
      skipToken
      pure (.scalar text style anchor tag, t.mark)
    | .flowSequenceStart =>
      setPhase .flowSequenceFirstEntry
      pure (.sequenceStart anchor tag, t.mark)
    | .flowMappingStart =>
      setPhase .flowMappingFirstKey
      pure (.mappingStart anchor tag, t.mark)
    | .blockSequenceStart =>
      if block then do
        setPhase .blockSequenceFirstEntry
        pure (.sequenceStart anchor tag, t.mark)
      else noContent
    | .blockMappingStart =>
      if block then do
        setPhase .blockMappingFirstKey
        pure (.mappingStart anchor tag, t.mark)
      else noContent
    | _ => noContent

/-! ### Documents -/

def readStreamStart : ReadM (Event × Mark) := do
  let t ← peekToken
  match t.kind with
  | .streamStart =>
    setPhase .implicitDocumentStart
    skipToken
    pure (.streamStart, t.mark)
  | _ => throw ⟨t.mark, "did not find expected <stream-start>"⟩

/-- A document that starts with `---`, after its directives. -/
def explicitDocumentStart : ReadM (Event × Mark) := do
  processDirectives (← tokenBudget) false
  let t ← peekToken
  match t.kind with
  | .documentStart =>
    pushPhase .documentEnd
    setPhase .documentContent
    skipToken
    pure (.documentStart, t.mark)
  | _ => throw ⟨t.mark, "did not find expected <document start>"⟩

def skipDocumentEnds : Nat → ReadM Unit
  | 0 => pure ()
  | fuel + 1 => do
    let t ← peekToken
    match t.kind with
    | .documentEnd =>
      skipToken
      skipDocumentEnds fuel
    | _ => pure ()

/-- The start of a document, or the end of the stream. After a document that ended without
`...`, the next one must start with `---`. -/
def readDocumentStart (implicit : Bool) : ReadM (Event × Mark) := do
  skipDocumentEnds (← tokenBudget)
  let t ← peekToken
  match t.kind with
  | .streamEnd =>
    setPhase .finished
    skipToken
    pure (.streamEnd, t.mark)
  | .versionDirective _ _ | .tagDirective _ _ | .documentStart => explicitDocumentStart
  | _ =>
    if implicit then do
      processDirectives (← tokenBudget) false
      pushPhase .documentEnd
      setPhase .blockNode
      pure (.documentStart, t.mark)
    else explicitDocumentStart

/-- The content of a document that started with `---`; it may be empty. -/
def readDocumentContent : ReadM (Event × Mark) := do
  let t ← peekToken
  match t.kind with
  | .versionDirective _ _ | .tagDirective _ _ | .documentStart | .documentEnd | .streamEnd =>
    popPhase
    pure (.emptyScalar, t.mark)
  | _ => parseNode true false

def readDocumentEnd : ReadM (Event × Mark) := do
  let t ← peekToken
  let explicit := match t.kind with
    | .documentEnd => true
    | _ => false
  if explicit then skipToken
  modify fun r => { r with tagHandles := [] }
  if explicit then setPhase .implicitDocumentStart
  else
    let t' ← peekToken
    match t'.kind with
    | .versionDirective _ _ | .tagDirective _ _ =>
      throw ⟨t'.mark, "missing explicit document end marker before directive"⟩
    | _ => setPhase .documentStart
  pure (.documentEnd, t.mark)

/-! ### Block collections -/

/-- Takes the token that starts a collection, when this is its first entry. -/
def skipFirst (first : Bool) : ReadM Unit := do
  if first then
    let _ ← peekToken
    skipToken

def blockMappingKey (first : Bool) : ReadM (Event × Mark) := do
  skipFirst first
  let t ← peekToken
  match t.kind with
  | .key =>
    skipToken
    let t' ← peekToken
    match t'.kind with
    | .key | .value | .blockEnd =>
      setPhase .blockMappingValue
      pure (.emptyScalar, t'.mark)
    | _ =>
      pushPhase .blockMappingValue
      parseNode true true
  | .value =>
    setPhase .blockMappingValue
    pure (.emptyScalar, t.mark)
  | .blockEnd =>
    popPhase
    skipToken
    pure (.mappingEnd, t.mark)
  | _ => throw ⟨t.mark, "while parsing a block mapping, did not find expected key"⟩

def blockMappingValue : ReadM (Event × Mark) := do
  let t ← peekToken
  match t.kind with
  | .value =>
    skipToken
    let t' ← peekToken
    match t'.kind with
    | .key | .value | .blockEnd =>
      setPhase .blockMappingKey
      pure (.emptyScalar, t'.mark)
    | _ =>
      pushPhase .blockMappingKey
      parseNode true true
  | _ =>
    setPhase .blockMappingKey
    pure (.emptyScalar, t.mark)

def blockSequenceEntry (first : Bool) : ReadM (Event × Mark) := do
  skipFirst first
  let t ← peekToken
  match t.kind with
  | .blockEnd =>
    popPhase
    skipToken
    pure (.sequenceEnd, t.mark)
  | .blockEntry =>
    skipToken
    let t' ← peekToken
    match t'.kind with
    | .blockEntry | .blockEnd =>
      setPhase .blockSequenceEntry
      pure (.emptyScalar, t'.mark)
    | _ =>
      pushPhase .blockSequenceEntry
      parseNode true false
  | _ => throw ⟨t.mark, "while parsing a block collection, did not find expected '-' indicator"⟩

/-- An entry of a sequence written at the indentation of its mapping key, or its end. -/
def indentlessSequenceEntry : ReadM (Event × Mark) := do
  let t ← peekToken
  match t.kind with
  | .blockEntry =>
    skipToken
    let t' ← peekToken
    match t'.kind with
    | .blockEntry | .key | .value | .blockEnd =>
      setPhase .indentlessSequenceEntry
      pure (.emptyScalar, t'.mark)
    | _ =>
      pushPhase .indentlessSequenceEntry
      parseNode true false
  | _ =>
    popPhase
    pure (.sequenceEnd, t.mark)

/-! ### Flow collections -/

/-- An entry of a flow sequence, or its end; a `?` key in it opens a one-pair mapping. -/
def flowSequenceEntry (first : Bool) : ReadM (Event × Mark) := do
  skipFirst first
  let t ← peekToken
  match t.kind with
  | .flowSequenceEnd =>
    popPhase
    skipToken
    pure (.sequenceEnd, t.mark)
  | _ =>
    if !first then
      match t.kind with
      | .flowEntry => skipToken
      | _ => throw ⟨t.mark, "while parsing a flow sequence, expected ',' or ']'"⟩
    let t ← peekToken
    match t.kind with
    | .flowSequenceEnd =>
      popPhase
      skipToken
      pure (.sequenceEnd, t.mark)
    | .key =>
      setPhase .flowSequenceEntryMappingKey
      skipToken
      pure (.mappingStart 0 none, t.mark)
    | _ =>
      pushPhase .flowSequenceEntry
      parseNode false false

def flowSequenceEntryMappingKey : ReadM (Event × Mark) := do
  let t ← peekToken
  match t.kind with
  | .value | .flowEntry | .flowSequenceEnd =>
    skipToken
    setPhase .flowSequenceEntryMappingValue
    pure (.emptyScalar, t.mark)
  | _ =>
    pushPhase .flowSequenceEntryMappingValue
    parseNode false false

def flowSequenceEntryMappingValue : ReadM (Event × Mark) := do
  let t ← peekToken
  match t.kind with
  | .value =>
    skipToken
    setPhase .flowSequenceEntryMappingValue
    let t' ← peekToken
    match t'.kind with
    | .flowEntry | .flowSequenceEnd =>
      setPhase .flowSequenceEntryMappingEnd
      pure (.emptyScalar, t'.mark)
    | _ =>
      pushPhase .flowSequenceEntryMappingEnd
      parseNode false false
  | _ =>
    setPhase .flowSequenceEntryMappingEnd
    pure (.emptyScalar, t.mark)

def flowMappingKey (first : Bool) : ReadM (Event × Mark) := do
  skipFirst first
  let t ← peekToken
  match t.kind with
  | .flowMappingEnd =>
    popPhase
    skipToken
    pure (.mappingEnd, t.mark)
  | _ =>
    if !first then
      match t.kind with
      | .flowEntry => skipToken
      | _ => throw ⟨t.mark, "while parsing a flow mapping, did not find expected ',' or '\x7d'"⟩
    let t' ← peekToken
    match t'.kind with
    | .key =>
      skipToken
      let t'' ← peekToken
      match t''.kind with
      | .value | .flowEntry | .flowMappingEnd =>
        setPhase .flowMappingValue
        pure (.emptyScalar, t''.mark)
      | _ =>
        pushPhase .flowMappingValue
        parseNode false false
    | .value =>
      setPhase .flowMappingValue
      pure (.emptyScalar, t'.mark)
    | .flowMappingEnd =>
      popPhase
      skipToken
      pure (.mappingEnd, t.mark)
    | _ =>
      pushPhase .flowMappingEmptyValue
      parseNode false false

/-- A value of a flow mapping; `empty` when its key stood alone. -/
def flowMappingValue (empty : Bool) : ReadM (Event × Mark) := do
  let t ← peekToken
  if empty then
    setPhase .flowMappingKey
    return (.emptyScalar, t.mark)
  match t.kind with
  | .value =>
    skipToken
    let t' ← peekToken
    match t'.kind with
    | .flowEntry | .flowMappingEnd =>
      setPhase .flowMappingKey
      pure (.emptyScalar, t.mark)
    | _ =>
      pushPhase .flowMappingKey
      parseNode false false
  | _ =>
    setPhase .flowMappingKey
    pure (.emptyScalar, t.mark)

def nextEvent : ReadM (Event × Mark) := do
  match (← get).phase with
  | .finished => pure (.streamEnd, (← get).lexer.mark)
  | .streamStart => readStreamStart
  | .implicitDocumentStart => readDocumentStart true
  | .documentStart => readDocumentStart false
  | .documentContent => readDocumentContent
  | .documentEnd => readDocumentEnd
  | .blockNode => parseNode true false
  | .blockMappingFirstKey => blockMappingKey true
  | .blockMappingKey => blockMappingKey false
  | .blockMappingValue => blockMappingValue
  | .blockSequenceFirstEntry => blockSequenceEntry true
  | .blockSequenceEntry => blockSequenceEntry false
  | .flowSequenceFirstEntry => flowSequenceEntry true
  | .flowSequenceEntry => flowSequenceEntry false
  | .flowMappingFirstKey => flowMappingKey true
  | .flowMappingKey => flowMappingKey false
  | .flowMappingValue => flowMappingValue false
  | .indentlessSequenceEntry => indentlessSequenceEntry
  | .flowSequenceEntryMappingKey => flowSequenceEntryMappingKey
  | .flowSequenceEntryMappingValue => flowSequenceEntryMappingValue
  | .flowSequenceEntryMappingEnd =>
    setPhase .flowSequenceEntry
    pure (.mappingEnd, (← get).lexer.mark)
  | .flowMappingEmptyValue => flowMappingValue true

end FleetTelemetry.Yaml
