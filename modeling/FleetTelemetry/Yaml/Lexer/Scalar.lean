import FleetTelemetry.Yaml.Lexer.Cursor

/-!
# Scalars

The three ways of writing a scalar, and how each joins its lines:

* a **plain** scalar runs until `: ` or ` #`, a flow indicator in flow context, a document
  marker, or (in block context) a line indented no further than its block. Its lines are folded:
  one line break between two runs becomes a space, and each further empty line a line feed;
* a **quoted** scalar runs to its closing quote, folded the same way. In single quotes `''` is a
  quote; in double quotes a backslash starts an escape or, before a line break, joins the lines.
  Its continuation lines must stand right of its block, and only a comment, a break, a `:`, or in
  flow context a flow indicator may follow it on its line;
* a **block** scalar (`|` literal, `>` folded) holds the lines indented at least as its first
  content line; its header may give that indentation and how trailing line breaks are kept
  (`-` none, `+` all, otherwise one).
-/

namespace FleetTelemetry.Yaml

/-- The whitespace met between runs of a scalar's text: the first line break, the line breaks of
the empty lines after it, and the blanks within a line. -/
structure Folding where
  text : String := ""
  leadingBreak : String := ""
  trailingBreaks : String := ""
  spaces : String := ""

/-- Adds the whitespace before a new run: a single line break folds to a space, further ones stay
line feeds; blanks within a line stay. -/
def Folding.join (f : Folding) (afterBreak : Bool) : Folding :=
  if afterBreak then
    if f.leadingBreak.isEmpty then
      { f with text := f.text ++ f.leadingBreak ++ f.trailingBreaks, trailingBreaks := "",
               leadingBreak := "" }
    else
      let text := if f.trailingBreaks.isEmpty then f.text.push ' ' else f.text ++ f.trailingBreaks
      { f with text, trailingBreaks := "", leadingBreak := "" }
  else { f with text := f.text ++ f.spaces, spaces := "" }

/-! ### Plain scalars -/

/-- Whether the character at the place may continue a plain scalar: not a `:` before a blank (or
before a flow indicator in flow context), and not a flow indicator in flow context. -/
def Lexer.plainContinues (s : Lexer) : Bool :=
  let c := s.ch
  let next := s.peekAt 1
  if c = ':' && (isBlankOrEnd next || (s.flowLevel > 0 && isFlowIndicator next)) then false
  else !(s.flowLevel > 0 && isFlowIndicator c)

/-- Reads a run of a plain scalar, up to a blank or a character that ends it. -/
def plainRun : Nat → String → LexM String
  | 0, acc => pure acc
  | fuel + 1, acc => do
    let s ← get
    if isBlankOrEnd s.ch || !s.plainContinues then pure acc
    else
      skipNonBlank
      plainRun fuel (acc.push s.ch)

/-- Reads the blanks and line breaks after a run of a plain scalar. A tab in the indentation is
allowed only on an otherwise empty line. -/
def plainGap (indent : Int) (start : Mark) : Nat → Folding → LexM Folding
  | 0, f => pure f
  | fuel + 1, f => do
    let s ← get
    let c := s.ch
    if isSpaceOrTab c then
      if !s.leadingBlank then
        skipBlank
        plainGap indent start fuel { f with spaces := f.spaces.push c }
      else if (s.mark.column : Int) < indent && c = '\t' then
        let _ ← skipSpaceToEnd true
        if !isBreakOrEnd (← get).ch then
          faultAt start "while scanning a plain scalar, found a tab"
        plainGap indent start fuel f
      else
        skipBlank
        plainGap indent start fuel f
    else if isBreak c then
      skipBreak
      let f := if s.leadingBlank then { f with trailingBreaks := f.trailingBreaks.push '\n' }
        else { f with spaces := "", leadingBreak := f.leadingBreak.push '\n' }
      plainGap indent start fuel f
    else pure f

def plainBody (indent : Int) (start : Mark) : Nat → Folding → LexM Folding
  | 0, f => pure f
  | fuel + 1, f => do
    let s ← get
    if s.atDocumentIndicator || s.ch = '#' then return f
    if s.flowLevel > 0 && s.ch = '-' && isFlowIndicator (s.peekAt 1) then
      faultHere "plain scalar cannot start with '-' followed by ,[]\x7b\x7d"
    let f ← if !isBlankOrEnd s.ch && s.plainContinues then do
        let f := f.join s.leadingBlank
        let text ← plainRun s.budget f.text
        pure { f with text }
      else pure f
    let s ← get
    if !(isSpaceOrTab s.ch || isBreak s.ch) then return f
    let f ← plainGap indent start s.budget f
    let s ← get
    if s.flowLevel == 0 && (s.mark.column : Int) < indent then return f
    plainBody indent start fuel f

def scanPlain : LexM Token := do
  unrollOneColumn
  let s ← get
  let indent := s.indent + 1
  let start := s.mark
  if s.flowLevel > 0 && (start.column : Int) < indent then
    faultAt start "invalid indentation in flow construct"
  let f ← plainBody indent start s.budget {}
  if (← get).leadingBlank then allowKey
  if f.text.isEmpty then faultAt start "unexpected end of plain scalar"
  pure ⟨start, .scalar .plain f.text⟩

/-! ### Quoted scalars -/

def shortEscape? (c : Char) : Option Char :=
  match c with
  | '0' => some '\x00'
  | 'a' => some '\x07'
  | 'b' => some '\x08'
  | 't' | '\t' => some '\t'
  | 'n' => some '\n'
  | 'v' => some '\x0b'
  | 'f' => some '\x0c'
  | 'r' => some '\r'
  | 'e' => some '\x1b'
  | ' ' => some ' '
  | '"' => some '"'
  | '/' => some '/'
  | '\\' => some '\\'
  | 'N' => some '\u0085'
  | '_' => some '\u00A0'
  | 'L' => some '\u2028'
  | 'P' => some '\u2029'
  | _ => none

/-- The number of hexadecimal digits after `\x`, `\u` and `\U`. -/
def escapeWidth? (c : Char) : Option Nat :=
  match c with
  | 'x' => some 2
  | 'u' => some 4
  | 'U' => some 8
  | _ => none

/-- The value of `width` hexadecimal digits at the place. -/
def Lexer.hexAhead (s : Lexer) (width : Nat) : Option Nat :=
  (List.range width).foldl
    (fun acc i => acc.bind fun v => (hexDigit? (s.peekAt i)).map (v * 16 + ·)) (some 0)

def readEscape (start : Mark) : LexM Char := do
  let s ← get
  let c := s.peekAt 1
  match shortEscape? c with
  | some r =>
    skipContent 2
    pure r
  | none =>
    match escapeWidth? c with
    | none => faultAt start "while parsing a quoted scalar, found unknown escape character"
    | some width =>
      skipContent 2
      match (← get).hexAhead width with
      | none =>
        faultAt start "while parsing a quoted scalar, did not find expected hexadecimal number"
      | some v =>
        if v.isValidChar then
          skipContent width
          pure (Char.ofNat v)
        else
          faultAt start
            "while parsing a quoted scalar, found invalid Unicode character escape code"

/-- Reads the characters of a quoted scalar up to a blank, a break or the closing quote; gives
the text and whether an escaped line break was met. -/
def quotedRun (single : Bool) (start : Mark) : Nat → String → LexM (String × Bool)
  | 0, acc => pure (acc, false)
  | fuel + 1, acc => do
    let s ← get
    let c := s.ch
    if isBlankOrEnd c then pure (acc, false)
    else if single && c = '\'' && s.peekAt 1 = '\'' then
      skipContent 2
      quotedRun single start fuel (acc.push '\'')
    else if single && c = '\'' then pure (acc, false)
    else if !single && c = '"' then pure (acc, false)
    else if !single && c = '\\' && isBreak (s.peekAt 1) then
      skipNonBlank
      skipBreak
      pure (acc, true)
    else if !single && c = '\\' then
      let r ← readEscape start
      quotedRun single start fuel (acc.push r)
    else
      skipNonBlank
      quotedRun single start fuel (acc.push c)

/-- Reads the blanks and line breaks inside a quoted scalar; `afterBreak` tells whether a line
break was met. -/
def quotedGap : Nat → Folding → Bool → LexM (Folding × Bool)
  | 0, f, afterBreak => pure (f, afterBreak)
  | fuel + 1, f, afterBreak => do
    let s ← get
    let c := s.ch
    if isSpaceOrTab c then
      if afterBreak then
        if c = '\t' && (s.mark.column : Int) < s.indent then
          faultHere "tab cannot be used as indentation"
        skipBlank
        quotedGap fuel f afterBreak
      else
        skipBlank
        quotedGap fuel { f with spaces := f.spaces.push c } afterBreak
    else if isBreak c then
      skipBreak
      if afterBreak then quotedGap fuel { f with trailingBreaks := f.trailingBreaks.push '\n' } true
      else quotedGap fuel { f with spaces := "", leadingBreak := f.leadingBreak.push '\n' } true
    else pure (f, afterBreak)

def quotedBody (single : Bool) (start : Mark) : Nat → Folding → LexM Folding
  | 0, f => pure f
  | fuel + 1, f => do
    let s ← get
    if s.atDocumentIndicator then
      faultAt start "while scanning a quoted scalar, found unexpected document indicator"
    if s.ch = endChar then
      faultAt start "while scanning a quoted scalar, found unexpected end of stream"
    if (s.mark.column : Int) ≤ s.indent then faultAt start "invalid indentation in quoted scalar"
    let (text, escapedBreak) ← quotedRun single start s.budget f.text
    let f := { f with text }
    let c := (← get).ch
    if (single && c = '\'') || (!single && c = '"') then return f
    let (f, afterBreak) ← quotedGap (← get).budget f escapedBreak
    quotedBody single start fuel (f.join afterBreak)

/-- Reads a quoted scalar; after it only blanks and a comment may follow on its line, or a `:`,
or in flow context a flow indicator. -/
def scanQuoted (single : Bool) : LexM Token := do
  let start := (← get).mark
  skipNonBlank
  let f ← quotedBody single start (← get).budget {}
  skipNonBlank
  let _ ← skipSpaceToEnd true
  let s ← get
  let c := s.ch
  let fits :=
    (s.flowLevel > 0 && (c = ',' || c = '\x7d' || c = ']')) || isBreakOrEnd c ||
      (c = ':' && (s.flowLevel > 0 || start.line = s.mark.line))
  if !fits then faultHere "invalid trailing content after double-quoted scalar"
  pure ⟨start, .scalar (if single then .singleQuoted else .doubleQuoted) f.text⟩

/-! ### Block scalars -/

inductive Chomping where
  | strip
  | clip
  | keep
  deriving BEq

/-- Skips the indentation of the lines of a block scalar up to `indent`, and the empty lines,
adding a line feed to `breaks` for each. -/
def blockIndent (indent : Nat) : Nat → String → LexM String
  | 0, breaks => pure breaks
  | fuel + 1, breaks => do
    skipSpacesUpTo (← get).budget
    if isBreak (← get).ch then
      skipBreak
      blockIndent indent fuel (breaks.push '\n')
    else pure breaks
where
  skipSpacesUpTo : Nat → LexM Unit
  | 0 => pure ()
  | fuel + 1 => do
    let s ← get
    if s.mark.column < indent && s.ch = ' ' then
      skipBlank
      skipSpacesUpTo fuel
    else pure ()

/-- Skips the empty lines before the first content line of a block scalar and finds its
indentation: the widest of those lines, at least one right of the enclosing block. -/
def blockFirstIndent : LexM (Nat × String) := do
  let (widest, breaks) ← go (← get).budget 0 ""
  let s ← get
  let indent := max widest (s.indent + 1).toNat
  pure (if s.indent > 0 then max indent 1 else indent, breaks)
where
  spaces : Nat → LexM Unit
  | 0 => pure ()
  | fuel + 1 => do
    if (← get).ch = ' ' then
      skipBlank
      spaces fuel
    else pure ()
  go : Nat → Nat → String → LexM (Nat × String)
  | 0, widest, breaks => pure (widest, breaks)
  | fuel + 1, widest, breaks => do
    spaces (← get).budget
    let s ← get
    let widest := max widest s.mark.column
    if isBreak s.ch then
      skipBreak
      go fuel widest (breaks.push '\n')
    else pure (widest, breaks)

def blockLineRest : Nat → String → LexM String
  | 0, acc => pure acc
  | fuel + 1, acc => do
    let c := (← get).ch
    if isBreakOrEnd c then pure acc
    else
      skipBlank
      blockLineRest fuel (acc.push c)

/-- Reads the content lines of a block scalar at `indent`: gives its text, the line break after
the last line and the empty lines after that. A folded scalar joins two lines that do not start
with a blank by a space, unless empty lines stand between them. -/
def blockLines (literal : Bool) (indent : Nat) :
    Nat → String → String → String → Bool → LexM (String × String × String)
  | 0, text, leading, trailing, _ => pure (text, leading, trailing)
  | fuel + 1, text, leading, trailing, leadingBlank => do
    let s ← get
    if s.mark.column ≠ indent || s.ch = endChar then return (text, leading, trailing)
    if indent = 0 && s.atDocumentIndicator then return (text, leading, trailing)
    let trailingBlank := isSpaceOrTab s.ch
    let text :=
      if !literal && !leading.isEmpty && !leadingBlank && !trailingBlank then
        if trailing.isEmpty then (text ++ trailing).push ' ' else text ++ trailing
      else text ++ leading ++ trailing
    let leadingBlank := isSpaceOrTab s.ch
    let text ← blockLineRest s.budget text
    if (← get).ch = endChar then return (text, "", "")
    skipBreak
    let trailing ← blockIndent indent (← get).budget ""
    blockLines literal indent fuel text "\n" trailing leadingBlank

/-- Reads the header of a block scalar after its `|` or `>`: the chomping and the indentation
indicators, in either order. -/
def blockHeader (start : Mark) : LexM (Chomping × Nat) := do
  let zero : LexM (Chomping × Nat) :=
    faultAt start "while scanning a block scalar, found an indentation indicator equal to 0"
  let s ← get
  if s.ch = '+' || s.ch = '-' then
    let chomping := if s.ch = '+' then Chomping.keep else .strip
    skipNonBlank
    let s ← get
    if isDecimalDigit s.ch then
      if s.ch = '0' then zero
      else
        skipNonBlank
        pure (chomping, s.ch.toNat - 48)
    else pure (chomping, 0)
  else if isDecimalDigit s.ch then
    if s.ch = '0' then zero
    else
      skipNonBlank
      let s' ← get
      if s'.ch = '+' || s'.ch = '-' then
        skipNonBlank
        pure (if s'.ch = '+' then .keep else .strip, s.ch.toNat - 48)
      else pure (.clip, s.ch.toNat - 48)
  else pure (.clip, 0)

def scanBlock (literal : Bool) : LexM Token := do
  let style := if literal then ScalarStyle.literal else .folded
  let start := (← get).mark
  skipNonBlank
  unrollOneColumn
  let (chomping, increment) ← blockHeader start
  let _ ← skipSpaceToEnd true
  let s ← get
  if !isBreakOrEnd s.ch then
    faultAt start "while scanning a block scalar, did not find expected comment or line break"
  let chompingBreak ← if isBreak s.ch then do skipBreak; pure "\n" else pure ""
  if (← get).ch = '\t' then faultAt start "a block scalar content cannot start with a tab"
  let s ← get
  let given : Nat :=
    if increment = 0 then 0
    else if s.indent ≥ 0 then (s.indent + increment).toNat
    else increment
  let (indent, trailing) ← if given = 0 then blockFirstIndent
    else do pure (given, ← blockIndent given (← get).budget "")
  let s ← get
  if s.ch = endChar then
    let text :=
      if chomping == .strip || s.mark.line = start.line then ""
      else if chomping == .clip || trailing.isEmpty then chompingBreak
      else trailing
    return ⟨start, .scalar style text⟩
  if s.mark.column < indent && (s.mark.column : Int) > s.indent then
    faultHere "wrongly indented line in block scalar"
  let contentStart := s.mark
  let (text, leading, trailing) ← blockLines literal indent s.budget "" "" trailing false
  let s ← get
  let text := if chomping == .strip then text
    else text ++ leading ++ (if s.ch = endChar && s.mark.column ≥ max indent 1 then "\n" else "")
  let text := if chomping == .keep then text ++ trailing else text
  pure ⟨contentStart, .scalar style text⟩

end FleetTelemetry.Yaml
