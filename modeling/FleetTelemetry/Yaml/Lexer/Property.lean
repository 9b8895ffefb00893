import FleetTelemetry.Yaml.Lexer.Cursor

/-!
# Anchors, tags and directives

* An anchor `&name` or an alias `*name` names a node; the name runs up to a blank or a flow
  indicator.
* A tag is verbatim (`!<uri>`), or a handle and a suffix: `!!suffix` (the secondary handle),
  `!name!suffix` (a named handle) or `!suffix` (the primary handle). A lone `!` is the
  non-specific tag, given as an empty handle and the suffix `!`. In a suffix `%` starts an
  escaped octet; the octets of one character are read as UTF-8 lead and continuation bytes and
  their values put side by side.
* A directive stands at the start of a line: `%YAML major.minor`, `%TAG handle expansion`, or a
  directive of another name, whose line is skipped.
-/

namespace FleetTelemetry.Yaml

def readWhile (test : Char → Bool) : Nat → String → LexM String
  | 0, acc => pure acc
  | fuel + 1, acc => do
    let c := (← get).ch
    if test c then
      skipNonBlank
      readWhile test fuel (acc.push c)
    else pure acc

def skipBlanks : Nat → LexM Unit
  | 0 => pure ()
  | fuel + 1 => do
    if isSpaceOrTab (← get).ch then
      skipBlank
      skipBlanks fuel
    else pure ()

def scanAnchor (isAlias : Bool) : LexM Token := do
  let start := (← get).mark
  skipNonBlank
  let name ← readWhile isAnchorChar (← get).budget ""
  if name.isEmpty then
    faultAt start
      "while scanning an anchor or alias, did not find expected alphabetic or numeric character"
  pure ⟨start, if isAlias then .alias name else .anchor name⟩

/-- The number of bytes of a UTF-8 sequence that starts with a lead byte. -/
def leadWidth? (octet : Nat) : Option Nat :=
  if octet &&& 0x80 = 0 then some 1
  else if octet &&& 0xE0 = 0xC0 then some 2
  else if octet &&& 0xF0 = 0xE0 then some 3
  else if octet &&& 0xF8 = 0xF0 then some 4
  else none

/-- Reads the `%`-escaped octets of one character in a tag. -/
def scanUriEscapes (m : Mark) : LexM Char := do
  go (← get).budget 0 0
where
  /-- One octet at a time: the octets still expected and the value so far. -/
  go : Nat → Nat → Nat → LexM Char
  | 0, _, _ => faultAt m "while parsing a tag, did not find URI escaped octet"
  | fuel + 1, width, code => do
    let s ← get
    match s.ch, hexDigit? (s.peekAt 1), hexDigit? (s.peekAt 2) with
    | '%', some hi, some lo =>
      let octet := hi * 16 + lo
      let (width, code) ← if width = 0 then
          match leadWidth? octet with
          | some w => pure (w, octet)
          | none => faultAt m "while parsing a tag, found an incorrect leading UTF-8 octet"
        else if octet &&& 0xC0 ≠ 0x80 then
          faultAt m "while parsing a tag, found an incorrect trailing UTF-8 octet"
        else pure (width, code * 256 + octet)
      skipContent 3
      if width = 1 then
        if code.isValidChar then pure (Char.ofNat code)
        else faultAt m "while parsing a tag, found an invalid UTF-8 codepoint"
      else go fuel (width - 1) code
    | _, _, _ => faultAt m "while parsing a tag, did not find URI escaped octet"

/-- Reads characters of a URI (or of a tag suffix, with `test`), decoding escapes. -/
def readUri (test : Char → Bool) (m : Mark) : Nat → String → Nat → LexM (String × Nat)
  | 0, acc, count => pure (acc, count)
  | fuel + 1, acc, count => do
    let c := (← get).ch
    if !test c then pure (acc, count)
    else if c = '%' then
      let d ← scanUriEscapes m
      readUri test m fuel (acc.push d) (count + 1)
    else
      skipNonBlank
      readUri test m fuel (acc.push c) (count + 1)

/-- Reads a tag handle: `!`, then name characters, then `!` when there is one. In a directive
the handle must end with `!` unless it is the primary handle. -/
def scanTagHandle (directive : Bool) (m : Mark) : LexM String := do
  if (← get).ch ≠ '!' then faultAt m "while scanning a tag, did not find expected '!'"
  skipNonBlank
  let handle ← readWhile isNameChar (← get).budget "!"
  if (← get).ch = '!' then
    skipNonBlank
    pure (handle.push '!')
  else if directive && handle ≠ "!" then
    faultAt m "while parsing a tag directive, did not find expected '!'"
  else pure handle

/-- Reads the suffix of a tag after its handle; `head` is text already read as part of it. -/
def scanTagSuffix (head : String) (m : Mark) : LexM String := do
  let start := if head.length > 1 then (head.drop 1).toString else ""
  let (suffix, count) ← readUri isTagChar m (← get).budget start head.length
  if count = 0 then faultAt m "while parsing a tag, did not find expected tag URI"
  pure suffix

def scanVerbatimTag (m : Mark) : LexM String := do
  skipContent 2
  let (uri, _) ← readUri isUriChar m (← get).budget "" 0
  if (← get).ch ≠ '>' then
    faultAt m "while scanning a verbatim tag, did not find the expected '>'"
  skipNonBlank
  pure uri

/-- Reads a tag; a blank, a break, the end or (in flow context) a flow indicator must follow. -/
def scanTag : LexM Token := do
  let s ← get
  let start := s.mark
  let (handle, suffix) ←
    if s.peekAt 1 = '<' then do
      let uri ← scanVerbatimTag start
      pure ("", uri)
    else do
      let handle ← scanTagHandle false start
      if handle.length ≥ 2 && handle.startsWith "!" && handle.endsWith "!" then
        pure (handle, ← scanTagSuffix "" start)
      else
        let suffix ← scanTagSuffix handle start
        pure (if suffix.isEmpty then ("", "!") else ("!", suffix))
  let s ← get
  if isBlankOrEnd s.ch || (s.flowLevel > 0 && isFlowIndicator s.ch) then
    pure ⟨start, .tag handle suffix⟩
  else faultAt start "while scanning a tag, did not find expected whitespace or line break"

/-! ### Directives -/

def scanDirectiveName : LexM String := do
  let start := (← get).mark
  let name ← readWhile isNameChar (← get).budget ""
  if name.isEmpty then
    faultAt start "while scanning a directive, could not find expected directive name"
  if !isBlankOrEnd (← get).ch then
    faultAt start "while scanning a directive, found unexpected non-alphabetical character"
  pure name

/-- Reads one number of a version, nine digits at most. -/
def scanVersionNumber (m : Mark) : LexM Nat := do
  let digits ← readWhile isDecimalDigit 10 ""
  if digits.length > 9 then
    faultAt m "while scanning a YAML directive, found extremely long version number"
  if digits.isEmpty then
    faultAt m "while scanning a YAML directive, did not find expected version number"
  pure (digits.foldl (fun n c => n * 10 + (c.toNat - 48)) 0)

def scanVersion (m : Mark) : LexM Token := do
  skipBlanks (← get).budget
  let major ← scanVersionNumber m
  if (← get).ch ≠ '.' then
    faultAt m "while scanning a YAML directive, did not find expected digit or '.' character"
  skipNonBlank
  let minor ← scanVersionNumber m
  pure ⟨m, .versionDirective major minor⟩

/-- Reads what a `%TAG` handle expands to: a local `!` or a global tag character first, then
URI characters. -/
def scanTagExpansion (m : Mark) : LexM String := do
  let c := (← get).ch
  let first ←
    if c = '!' then do
      skipNonBlank
      pure "!"
    else if !isTagChar c then faultAt m "invalid global tag character"
    else if c = '%' then do
      let d ← scanUriEscapes m
      pure (String.singleton d)
    else do
      skipNonBlank
      pure (String.singleton c)
  let (text, _) ← readUri isUriChar m (← get).budget first 0
  pure text

/-- Reads the handle and expansion of a `%TAG` directive. -/
def scanTagDirective (m : Mark) : LexM Token := do
  skipBlanks (← get).budget
  let handle ← scanTagHandle true m
  skipBlanks (← get).budget
  let expansion ← scanTagExpansion m
  if isBlankOrEnd (← get).ch then pure ⟨m, .tagDirective handle expansion⟩
  else faultAt m "while scanning TAG, did not find expected whitespace or line break"

/-- Reads a directive line; a directive of another name than `YAML` or `TAG` is skipped and
stands as an empty `%TAG`. -/
def scanDirective : LexM Token := do
  let start := (← get).mark
  skipNonBlank
  let name ← scanDirectiveName
  let token ←
    if name = "YAML" then scanVersion start
    else if name = "TAG" then scanTagDirective start
    else do
      skipToLineEnd (← get).budget
      pure ⟨start, .tagDirective "" ""⟩
  let _ ← skipSpaceToEnd true
  if isBreakOrEnd (← get).ch then
    skipBreak
    pure token
  else faultAt start "while scanning a directive, did not find expected comment or line break"

end FleetTelemetry.Yaml
