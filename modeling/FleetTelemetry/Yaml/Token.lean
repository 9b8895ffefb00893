/-!
# YAML tokens

A YAML stream is first cut into tokens: the markers of documents, the starts and ends of block
and flow collections, the entry, key and value indicators, anchors, aliases, tags and scalars.
Every token carries the place where it starts, and so does every fault. A fault's message names
its place by the index of a character (from 0), its line (from 1) and its column (from 1).

The character classes below are those of the YAML grammar; the end of the input is read as the
character `U+0000`, so a test for "a break or the end" is one test on one character.
-/

namespace FleetTelemetry.Yaml

/-- A place in a text: the index of a character, its line (from 1) and its column (from 0). -/
structure Mark where
  index : Nat
  line : Nat
  column : Nat
  deriving Inhabited, BEq

structure Fault where
  mark : Mark
  info : String

def Fault.message (f : Fault) : String :=
  f.info ++ " at byte " ++ toString f.mark.index ++ " line " ++ toString f.mark.line ++
    " column " ++ toString (f.mark.column + 1)

inductive ScalarStyle where
  | plain
  | singleQuoted
  | doubleQuoted
  | literal
  | folded
  deriving BEq, Inhabited

inductive TokenKind where
  | streamStart
  | streamEnd
  | versionDirective (major minor : Nat)
  /-- A `%TAG` directive: a handle and what it expands to. -/
  | tagDirective (handle expansion : String)
  | documentStart
  | documentEnd
  | blockSequenceStart
  | blockMappingStart
  | blockEnd
  | flowSequenceStart
  | flowSequenceEnd
  | flowMappingStart
  | flowMappingEnd
  | blockEntry
  | flowEntry
  | key
  | value
  | alias (name : String)
  | anchor (name : String)
  | tag (handle suffix : String)
  | scalar (style : ScalarStyle) (text : String)
  deriving Inhabited

structure Token where
  mark : Mark
  kind : TokenKind
  deriving Inhabited

/-! ### Character classes -/

def endChar : Char := '\x00'

def isBreak (c : Char) : Bool := c = '\n' || c = '\r'

def isBreakOrEnd (c : Char) : Bool := isBreak c || c = endChar

def isSpaceOrTab (c : Char) : Bool := c = ' ' || c = '\t'

def isBlankOrEnd (c : Char) : Bool := isSpaceOrTab c || isBreakOrEnd c

def isFlowIndicator (c : Char) : Bool :=
  c = ',' || c = '[' || c = ']' || c = '\x7b' || c = '\x7d'

def isDecimalDigit (c : Char) : Bool := '0' ≤ c && c ≤ '9'

def hexDigit? (c : Char) : Option Nat :=
  if '0' ≤ c ∧ c ≤ '9' then some (c.toNat - 48)
  else if 'a' ≤ c ∧ c ≤ 'f' then some (c.toNat - 87)
  else if 'A' ≤ c ∧ c ≤ 'F' then some (c.toNat - 55)
  else none

def isHexDigit (c : Char) : Bool := (hexDigit? c).isSome

/-- An ASCII letter or digit, `_` or `-`: the characters of directive names and tag handles. -/
def isNameChar (c : Char) : Bool :=
  ('0' ≤ c && c ≤ '9') || ('a' ≤ c && c ≤ 'z') || ('A' ≤ c && c ≤ 'Z') || c = '_' ||
    c = '-'

def isUriChar (c : Char) : Bool :=
  (isNameChar c && c ≠ '_') || "#;/?:@&=+$,_.!~*'()[]%".contains c

/-- A character that may stand in the suffix of a tag: a URI character that is neither a flow
indicator nor `!`. -/
def isTagChar (c : Char) : Bool := isUriChar c && !isFlowIndicator c && c ≠ '!'

/-- A character that may stand in the name of an anchor: anything but a blank, a break, a byte
order mark, a flow indicator or the end. -/
def isAnchorChar (c : Char) : Bool :=
  !isBlankOrEnd c && c ≠ '\uFEFF' && !isFlowIndicator c

end FleetTelemetry.Yaml
