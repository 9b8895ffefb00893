import FleetTelemetry.Json.Value

/-!
# Writing JSON text

Two forms: compact (no blanks at all) and pretty (one member per line, two blanks per level,
`": "` after a key, empty arrays and objects as `[]` and `{}`). In a string, the quote and the
backslash are escaped, `\b \f \n \r \t` have their short escapes, every other character below
U+0020 is written `\u00xx` with lower-case hex digits, and everything else is written as is.
-/

namespace FleetTelemetry.Json

def hexDigitLower (n : Nat) : Char :=
  if n < 10 then Char.ofNat (48 + n) else Char.ofNat (87 + n)

def escapeChar (c : Char) : String :=
  if c = '"' then "\\\""
  else if c = '\\' then "\\\\"
  else if c = '\n' then "\\n"
  else if c = '\r' then "\\r"
  else if c = '\t' then "\\t"
  else if c.toNat = 8 then "\\b"
  else if c.toNat = 12 then "\\f"
  else if c.toNat < 32 then
    "\\u00" ++ String.ofList [hexDigitLower (c.toNat / 16), hexDigitLower (c.toNat % 16)]
  else String.singleton c

def quote (s : String) : String :=
  "\"" ++ String.join (s.toList.map escapeChar) ++ "\""

def compact : Json → String
  | .null => "null"
  | .bool b => if b then "true" else "false"
  | .num n => n.text
  | .str s => quote s
  | .arr items => "[" ++ ",".intercalate (items.attach.map fun ⟨x, _⟩ => compact x) ++ "]"
  | .obj ms =>
    "\x7b" ++ ",".intercalate (ms.attach.map fun ⟨(k, v), _⟩ => quote k ++ ":" ++ compact v) ++ "\x7d"
termination_by j => sizeOf j
decreasing_by
  all_goals simp_wf
  · have := List.sizeOf_lt_of_mem ‹_›; omega
  · rename_i h; have := List.sizeOf_lt_of_mem h; simp at this; omega

def indent (n : Nat) : String := String.ofList (List.replicate (2 * n) ' ')

def prettyAt (level : Nat) : Json → String
  | .arr [] => "[]"
  | .obj [] => "\x7b\x7d"
  | .arr items =>
    "[\n" ++ ",\n".intercalate (items.attach.map fun ⟨x, _⟩ => indent (level + 1) ++ prettyAt (level + 1) x)
      ++ "\n" ++ indent level ++ "]"
  | .obj ms =>
    "\x7b\n" ++ ",\n".intercalate (ms.attach.map fun ⟨(k, v), _⟩ =>
        indent (level + 1) ++ quote k ++ ": " ++ prettyAt (level + 1) v)
      ++ "\n" ++ indent level ++ "\x7d"
  | j => compact j
termination_by j => sizeOf j
decreasing_by
  all_goals simp_wf
  · have := List.sizeOf_lt_of_mem ‹_›; omega
  · rename_i h; have := List.sizeOf_lt_of_mem h; simp at this; omega

def pretty (j : Json) : String := prettyAt 0 j

end FleetTelemetry.Json
