import FleetTelemetry.Cli.Spec

/-!
# Help and usage texts

A command's help is its description, a usage line, and sections for its commands, positional
arguments and options. Lines are laid out for a 100-column terminal:

* an option line is two spaces, `-h, ` or four spaces, the long name with its value, and the
  help aligned two columns after the longest option;
* when an option's help would not fit beside it (and the options take more than 40% of the
  line), or in the long help, every help moves to its own line, indented by ten spaces; the long
  help also leaves a blank line between options;
* the long help (asked for by `--help`) exists only for a command with a long description or an
  option with a long help; otherwise `--help` shows the short help.

The text ends with exactly one line break.
-/

namespace FleetTelemetry.Cli

def termWidth : Nat := 100

def spaces (n : Nat) : String := String.ofList (List.replicate n ' ')

def trimEnd (s : String) : String :=
  String.ofList (s.toList.reverse.dropWhile (fun c => c = ' ' || c = '\n' || c = '\t' || c = '\r')).reverse

/-- The key options are listed by: display order, then the short name (lower-cased, `0` after
a lower-case letter and `1` after an upper-case one) or else the long name. -/
def Opt.sortKey (o : Opt) : Nat × String :=
  match o.short with
  | some c => (o.order, String.ofList [c.toLower, if c.isLower then '0' else '1'])
  | none => (o.order, o.long)

def Opt.listedBefore (a b : Opt) : Bool :=
  let (oa, ka) := a.sortKey
  let (ob, kb) := b.sortKey
  oa < ob || (oa == ob && decide (ka ≤ kb))

def CmdSpec.usage (c : CmdSpec) : String := c.usageName ++ c.usageTail

def CmdSpec.usageWith (c : CmdSpec) (used : List Opt) : String :=
  let distinct := used.foldl (fun acc o => if acc.any (·.key == o.key) then acc else acc ++ [o]) []
  if distinct.isEmpty then c.usage
  else c.usageName ++ String.join (distinct.map (" " ++ ·.display)) ++
    (if c.subcommands.isEmpty then "" else " <COMMAND>")

/-- The options section: one entry per option in listing order. -/
def optionsBlock (opts : List Opt) (useLong : Bool) : String :=
  let listed := opts.mergeSort Opt.listedBefore
  let longest := listed.foldl (fun m o => max m o.display.length) 2
  let helpOf (o : Opt) := if useLong then o.longHelp.getD o.help else o.help
  let taken := longest + 8
  let nextLine := useLong || listed.any fun o =>
    termWidth ≥ taken && taken * 5 > termWidth * 2 && (helpOf o).length > termWidth - taken
  let entry (o : Opt) : String :=
    let name := "  " ++ (match o.short with | some c => "-" ++ String.ofList [c] ++ ", " | none => "    ") ++ o.display
    if nextLine then name ++ "\n" ++ spaces 10 ++ helpOf o
    else name ++ spaces (longest + 2 - o.display.length) ++ helpOf o
  (if nextLine && useLong then "\n\n" else "\n").intercalate (listed.map entry)

def pairsBlock (pairs : List (String × String)) : String :=
  let longest := pairs.foldl (fun m p => max m p.1.length) 2
  "\n".intercalate (pairs.map fun (n, d) => "  " ++ n ++ spaces (longest + 2 - n.length) ++ d)

/-- The help of a command; `long` asks for the long help. -/
def CmdSpec.helpText (c : CmdSpec) (long : Bool) : String :=
  let useLong := long && c.hasLongHelp
  let about := if useLong then c.longAbout.getD c.about else c.about
  let sections :=
    (if c.subcommands.isEmpty then [] else ["Commands:\n" ++ pairsBlock c.subcommands]) ++
    (if c.positionals.isEmpty then [] else ["Arguments:\n" ++ pairsBlock c.positionals]) ++
    (if c.opts.isEmpty then [] else ["Options:\n" ++ optionsBlock c.opts useLong])
  trimEnd (about ++ "\n\nUsage: " ++ c.usage ++ "\n\n" ++ "\n\n".intercalate sections) ++ "\n"

end FleetTelemetry.Cli
