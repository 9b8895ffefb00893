import FleetTelemetry.Cli.Help
import FleetTelemetry.Cli.Similar
import FleetTelemetry.Word

/-!
# Reading the command line

Tokens are read left to right, one command level at a time:

* a token naming a command of the current level starts that command (`help` shows help right
  away); `--` makes every later token a plain value;
* `--name` or `--name=value` is a long option, `-xyz` a cluster of short flags;
* an option that takes a value takes the rest of its token after `=`, or else the next token;
  an option still waiting for its value when another option comes, or at the end, is an error;
* a flag may not be given a value, and no option may be given twice on one level;
* a global option may also be given after the command, which then wins;
* integers are read as the standard library reads them: an optional sign, then decimal digits,
  with the first offending digit or overflow reported.

Failures carry the kind and text the user sees; asking for help or the version is reported the
same way, with exit code 0.
-/

namespace FleetTelemetry.Cli

structure PullArgs where
  stateFile : Option String := none
  sinkUrl : Option String := none
  dryRun : Bool := false
  lookBackHours : Option Int := none
  batchSize : Option Nat := none
  deriving Repr

structure AuthArgs where
  lookBackHours : Option Int := none
  deriving Repr

inductive Command where
  | pull (args : PullArgs)
  | auth (args : AuthArgs)
  deriving Repr

structure Invocation where
  config : Option String := none
  logLevel : Option String := none
  logJson : Bool := false
  pretty : Bool := false
  command : Command
  deriving Repr

inductive Given where
  | text (s : String)
  | int (i : Int)
  | flag
  deriving Repr

/-- Why the command line was not accepted, or what it asked to show instead. -/
inductive ArgError where
  | displayHelp (text : String)
  | displayVersion (text : String)
  /-- Nothing was given at all: the help is shown as an error. -/
  | helpOnMissing (text : String)
  | missingSubcommand (usage : String)
  | invalidSubcommand (name : String) (similar : List String) (usage : String)
  /-- An unknown option or stray value, with a similar option and further tips. -/
  | unknownArgument (arg : String) (similarArg : Option String) (tips : List String) (usage : String)
  | emptyValue (arg : String)
  | invalidValue (value arg reason : String)
  | repeated (arg : String) (usage : String)
  | unexpectedValue (value arg : String) (usage : String)
  deriving Repr

namespace ArgError

def kind : ArgError → String
  | .displayHelp _ => "DisplayHelp"
  | .displayVersion _ => "DisplayVersion"
  | .helpOnMissing _ => "DisplayHelpOnMissingArgumentOrSubcommand"
  | .missingSubcommand _ => "MissingSubcommand"
  | .invalidSubcommand .. => "InvalidSubcommand"
  | .unknownArgument .. => "UnknownArgument"
  | .emptyValue _ => "InvalidValue"
  | .invalidValue .. => "ValueValidation"
  | .repeated .. => "ArgumentConflict"
  | .unexpectedValue .. => "TooManyValues"

/-- The exit code: 0 for help and version, 2 otherwise. -/
def exitCode : ArgError → Nat
  | .displayHelp _ | .displayVersion _ => 0
  | _ => 2

/-- Whether the text goes to standard output rather than standard error. -/
def toStdout : ArgError → Bool
  | .displayHelp _ | .displayVersion _ => true
  | _ => false

/-- The text of a failure: `error: ` and the cause, suggestions, the usage line, and the hint
to ask for help. -/
def message : ArgError → String
  | .displayHelp t | .displayVersion t | .helpOnMissing t => t
  | e =>
    let (cause, similar, tips, usage) : String × Option String × List String × Option String :=
      match e with
      | .missingSubcommand u =>
        ("'" ++ programName ++ "' requires a subcommand but one was not provided\n  [subcommands: pull, auth, help]",
          none, [], some u)
      | .invalidSubcommand n s u =>
        ("unrecognized subcommand '" ++ n ++ "'",
          (match s with
           | [] => none
           | [x] => some ("a similar subcommand exists: '" ++ x ++ "'")
           | xs => some ("some similar subcommands exist: " ++ ", ".intercalate (xs.map fun x => "'" ++ x ++ "'"))),
          [], some u)
      | .unknownArgument a s ts u =>
        ("unexpected argument '" ++ a ++ "' found", s.map fun x => "a similar argument exists: '" ++ x ++ "'", ts, some u)
      | .emptyValue a => ("a value is required for '" ++ a ++ "' but none was supplied", none, [], none)
      | .invalidValue v a r => ("invalid value '" ++ v ++ "' for '" ++ a ++ "': " ++ r, none, [], none)
      | .repeated a u => ("the argument '" ++ a ++ "' cannot be used multiple times", none, [], some u)
      | .unexpectedValue v a u =>
        ("unexpected value '" ++ v ++ "' for '" ++ a ++ "' found; no more were expected", none, [], some u)
      | _ => ("", none, [], none)
    let suggestion := match similar with
      | some s => "\n\n  tip: " ++ s
      | none => ""
    let tipText := if tips.isEmpty then ""
      else (if similar.isSome then "" else "\n") ++ String.join (tips.map ("\n  tip: " ++ ·))
    let usageText := match usage with
      | some u => "\n\nUsage: " ++ u
      | none => ""
    "error: " ++ cause ++ suggestion ++ tipText ++ usageText ++ "\n\nFor more information, try '--help'.\n"

end ArgError

/-- Reads a decimal integer the way the standard library does, within `[lo, hi]`: an optional
sign (a minus only when `lo` is negative), then digits; the first bad digit or overflow decides
the complaint. -/
def readInteger (s : String) (lo hi : Int) : Except String Int :=
  let cs := s.toList
  if cs.isEmpty then .error "cannot parse integer from empty string"
  else
    let (negative, digits) := match cs with
      | '+' :: rest => (false, rest)
      | '-' :: rest => if lo < 0 then (true, rest) else (false, cs)
      | _ => (false, cs)
    if digits.isEmpty then .error "invalid digit found in string"
    else
      digits.foldlM (fun (acc : Int) c =>
        if !c.isDigit then .error "invalid digit found in string"
        else
          let next := if negative then acc * 10 - (c.toNat - 48) else acc * 10 + (c.toNat - 48)
          if next > hi then .error "number too large to fit in target type"
          else if next < lo then .error "number too small to fit in target type"
          else .ok next) 0

structure Level where
  given : List (Opt × Given) := []
  pending : Option Opt := none
  plainValues : Bool := false

def Level.used (l : Level) : List Opt := l.given.map (·.1)

def Level.settle (l : Level) : Except ArgError Level :=
  match l.pending with
  | some o => .error (.emptyValue o.display)
  | none => .ok l

/-- Applies an option with its value, if it takes one. `long` tells whether it was named by its
long name. -/
def Level.apply (c : CmdSpec) (l : Level) (o : Opt) (value : Option String) (long : Bool) :
    Except ArgError Level := do
  let l ← l.settle
  match o.kind with
  | .help => throw (.displayHelp (c.helpText long))
  | .version => throw (.displayVersion (programName ++ " " ++ programVersion ++ "\n"))
  | _ => pure ()
  if l.given.any (·.1.key == o.key) then throw (.repeated o.display c.usage)
  let given ← match o.kind, value with
    | .flag, _ => pure Given.flag
    | .path, some v =>
      if v.isEmpty then throw (.emptyValue o.display) else pure (Given.text v)
    | .text, some v => pure (Given.text v)
    | .integer, some v =>
      match readInteger v Word.i64Min Word.i64Max with
      | .ok i => pure (Given.int i)
      | .error r => throw (.invalidValue v o.display r)
    | .count, some v =>
      match readInteger v 0 Word.u64Max with
      | .ok i => pure (Given.int i)
      | .error r => throw (.invalidValue v o.display r)
    | _, _ => throw (.emptyValue o.display)
  pure { l with given := l.given ++ [(o, given)] }

/-- The complaint about an unknown long option: a similar option of this command, else a
similar option of a command named later on the line. -/
def unknownLong (c : CmdSpec) (l : Level) (name : String) (later : List String) : ArgError :=
  match (similarNames name (c.opts.map (·.long))).getLast? with
  | some s =>
    let suggested := (c.findLong s).toList
    let used := l.used ++ suggested.filter fun o => !l.used.any (·.key == o.key)
    .unknownArgument ("--" ++ name) (some ("--" ++ s)) [] (c.usageWith used)
  | none =>
    let fromCommands := c.subcommands.filterMap fun (sub, _) =>
      match commandSpec? sub, later.idxOf? sub with
      | some spec, some place =>
        if place < later.length then
          (similarNames name (spec.opts.map (·.long))).getLast?.map fun s => (place, sub, s)
        else none
      | _, _ => none
    let best := fromCommands.foldl (fun (acc : Option (Nat × String × String)) x =>
      match acc with
      | some a => if x.1 < a.1 then some x else some a
      | none => some x) none
    match best with
    | some (_, sub, s) =>
      .unknownArgument ("--" ++ name) none ["'" ++ sub ++ " --" ++ s ++ "' exists"] (c.usageWith l.used)
    | none => .unknownArgument ("--" ++ name) none [] (c.usageWith l.used)

def strayToken (c : CmdSpec) (l : Level) (tok : String) : ArgError :=
  if l.plainValues && c.subcommands.any (·.1 == tok) then
    .unknownArgument tok none ["subcommand '" ++ tok ++ "' exists; to use it, remove the '--' before it"] c.usage
  else if c.subcommands.isEmpty then .unknownArgument tok none [] c.usage
  else .invalidSubcommand tok (similarNames tok (c.subcommands.map (·.1))) c.usage

def readShorts (c : CmdSpec) (l : Level) : List Char → Except ArgError Level
  | [] => pure l
  | ch :: rest =>
    match c.findShort ch with
    | none => throw (.unknownArgument ("-" ++ String.ofList [ch]) none [] c.usage)
    | some o =>
      if o.kind.takesValue then
        let value := match rest with
          | '=' :: v => v
          | v => v
        if value.isEmpty && rest.isEmpty then do
          let l ← l.settle
          pure { l with pending := some o }
        else l.apply c o (some (String.ofList value)) false
      else do
        let l ← l.apply c o none false
        readShorts c l rest

/-- Reads the tokens of one level until a command name starts the next level. A token after an
option that waits for its value is that value, even when it names a command; after `--` every
token is a plain value, which no option takes. -/
def readLevel (c : CmdSpec) : Level → List String → Except ArgError (Level × Option (String × List String))
  | l, [] => pure (l, none)
  | l, tok :: rest => do
    if l.plainValues then throw (strayToken c l tok)
    if l.pending.isNone && c.subcommands.any (·.1 == tok) then return (l, some (tok, rest))
    if tok == "--" then return ← readLevel c { l with plainValues := true } rest
    do
      if tok.startsWith "--" then
        let body := (tok.drop 2).toString
        let (name, attached) := match body.splitOn "=" with
          | [n] => (n, none)
          | n :: vs => (n, some ("=".intercalate vs))
          | [] => (body, none)
        match c.findLong name with
        | some o =>
          if o.kind.takesValue then
            match attached with
            | some v => return ← readLevel c (← l.apply c o (some v) true) rest
            | none =>
              let l ← l.settle
              return ← readLevel c { l with pending := some o } rest
          else
            match attached with
            | some v => throw (.unexpectedValue v o.display (c.usageWith (l.used ++ [o])))
            | none => return ← readLevel c (← l.apply c o none true) rest
        | none => throw (unknownLong c l name rest)
      if tok.startsWith "-" && tok.length > 1 then
        return ← readLevel c (← readShorts c l (tok.toList.drop 1)) rest
    match l.pending with
    | some o => readLevel c (← { l with pending := none }.apply c o (some tok) false) rest
    | none => throw (strayToken c l tok)

/-- The help `help` shows for the commands named after it. -/
def helpFor (names : List String) : ArgError :=
  match names with
  | [] => .displayHelp (programSpec.helpText true)
  | n :: rest =>
    match commandSpec? n with
    | none => .invalidSubcommand n [] programSpec.usage
    | some spec =>
      match rest with
      | [] => .displayHelp (spec.helpText true)
      | m :: _ => .invalidSubcommand m [] spec.usage

def textOf (l : Level) (k : OptKey) : Option String :=
  l.given.findSome? fun (o, g) => if o.key == k then (match g with | .text s => some s | _ => none) else none

def intOf (l : Level) (k : OptKey) : Option Int :=
  l.given.findSome? fun (o, g) => if o.key == k then (match g with | .int i => some i | _ => none) else none

def flagOf (l : Level) (k : OptKey) : Bool := l.given.any fun (o, _) => o.key == k

def readInvocation (tokens : List String) : Except ArgError Invocation := do
  let (top, next) ← readLevel programSpec {} tokens
  match next with
  | none =>
    let top ← top.settle
    if top.given.isEmpty then throw (.helpOnMissing (programSpec.helpText false))
    throw (.missingSubcommand programSpec.usage)
  | some (name, rest) =>
    if name == "help" then throw (helpFor rest)
    let spec := (commandSpec? name).getD pullSpec
    let (sub, _) ← readLevel spec {} rest
    let sub ← sub.settle
    let _ ← top.settle
    let text (k : OptKey) := (textOf sub k).orElse fun _ => textOf top k
    let lookBackHours := intOf sub .lookBackHours
    let pullArgs : PullArgs :=
      { stateFile := textOf sub OptKey.stateFile, sinkUrl := textOf sub OptKey.sinkUrl,
        dryRun := flagOf sub OptKey.dryRun, lookBackHours,
        batchSize := (intOf sub OptKey.batchSize).map Int.toNat }
    let command := if name == "auth" then Command.auth { lookBackHours } else Command.pull pullArgs
    pure { config := text .config, logLevel := text .logLevel,
           logJson := flagOf sub .logJson || flagOf top .logJson,
           pretty := flagOf sub .pretty || flagOf top .pretty, command }

end FleetTelemetry.Cli
