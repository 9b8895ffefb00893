/-!
# The command line's grammar

The program `fleetsync` takes global options (`--config`, `--log-level`, `--log-json`,
`--pretty`), then one command: `pull` (with `--state-file`, `--sink-url`, `--dry-run`,
`--look-back-hours`, `--batch-size`) or `auth` (with `--look-back-hours`); `help` shows the help
of the program or of a command. Global options may also follow the command.

Every option has a long name, some a short one; an option either takes one value (shown as
`<NAME>`) or is a flag. Each command lists its options in a fixed order: its own options, then
the global ones, then `--help` (and `--version` for the program itself). Help texts list options
by display order, ties by name.
-/

namespace FleetTelemetry.Cli

def programName : String := "fleetsync"

def programVersion : String := "0.1.0"

inductive OptKey where
  | config | logLevel | logJson | pretty
  | stateFile | sinkUrl | dryRun | lookBackHours | batchSize
  | help | version
  deriving BEq, DecidableEq, Repr

inductive OptKind where
  | path
  | text
  | integer
  | count
  | flag
  | help
  | version
  deriving BEq, Repr

def OptKind.takesValue : OptKind → Bool
  | .path | .text | .integer | .count => true
  | _ => false

structure Opt where
  key : OptKey
  long : String
  short : Option Char := none
  kind : OptKind
  valueName : String := ""
  help : String := ""
  longHelp : Option String := none
  order : Nat := 999
  deriving Repr

/-- How an option is shown in messages: `--name` and, when it takes a value, `<VALUE>`. -/
def Opt.display (o : Opt) : String :=
  "--" ++ o.long ++ (if o.kind.takesValue then " <" ++ o.valueName ++ ">" else "")

structure CmdSpec where
  usageName : String
  about : String
  longAbout : Option String := none
  opts : List Opt
  subcommands : List (String × String) := []
  usageTail : String := " [OPTIONS]"
  positionals : List (String × String) := []

namespace CmdSpec

def hasLongHelp (c : CmdSpec) : Bool := c.longAbout.isSome || c.opts.any (·.longHelp.isSome)

def findLong (c : CmdSpec) (name : String) : Option Opt := c.opts.find? (·.long == name)

def findShort (c : CmdSpec) (ch : Char) : Option Opt := c.opts.find? (·.short == some ch)

end CmdSpec

def configOpt : Opt :=
  { key := .config, long := "config", kind := .path, valueName := "CONFIG", order := 0,
    help := "TOML configuration file. `FLEETSYNC_*` environment variables override it" }

def logLevelOpt : Opt :=
  { key := .logLevel, long := "log-level", kind := .text, valueName := "LOG_LEVEL", order := 1 }

def logJsonOpt : Opt := { key := .logJson, long := "log-json", kind := .flag, order := 2 }

def prettyOpt : Opt := { key := .pretty, long := "pretty", kind := .flag, order := 3 }

def globalOpts : List Opt := [configOpt, logLevelOpt, logJsonOpt, prettyOpt]

/-- The `--help` flag of a command, worded by whether the command has a long help. -/
def helpOpt (hasLong : Bool) : Opt :=
  if hasLong then
    { key := .help, long := "help", short := some 'h', kind := .help,
      help := "Print help (see more with '--help')", longHelp := some "Print help (see a summary with '-h')" }
  else { key := .help, long := "help", short := some 'h', kind := .help, help := "Print help" }

def versionOpt : Opt :=
  { key := .version, long := "version", short := some 'V', kind := .version, help := "Print version" }

/-- The `--look-back-hours` option, at its place in a command. -/
def lookBackOpt (order : Nat) : Opt :=
  { key := .lookBackHours, long := "look-back-hours", kind := .integer, valueName := "LOOK_BACK_HOURS", order }

def pullAbout : String := "Pull observations changed since the last checkpoint and send them on"

def authAbout : String := "Check that the configured credentials are accepted by the vendor"

def helpAbout : String := "Print this message or the help of the given subcommand(s)"

def programSpec : CmdSpec :=
  { usageName := programName, about := "Incremental Galooli telemetry puller",
    opts := globalOpts ++ [helpOpt false, versionOpt],
    subcommands := [("pull", pullAbout), ("auth", authAbout), ("help", helpAbout)],
    usageTail := " [OPTIONS] <COMMAND>" }

def pullSpec : CmdSpec :=
  { usageName := programName ++ " pull", about := pullAbout,
    longAbout := some (pullAbout ++ ".\n\n# Examples\n\nfleetsync pull --config fleetsync.toml fleetsync pull --state-file state.json --dry-run"),
    opts := [{ key := .stateFile, long := "state-file", kind := .path, valueName := "STATE_FILE", order := 0,
               help := "JSON snapshot for device state and checkpoints" },
             { key := .sinkUrl, long := "sink-url", kind := .text, valueName := "SINK_URL", order := 1,
               help := "Downstream endpoint receiving observation batches" },
             { key := .dryRun, long := "dry-run", kind := .flag, order := 2,
               help := "Write observations to stdout as NDJSON instead of the sink" },
             lookBackOpt 3,
             { key := .batchSize, long := "batch-size", kind := .count, valueName := "BATCH_SIZE", order := 4 }]
      ++ globalOpts ++ [helpOpt true] }

def authSpec : CmdSpec :=
  { usageName := programName ++ " auth", about := authAbout,
    longAbout := some (authAbout ++ ".\n\n# Examples\n\nfleetsync auth --config fleetsync.toml"),
    opts := [lookBackOpt 0] ++ globalOpts ++ [helpOpt true] }

def helpSpec : CmdSpec :=
  { usageName := programName ++ " help", about := helpAbout, opts := [], usageTail := " [COMMAND]...",
    positionals := [("[COMMAND]...", "Print help for the subcommand(s)")] }

def commandSpec? : String → Option CmdSpec
  | "pull" => some pullSpec
  | "auth" => some authSpec
  | "help" => some helpSpec
  | _ => none

end FleetTelemetry.Cli
