import SafeMigration.Cli.Arguments

/-!
What the command line asks for.

What the arguments do not say can stand in the environment. The database belongs to the commands that use it; the
other settings stand before the command.
-/

namespace SafeMigration.Cli

/-- A command with what it works on. -/
inductive Command where
  | compile (paths : List String) (database : Option String)
  | check (paths : List String)
  | status (paths : List String) (database : Option String)
  deriving DecidableEq, Repr

/-- The paths that a command works on. -/
def Command.paths : Command → List String
  | compile paths _ | check paths | status paths _ => paths

/-- The database that a command works for. -/
def Command.database : Command → Option String
  | compile _ database | status _ database => database
  | check _ => none

/-- What is to be run, and with which settings. -/
structure Invocation where
  config : String
  outputDirectory : Option String
  lockfile : Option String
  verbose : Bool
  command : Command
  deriving DecidableEq, Repr

namespace Invocation

/-- The name of the program. -/
def program : String := "oxide-guard"

/-- What the program says of its version. -/
def versionText : String := program ++ " 0.1.0\n"

/-- The settings that are looked for when no other are named. -/
def defaultConfig : String := "oxide-guard.yml"

/-- The directory that is worked on when no path is given. -/
def defaultPaths : List String := ["migrations"]

/-- The option that asks for help. -/
def helpSwitch : Switch := ⟨"help", 'h', .help⟩

/-- The option for the database. -/
def databaseSwitch : Switch := ⟨"database", 'd', .text⟩

/-- The options before the command. -/
def generalSwitches : List Switch :=
  [⟨"config", 'c', .path⟩, ⟨"output-dir", 'o', .path⟩, ⟨"lockfile", 'l', .path⟩, ⟨"verbose", 'v', .flag⟩,
   helpSwitch, ⟨"version", 'V', .version⟩]

/-- The commands that work on migrations. -/
def commands : List String := ["compile", "check", "status"]

/-- The environment variable that stands in for an option. -/
def environmentName? (option : String) : Option String :=
  [("config", "OXIDE_GUARD_CONFIG"), ("output-dir", "OXIDE_GUARD_OUTPUT_DIR"),
   ("lockfile", "OXIDE_GUARD_LOCKFILE"), ("database", "OXIDE_GUARD_DATABASE")].lookup option

/-- The value of an option, from the arguments or else from the environment. -/
def setting (given : Given) (environment : List (String × String)) (switch : Switch) :
    Except Halt (Option String) :=
  match given.value? switch.name with
  | some value => .ok (some value)
  | none =>
    match (environmentName? switch.name).bind fun name => environment.lookup name with
    | none => .ok none
    | some value =>
      if switch.kind = .path ∧ value.isEmpty then .error (.fault (.emptyValue ("--" ++ switch.name)))
      else .ok (some value)

/-- The paths that are given, or the default ones. -/
def pathsOf (given : Given) : List String :=
  if given.positional.isEmpty then defaultPaths else given.positional

/-- Reads a command and its arguments. -/
def readCommand (command : String) (arguments : List String) (environment : List (String × String)) :
    Except Halt Command := do
  if command = "check" then
    let given ← readArguments [helpSwitch] {} none arguments
    return .check (pathsOf given)
  else
    let given ← readArguments [databaseSwitch, helpSwitch] {} none arguments
    let database ← setting given environment databaseSwitch
    if command = "compile" then return .compile (pathsOf given) database
    else return .status (pathsOf given) database

/-- Asks for help on the program or on one of its commands. -/
def readHelp : List String → Halt
  | [] => .help
  | command :: rest =>
    if ("help" :: commands).contains command then
      match rest with
      | [] => .help
      | other :: _ => .fault (.unknownCommand other)
    else .fault (.unknownCommand command)

/-- Reads the command line. -/
def read (arguments : List String) (environment : List (String × String)) : Except Halt Invocation := do
  let (given, command, rest) ← readToCommand generalSwitches ("help" :: commands) {} none arguments
  if command = "help" then throw (readHelp rest)
  let command ← readCommand command rest environment
  let config ← setting given environment ⟨"config", 'c', .path⟩
  let outputDirectory ← setting given environment ⟨"output-dir", 'o', .path⟩
  let lockfile ← setting given environment ⟨"lockfile", 'l', .path⟩
  return {
    config := config.getD defaultConfig
    outputDirectory := outputDirectory
    lockfile := lockfile
    verbose := given.flags.contains "verbose"
    command := command }

/-- What the program says when it is asked for help. -/
def helpText : String :=
  "Safety compiler for database schema migrations\n\n" ++
    "Usage: " ++ program ++ " [OPTIONS] <COMMAND>\n\n" ++
    "Commands:\n" ++
    "  compile  Compile migration sources, reusing unchanged output\n" ++
    "  check    Validate migration sources without writing anything\n" ++
    "  status   Show which sources are up to date, stale, or tampered\n" ++
    "  help     Print this message or the help of the given subcommand(s)\n\n" ++
    "Options:\n" ++
    "  -c, --config <CONFIG>          Configuration file\n" ++
    "  -o, --output-dir <OUTPUT_DIR>  Directory compiled output is written to\n" ++
    "  -l, --lockfile <LOCKFILE>      Lockfile path\n" ++
    "  -v, --verbose                  Enable verbose output\n" ++
    "  -h, --help                     Print help\n" ++
    "  -V, --version                  Print version\n"

end Invocation

end SafeMigration.Cli
