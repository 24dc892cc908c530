import SafeMigration.Cli.Invocation
import SafeMigration.Cli.Log
import SafeMigration.Compile.Commit
import SafeMigration.Compile.Discovery

/-!
Running a command: what it prints, whether it fails, and what it leaves on the disk.
-/

namespace SafeMigration.Cli

/-- Something that is printed. -/
inductive Printed where
  | line (text : String)
  | log (line : LogLine)
  deriving DecidableEq, Repr

/-- Why a command fails. -/
inductive Failure where
  | error (error : MigrationError)
  /-- So many of the sources could not be compiled. -/
  | notCompiled (failed total : Nat)
  /-- So many of the sources are not safe. -/
  | notSafe (failed total : Nat)
  deriving DecidableEq, Repr

namespace Failure

/-- The text of a failure. -/
def message : Failure → String
  | error e => e.message
  | notCompiled failed total => toString failed ++ " of " ++ toString total ++ " migration(s) failed"
  | notSafe failed total => toString failed ++ " of " ++ toString total ++ " migration(s) are unsafe"

/-- The reason behind a failure. -/
def cause? : Failure → Option String
  | error e => e.cause?
  | _ => none

/-- A text with every line indented. -/
def indented (text : String) : String :=
  String.ofList (("    ".toList) ++ text.toList.flatMap fun c => if c == '\n' then "\n    ".toList else [c])

/-- What is printed for a failure. -/
def report (failure : Failure) : String :=
  "Error: " ++ failure.message ++
    (match failure.cause? with
    | some cause => "\n\nCaused by:\n" ++ indented cause
    | none => "") ++ "\n"

end Failure

/-- The run of a command. -/
structure Run where
  printed : List Printed
  failure : Option Failure
  disk : Disk

namespace Run

/-- The run that fails with an error before it changes anything. -/
def failed (printed : List Printed) (e : MigrationError) (disk : Disk) : Run :=
  ⟨printed, some (.error e), disk⟩

/-- Lines of the log. -/
def logged (lines : List LogLine) : List Printed := lines.map .log

/-- A line for people who follow the run. -/
def info (message : String) : Printed := .log ⟨.info, message, []⟩

/-- The lines for the result of compiling one source. -/
def resultLines : Except FileFailure CompiledFile → List Printed
  | .ok file =>
    let outcome := file.outcome.text
    let padding := String.ofList (List.replicate (10 - outcome.length) ' ')
    [.line (" " ++ outcome ++ padding ++ " " ++ file.file ++ " -> " ++ file.outputPath)]
  | .error failure => [.line (" FAILED     " ++ failure.file), .line failure.error.message]

/-- Compiles sources and commits the report. -/
def compile (compiler : Compiler) (paths : List String) (database : Option String) (disk : Disk) : Run :=
  let lockfile : Lockfile := { path := compiler.config.lockfile }
  match Discovery.discover disk paths with
  | .error e => failed [] e disk
  | .ok sources =>
    match lockfile.entries disk with
    | .error e => failed [] e disk
    | .ok ledger =>
      let report := compiler.compileAll sources database ledger disk
      let printed := logged (LogLine.ofLockfile lockfile disk) ++
        logged (LogLine.ofReport compiler database ledger disk report) ++ report.files.flatMap resultLines
      match Commit.ofReport report (lockfile.asked disk) disk with
      | (.error e, state) => failed printed e state.disk
      | (.ok (), state) =>
        let saved : LogLine := ⟨.info, "Saved lockfile",
          [("path", lockfile.path), ("entries", toString ((state.lockfile.known.getD []).length))]⟩
        let failures := report.failures.length
        { printed := printed ++
            [.log saved, info ("Wrote " ++ toString state.written ++ " compiled file(s).")]
          failure := if failures = 0 then none else some (.notCompiled failures report.files.length)
          disk := state.disk }

/-- The lines for the check of one source, and whether it is safe. -/
def checkLines (compiler : Compiler) (disk : Disk) (path : String) : List Printed × Bool :=
  match compiler.check path disk with
  | .ok () => (logged (LogLine.ofCheck compiler path disk) ++ [.line (" ok         " ++ path)], true)
  | .error e =>
    (logged (LogLine.ofCheck compiler path disk) ++ [.line (" FAILED     " ++ path), .line e.message], false)

/-- Validates sources. -/
def check (compiler : Compiler) (paths : List String) (disk : Disk) : Run :=
  match Discovery.discover disk paths with
  | .error e => failed [] e disk
  | .ok sources =>
    let results := sources.map (checkLines compiler disk)
    let printed := results.flatMap (·.1)
    let failures := (results.filter fun result => !result.2).length
    if failures = 0 then
      ⟨printed ++ [info ("All " ++ toString sources.length ++ " migration(s) passed.")], none, disk⟩
    else ⟨printed, some (.notSafe failures sources.length), disk⟩

/-- What a status is marked with. -/
def marker : FileStatus → String
  | .upToDate _ => "[X]"
  | .tampered .. => "[!]"
  | .stale | .neverCompiled | .missingOutput => "[ ]"

/-- The lines for the status of one source. -/
def statusLine (entry : StatusEntry) : Printed :=
  .line (" " ++ marker entry.status ++ " " ++ entry.key ++ " (" ++ entry.status.text ++ ")")

/-- The lines of reading the lockfile for the status of some sources. It is read after the first of them. -/
def statusLog (sources : List String) (lockfile : Lockfile) (disk : Disk) : List Printed :=
  match sources with
  | path :: _ => if disk.isFile path then logged (LogLine.ofLockfile lockfile disk) else []
  | [] => []

/-- Shows the status of sources. -/
def status (compiler : Compiler) (paths : List String) (database : Option String) (disk : Disk) : Run :=
  let lockfile : Lockfile := { path := compiler.config.lockfile }
  match Discovery.discover disk paths with
  | .error e => failed [] e disk
  | .ok sources =>
    let log := statusLog sources lockfile disk
    match compiler.status sources database lockfile disk with
    | .error e => failed log e disk
    | .ok [] => ⟨log ++ [info "No migration sources found."], none, disk⟩
    | .ok entries =>
      let heading : List Printed :=
        [.line "", .line "Migration status:", .line (String.ofList (List.replicate 60 '-'))]
      ⟨log ++ heading ++ entries.map statusLine ++ [.line ""], none, disk⟩

/-- Runs a command with a compiler. -/
def ofCommand (compiler : Compiler) (command : Command) (disk : Disk) : Run :=
  match command with
  | .compile paths database => compile compiler paths database disk
  | .check paths => check compiler paths disk
  | .status paths database => status compiler paths database disk

/-- The settings of a run: what the command line says goes before what the document says. -/
def settings (invocation : Invocation) (loaded : Config) : Config :=
  { loaded with
    outputDirectory := invocation.outputDirectory.getD loaded.outputDirectory
    lockfile := invocation.lockfile.getD loaded.lockfile }

/-- Runs what the command line asks for. -/
def ofInvocation (invocation : Invocation) (disk : Disk) : Run :=
  let configLog := logged (LogLine.ofConfig invocation.config disk)
  match Config.load invocation.config disk with
  | .error e => failed configLog e disk
  | .ok loaded =>
    let config := settings invocation loaded
    let log := configLog ++ logged (LogLine.ofOperations config)
    match config.registry with
    | .error e => failed log e disk
    | .ok registry =>
      let run := ofCommand { config := config, registry := registry } invocation.command disk
      { run with printed := log ++ run.printed }

/-- The text of what is printed; of the log, lines for debugging only if they are asked for. -/
def text (run : Run) (verbose : Bool) : String :=
  String.join (run.printed.filterMap fun
    | .line text => some (text ++ "\n")
    | .log line => if line.level = .debug && !verbose then none else some (line.text ++ "\n"))

end Run

/-- What a run of the program has to show for itself. -/
structure Output where
  status : Nat
  stdout : String
  stderr : String
  deriving DecidableEq, Repr

/-- Runs the program with arguments in an environment. -/
def run (arguments : List String) (environment : List (String × String)) (disk : Disk) : Output × Disk :=
  match Invocation.read arguments environment with
  | .error .help => (⟨0, Invocation.helpText, ""⟩, disk)
  | .error .version => (⟨0, Invocation.versionText, ""⟩, disk)
  | .error (.fault fault) =>
    (⟨2, "", "error: " ++ fault.message ++ "\n\nFor more information, try '--help'.\n"⟩, disk)
  | .ok invocation =>
    let run := Run.ofInvocation invocation disk
    match run.failure with
    | none => (⟨0, run.text invocation.verbose, ""⟩, run.disk)
    | some failure => (⟨1, run.text invocation.verbose, failure.report⟩, run.disk)

end SafeMigration.Cli
