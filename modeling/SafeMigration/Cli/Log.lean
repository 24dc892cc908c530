import SafeMigration.Compile.Compiler

/-!
What is logged while sources are compiled.

The lines follow from what the compiler is given; they are not needed for what it does. Lines at the level of debugging
are for those who ask for them.
-/

namespace SafeMigration.Cli

/-- How important a line is. -/
inductive LogLevel where
  | debug
  | info
  | warn
  deriving DecidableEq, Repr

/-- The name of a level, five characters wide. -/
def LogLevel.label : LogLevel → String
  | debug => "DEBUG"
  | info => " INFO"
  | warn => " WARN"

/-- A line of the log: a message, and named values. -/
structure LogLine where
  level : LogLevel
  message : String
  fields : List (String × String) := []
  deriving DecidableEq, Repr

namespace LogLine

/-- The text of a line. -/
def text (line : LogLine) : String :=
  line.level.label ++ " " ++ line.message ++
    String.join (line.fields.map fun field => " " ++ field.1 ++ "=" ++ field.2)

/-- The lines of reading the settings. -/
def ofConfig (path : String) (disk : Disk) : List LogLine :=
  if disk.holds path then
    match Config.load path disk with
    | .ok _ => [⟨.debug, "Loaded config", [("path", path)]⟩]
    | .error _ => []
  else [⟨.debug, "No config file, using defaults", [("path", path)]⟩]

/-- The lines of making custom operations known, up to the first with a reserved name. -/
def ofOperations (config : Config) : List LogLine :=
  (config.customOperations.takeWhile fun entry => (Operation.ofName? entry.1).isNone).map fun entry =>
    ⟨.debug, "Registering custom operation", [("operation", entry.1)]⟩

/-- The lines of reading a lockfile. -/
def ofLockfile (lockfile : Lockfile) (disk : Disk) : List LogLine :=
  if disk.holds lockfile.path then
    match lockfile.entries disk with
    | .ok ledger =>
      [⟨.debug, "Loaded lockfile", [("path", lockfile.path), ("entries", toString ledger.length)]⟩]
    | .error _ => []
  else [⟨.debug, "No lockfile yet, starting empty", [("path", lockfile.path)]⟩]

/-- The lines of recording a direction, and whether that succeeds. What is recorded before a call fails is logged. -/
def ofDirection (migration : String) (direction : Direction) (calls : Option (List Call)) (registry : Registry) :
    List LogLine × Bool :=
  match calls with
  | none => ([], false)
  | some calls =>
    let (recorder, failure) := (Recorder.new direction registry).replay calls
    let instructions := recorder.recorded.instructions
    let recorded := instructions.map fun instruction =>
      LogLine.mk .debug "Recorded instruction"
        [("direction", direction.name), ("instruction", instruction.description)]
    match failure with
    | some _ => (recorded, false)
    | none =>
      (recorded ++ [⟨.debug, "Recorded migration direction",
        [("migration", migration), ("direction", direction.name),
          ("count", toString instructions.length)]⟩], true)

/-- The lines of recording the directions of a source. If the first fails, the second may be left alone. -/
def ofSource (compiler : Compiler) (path : String) (content : ByteArray) (both : Bool) : List LogLine :=
  match MigrationSource.ofBytes content path with
  | .error _ => []
  | .ok source =>
    let name := source.name.getD (Path.stem path)
    let (up, succeeded) := ofDirection name .up source.up compiler.registry
    if succeeded || both then up ++ (ofDirection name .down source.down compiler.registry).1 else up

/-- The lines of a compiled file. -/
def ofCompiled (compiler : Compiler) (file : CompiledFile) : LogLine :=
  match file.outcome with
  | .unchanged => ⟨.info, "Unchanged", [("file", file.file)]⟩
  | .compiled =>
    ⟨.info, "Compiled",
      [("file", file.file), ("renderer", "\"" ++ compiler.renderer.name ++ "\""),
        ("digest", "\"" ++ file.compiledDigest.short 12 ++ "\"")]⟩

/-- The lines of recording a source for compiling it. A migration for another database is not recorded. -/
def ofRebuild (compiler : Compiler) (path : String) (database : Option String) (content : ByteArray) :
    List LogLine :=
  match Migration.ofBytes content path compiler.registry with
  | .error _ => []
  | .ok migration =>
    match Compiler.requireDatabase migration (Path.label path) database with
    | .error _ => []
    | .ok () => ofSource compiler path content true

/-- The lines of comparing digests and recording a source. -/
def ofInspection (compiler : Compiler) (path : String) (database : Option String) (ledger : Ledger)
    (disk : Disk) : List LogLine :=
  match compiler.inspect path database ledger disk with
  | .error _ => []
  | .ok ⟨content, status⟩ =>
    ⟨.debug, "Checked digests", [("file", Path.label path), ("status", status.text)]⟩ ::
      (match status with
      | .upToDate _ => ofSource compiler path content false
      | .tampered .. => []
      | .stale | .neverCompiled | .missingOutput => ofRebuild compiler path database content)

/-- The lines of one result. Sources that share an output are not looked at. -/
def ofResult (compiler : Compiler) (database : Option String) (ledger : Ledger) (disk : Disk) :
    Except FileFailure CompiledFile → List LogLine
  | .ok file => ofInspection compiler file.sourcePath database ledger disk ++ [ofCompiled compiler file]
  | .error failure =>
    (match failure.error with
    | .outputCollision .. => []
    | _ => ofInspection compiler failure.path database ledger disk) ++
      [⟨.warn, "Compilation failed", [("file", failure.file), ("error", failure.error.message)]⟩]

/-- The lines of a report. -/
def ofReport (compiler : Compiler) (database : Option String) (ledger : Ledger) (disk : Disk)
    (report : Report) : List LogLine :=
  report.files.flatMap (ofResult compiler database ledger disk)

/-- The lines of validating a source. -/
def ofCheck (compiler : Compiler) (path : String) (disk : Disk) : List LogLine :=
  match Compiler.readSource path disk with
  | .error _ => []
  | .ok content => ofSource compiler path content true

end LogLine

end SafeMigration.Cli
