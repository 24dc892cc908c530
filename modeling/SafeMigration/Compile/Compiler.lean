import SafeMigration.Compile.Report
import SafeMigration.Compile.Status
import SafeMigration.Config
import SafeMigration.Script.Renderer

/-!
Compiling sources, as far as that is needed.

A source whose digest and whose output's digest are as recorded keeps its output. Otherwise it is validated and
written out anew, except that an edited output is an error. Compiling changes nothing on the disk.
-/

namespace SafeMigration

/-- The settings that sources are compiled with. -/
structure Compiler where
  config : Config := {}
  registry : Registry := {}
  renderer : Renderer := .postgres

/-- The status of one source. -/
structure StatusEntry where
  file : String
  key : String
  status : FileStatus
  deriving DecidableEq, Repr

namespace Compiler

/-- Where the output of a source belongs. -/
def outputPath (compiler : Compiler) (source : String) (database : Option String) : String :=
  let directory := match database with
    | some database => Path.join compiler.config.outputDirectory database
    | none => compiler.config.outputDirectory
  Path.join directory (Path.stem source ++ "." ++ compiler.renderer.fileExtension)

/-- The content of a source. -/
def readSource (path : String) (disk : Disk) : Except MigrationError ByteArray :=
  (disk.read path).mapError (MigrationError.access path)

/-- What is found out about a source before it is compiled. -/
structure Inspection where
  content : ByteArray
  status : FileStatus

/-- Reads a source and compares digests. -/
def inspect (compiler : Compiler) (path : String) (database : Option String) (ledger : Ledger) (disk : Disk) :
    Except MigrationError Inspection := do
  let content ← readSource path disk
  let record := Entries.get? ledger (Ledger.key (Path.label path) database)
  let status ← FileStatus.detect record (Digest.of content) (compiler.outputPath path database) disk
  return ⟨content, status⟩

/-- A compiled file with a body. -/
def fileWith (compiler : Compiler) (path : String) (database : Option String) (content : ByteArray)
    (body : String) (capabilities : List Capability) (outcome : Outcome) : CompiledFile :=
  { file := Path.label path
    key := Ledger.key (Path.label path) database
    sourcePath := path
    database := database
    sourceDigest := Digest.of content
    compiledDigest := Digest.ofText body
    outputPath := compiler.outputPath path database
    body := body
    capabilities := capabilities
    outcome := outcome }

/-- Keeps the output of a source. Its directions are recorded for what they need, and not judged. -/
def reuse (compiler : Compiler) (path : String) (database : Option String) (content : ByteArray)
    (body : String) : Except MigrationError CompiledFile := do
  let migration ← Migration.ofBytes content path compiler.registry
  let capabilities ← (migration.capabilities {}).1
  return compiler.fileWith path database content body capabilities .unchanged

/-- Fails for a migration that is meant for another database than the one it is compiled for. -/
def requireDatabase (migration : Migration) (file : String) (database : Option String) :
    Except MigrationError Unit :=
  match database, migration.database with
  | some requested, some declared =>
    if requested = declared then .ok () else .error (.databaseMismatch file declared requested)
  | _, _ => .ok ()

/-- Validates a source and writes it out. -/
def rebuild (compiler : Compiler) (path : String) (database : Option String) (content : ByteArray) :
    Except MigrationError CompiledFile := do
  let migration ← Migration.ofBytes content path compiler.registry
  requireDatabase migration (Path.label path) database
  let validated ← (migration.validated compiler.config.timeouts {}).1
  let body ← compiler.renderer.render validated
  return compiler.fileWith path database content body validated.capabilities .compiled

/-- Compiles one source. -/
def compileFile (compiler : Compiler) (path : String) (database : Option String) (ledger : Ledger)
    (disk : Disk) : Except MigrationError CompiledFile :=
  match compiler.inspect path database ledger disk with
  | .error e => .error e
  | .ok ⟨content, .upToDate body⟩ => compiler.reuse path database content body
  | .ok ⟨_, .tampered expected actual⟩ =>
    .error (.integrity (Path.label path) (compiler.outputPath path database) expected actual)
  | .ok ⟨content, .stale⟩ | .ok ⟨content, .neverCompiled⟩ | .ok ⟨content, .missingOutput⟩ =>
    compiler.rebuild path database content

/-- The sources with the same output as the one at an index, apart from that one. -/
def rivals (targets : List (String × String)) (index : Nat) (output : String) : List String :=
  targets.zipIdx.filterMap fun ((path, other), i) => if i ≠ index ∧ other = output then some path else none

/-- Compiles a list of sources. Those with the same output all fail. -/
def compileAll (compiler : Compiler) (sources : List String) (database : Option String) (ledger : Ledger)
    (disk : Disk) : Report :=
  let targets := sources.map fun path => (path, compiler.outputPath path database)
  ⟨targets.zipIdx.map fun ((path, output), index) =>
    let result := match rivals targets index output with
      | [] => compiler.compileFile path database ledger disk
      | others => .error (.outputCollision (Path.label path) output others)
    result.mapError (FileFailure.mk (Path.label path) path)⟩

/-- Compiles a list of sources by what a lockfile remembers. Only a lockfile that cannot be read fails all of them. -/
def compile (compiler : Compiler) (sources : List String) (database : Option String) (lockfile : Lockfile)
    (disk : Disk) : Except MigrationError Report :=
  (lockfile.entries disk).map fun ledger => compiler.compileAll sources database ledger disk

/-- Validates one source. -/
def check (compiler : Compiler) (path : String) (disk : Disk) : Except MigrationError Unit := do
  let content ← readSource path disk
  let migration ← Migration.ofBytes content path compiler.registry
  requireSafe migration.name (migration.validate compiler.config.timeouts {}).1

/-- The status of one source. The source is read before the lockfile. -/
def fileStatus (compiler : Compiler) (path : String) (database : Option String) (lockfile : Lockfile)
    (disk : Disk) : Except MigrationError StatusEntry := do
  let content ← readSource path disk
  let key := Ledger.key (Path.label path) database
  let record ← lockfile.get? disk key
  let status ← FileStatus.detect record (Digest.of content) (compiler.outputPath path database) disk
  return ⟨Path.label path, key, status⟩

/-- The status of every source, up to the first that has none. -/
def status (compiler : Compiler) (sources : List String) (database : Option String) (lockfile : Lockfile)
    (disk : Disk) : Except MigrationError (List StatusEntry) :=
  sources.mapM fun path => compiler.fileStatus path database lockfile disk

/-- The lockfile after the status of some sources: its ledger is known as soon as one source could be read. -/
def lockfileAfterStatus (sources : List String) (lockfile : Lockfile) (disk : Disk) : Lockfile :=
  match sources with
  | path :: _ => if disk.isFile path then lockfile.asked disk else lockfile
  | [] => lockfile

end Compiler

end SafeMigration
