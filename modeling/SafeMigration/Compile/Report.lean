import SafeMigration.Error
import SafeMigration.InstructionSet

/-!
The results of compiling a list of sources, in the order of the list.
-/

namespace SafeMigration

/-- How the body of a compiled file came about. -/
inductive Outcome where
  /-- It was written out in this run. -/
  | compiled
  /-- It is the output that was there. -/
  | unchanged
  deriving DecidableEq, Repr

/-- The text of an outcome. -/
def Outcome.text : Outcome → String
  | compiled => "compiled"
  | unchanged => "unchanged"

/-- A source that was compiled. -/
structure CompiledFile where
  /-- What the source is called in reports. -/
  file : String
  /-- Its key in the lockfile. -/
  key : String
  sourcePath : String
  database : Option String
  sourceDigest : Digest
  compiledDigest : Digest
  outputPath : String
  body : String
  capabilities : List Capability
  outcome : Outcome
  deriving DecidableEq, Repr

/-- A source that could not be compiled. -/
structure FileFailure where
  /-- What the source is called in reports. -/
  file : String
  path : String
  error : MigrationError
  deriving DecidableEq, Repr

/-- The results of a list of sources. -/
structure Report where
  files : List (Except FileFailure CompiledFile) := []

namespace Report

/-- The sources that were compiled. -/
def compiled (report : Report) : List CompiledFile :=
  report.files.filterMap fun
    | .ok file => some file
    | .error _ => none

/-- The sources that could not be compiled. -/
def failures (report : Report) : List FileFailure :=
  report.files.filterMap fun
    | .ok _ => none
    | .error failure => some failure

/-- Whether every source was compiled. -/
def isSuccess (report : Report) : Bool := report.failures.isEmpty

/-- All compiled files, or every error. -/
def result (report : Report) : Except (List MigrationError) (List CompiledFile) :=
  if report.isSuccess then .ok report.compiled else .error (report.failures.map FileFailure.error)

end Report

end SafeMigration
