import SafeMigration.Disk.Access
import SafeMigration.Migration
import SafeMigration.Path
import SafeMigration.Yaml.Shape

/-!
Migrations written as documents: a list of calls for each direction, and what is said about the migration.
-/

namespace SafeMigration

/-- What the document of a migration says. -/
structure MigrationSource where
  name : Option String := none
  database : Option String := none
  lockTimeout : Option Timeout := none
  statementTimeout : Option Timeout := none
  /-- The calls of a direction; without them the direction has no procedure. -/
  up : Option (List Call) := none
  down : Option (List Call) := none

/-- What has been read of a call: its operation and its arguments. -/
structure CallEntries where
  operation : Option String := none
  arguments : List (String × Yaml.Value) := []

namespace CallEntries

/-- Reads an entry of a call. -/
def read : Yaml.EntryReader CallEntries := fun entries place key valuePlace value => do
  let name ← Yaml.text "field identifier" place key
  if name = "op" then
    if entries.operation.isSome then .refuse place (.duplicateField name)
    else return { entries with operation := some (← Yaml.text "a string" valuePlace value) }
  else return { entries with arguments := entries.arguments ++ [(name, ← Yaml.freeForm valuePlace value)] }

/-- The values of arguments as JSON. -/
def jsonArguments (place : Place) : List (String × Yaml.Value) → Except DocumentFault (List (String × Json))
  | [] => .ok []
  | (name, value) :: rest =>
    match value.json with
    | .ok json => (jsonArguments place rest).map ((name, json) :: ·)
    | .error mismatch => .error (.mismatch place mismatch)

/-- The call of its entries. -/
def call (place : Place) (entries : CallEntries) : Except DocumentFault Call :=
  match entries.operation with
  | none => .error (.mismatch place (.missingField "op"))
  | some operation =>
    (jsonArguments place entries.arguments).map fun fields => ⟨operation, Entries.ofPairs fields⟩

end CallEntries

/-- Reads a call: its operation under `op`, and every other key as an argument. -/
def Call.read : Yaml.Reader Call := fun place part => do
  let entries ← Yaml.mapping "struct Call" {} CallEntries.read place part
  match entries.call place with
  | .ok call => return call
  | .error fault => .fail fault

/-- Reads a timeout in whole seconds. -/
def Timeout.read : Yaml.Reader Timeout := fun place part => Timeout.ofSeconds <$> Yaml.whole place part

namespace MigrationSource

/-- The fields of the document of a migration. -/
def fields : List (Yaml.Field MigrationSource) :=
  [.of "name" (Yaml.maybe (Yaml.text "a string")) fun source value => { source with name := value },
   .of "database" (Yaml.maybe (Yaml.text "a string")) fun source value => { source with database := value },
   .of "lock_timeout" (Yaml.maybe Timeout.read) fun source value => { source with lockTimeout := value },
   .of "statement_timeout" (Yaml.maybe Timeout.read) fun source value =>
    { source with statementTimeout := value },
   .of "up" (Yaml.maybe (Yaml.list Call.read)) fun source value => { source with up := value },
   .of "down" (Yaml.maybe (Yaml.list Call.read)) fun source value => { source with down := value }]

/-- Reads the document of a migration. -/
def read : Yaml.Reader MigrationSource := Yaml.record "struct MigrationSource" fields true {}

/-- Reads the document of a migration from bytes; the path is named when that fails. -/
def ofBytes (bytes : ByteArray) (path : String) : Except MigrationError MigrationSource :=
  (Yaml.ofBytes read bytes).mapError (MigrationError.source path)

/-- Reads the document of a migration at a path. -/
def load (path : String) (disk : Disk) : Except MigrationError MigrationSource :=
  match disk.read path with
  | .error fault => .error (.access path fault)
  | .ok content => ofBytes content path

/-- The migration of a document. -/
def migration (source : MigrationSource) (defaultName : String) (registry : Registry) : Migration :=
  { name := source.name.getD defaultName
    database := source.database
    lockTimeout := source.lockTimeout
    statementTimeout := source.statementTimeout
    up := source.up.map (Procedure.ofCalls .up registry)
    down := source.down.map (Procedure.ofCalls .down registry) }

end MigrationSource

/-- The migration in a file with some content; it is named after the file unless it has a name of its own. -/
def Migration.ofBytes (bytes : ByteArray) (path : String) (registry : Registry) :
    Except MigrationError Migration :=
  (MigrationSource.ofBytes bytes path).map fun source => source.migration (Path.stem path) registry

end SafeMigration
