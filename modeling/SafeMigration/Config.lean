import SafeMigration.Disk.Access
import SafeMigration.Source
import SafeMigration.Timeout.Policy

/-!
The settings of a project: where compiled output and the lockfile are, timeouts, and custom operations.
-/

namespace SafeMigration

/-- What has been read of a template. -/
structure TemplateFields where
  lock : Option LockWeight := none
  tableArgument : String := "table"
  statements : Option (List String) := none

namespace TemplateFields

/-- The fields of a template. -/
def fields : List (Yaml.Field TemplateFields) :=
  [.of "lock" (Yaml.maybe (Yaml.choice (LockWeight.all.map fun weight => (weight.name, weight))))
     fun template value => { template with lock := value },
   .of "table_argument" (Yaml.text "a string") fun template value =>
     { template with tableArgument := value },
   .of "sql" (Yaml.list (Yaml.text "a string")) fun template value =>
     { template with statements := some value }]

end TemplateFields

/-- Reads a template; keys without a meaning are passed over. -/
def Template.read : Yaml.Reader Template := fun place part => do
  let template ← Yaml.record "struct OperationTemplate" TemplateFields.fields false {} place part
  match template.statements with
  | some statements => return ⟨template.lock, template.tableArgument, statements⟩
  | none => .refuse place (.missingField "sql")

/-- Reads a span of time in whole seconds. -/
def Duration.read : Yaml.Reader Duration := fun place part => Duration.ofSeconds <$> Yaml.whole place part

namespace TimeoutConfig

/-- The fields of the settings for timeouts. -/
def fields : List (Yaml.Field TimeoutConfig) :=
  [.of "default_lock_timeout" Timeout.read fun config value => { config with defaultLock := value },
   .of "default_statement_timeout" Timeout.read fun config value =>
     { config with defaultStatement := value },
   .of "max_lock_timeout" Duration.read fun config value => { config with maxLock := value },
   .of "max_statement_timeout" Duration.read fun config value => { config with maxStatement := value },
   .of "min_concurrent_statement_timeout" Duration.read fun config value =>
     { config with minConcurrentStatement := value }]

/-- Reads the settings for timeouts; keys without a meaning are passed over. -/
def read : Yaml.Reader TimeoutConfig := Yaml.record "struct TimeoutConfig" fields false {}

end TimeoutConfig

/-- The settings of a project. -/
structure Config where
  outputDirectory : String := "compiled"
  lockfile : String := "oxide-guard.lock"
  timeouts : TimeoutConfig := {}
  customOperations : Entries Template := []
  deriving DecidableEq, Repr

namespace Config

/-- Reads the custom operations, by their names. -/
def readOperations : Yaml.Reader (Entries Template) :=
  Yaml.mapping "a map" [] fun operations place key valuePlace value => do
    let name ← Yaml.text "a string" place key
    return Entries.put operations name (← Template.read valuePlace value)

/-- The fields of the settings. -/
def fields : List (Yaml.Field Config) :=
  [.of "output_dir" (Yaml.text "path string") fun config value => { config with outputDirectory := value },
   .of "lockfile" (Yaml.text "path string") fun config value => { config with lockfile := value },
   .of "timeouts" TimeoutConfig.read fun config value => { config with timeouts := value },
   .of "custom_operations" readOperations fun config value => { config with customOperations := value }]

/-- Reads the settings. -/
def read : Yaml.Reader Config := Yaml.record "struct GuardConfig" fields true {}

/-- Fails for the default of a timeout that is above its maximum. -/
def checkDefault (timeout : TimeoutName) (default : Timeout) (maximum : Duration) :
    Except ConfigFault Unit :=
  match default with
  | .disabled => .ok ()
  | .limit d =>
    if maximum.nanoseconds < d.nanoseconds then
      .error (.defaultAboveMaximum timeout default (.limit maximum))
    else .ok ()

/-- Fails for settings that cannot be used, with the first reason. -/
def check (config : Config) : Except ConfigFault Unit := do
  if config.outputDirectory.isEmpty then throw (.emptyPath "output_dir")
  if config.lockfile.isEmpty then throw (.emptyPath "lockfile")
  checkDefault .lock config.timeouts.defaultLock config.timeouts.maxLock
  checkDefault .statement config.timeouts.defaultStatement config.timeouts.maxStatement
  match config.customOperations.find? (·.2.statements.isEmpty) with
  | some (name, _) => throw (.noStatements name)
  | none => return ()

/-- Reads settings from bytes that are text; the path is named when the document is at fault. -/
def ofBytes (bytes : ByteArray) (path : String) : Except MigrationError Config := do
  let config ← (Yaml.ofBytes read bytes).mapError (MigrationError.configDocument path)
  match config.check with
  | .ok () => return config
  | .error fault => throw (.config fault)

/-- Reads the settings at a path; without a file they are the default ones. -/
def load (path : String) (disk : Disk) : Except MigrationError Config :=
  if disk.holds path then
    match disk.readText path with
    | .error fault => .error (.access path fault)
    | .ok text => ofBytes text.toUTF8 path
  else .ok {}

/-- The custom operations, ready to be called. -/
def registry (config : Config) : Except MigrationError Registry :=
  Registry.ofTemplates config.customOperations

end Config

end SafeMigration
