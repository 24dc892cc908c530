import SafeMigration.Digest.Basic
import SafeMigration.Json.Value
import SafeMigration.Timeout.Basic
import SafeMigration.Violation
import SafeMigration.Yaml.Vocabulary

/-!
What can go wrong on the way from a source to its compiled output, and the text of each case.
-/

namespace SafeMigration

/-- Why a file cannot be read or written. -/
inductive AccessFault where
  | notFound
  | alreadyExists
  | notDirectory
  | isDirectory
  | invalidPath
  | busy
  | nameTooLong
  /-- A path with the character zero. -/
  | zeroInPath
  /-- The content is not text. -/
  | notText
  deriving DecidableEq, Repr

/-- The text of a fault of access. -/
def AccessFault.message : AccessFault → String
  | notFound => "No such file or directory (os error 2)"
  | alreadyExists => "File exists (os error 17)"
  | notDirectory => "Not a directory (os error 20)"
  | isDirectory => "Is a directory (os error 21)"
  | busy => "Device or resource busy (os error 16)"
  | invalidPath => "Invalid argument (os error 22)"
  | nameTooLong => "File name too long (os error 36)"
  | zeroInPath => "file name contained an unexpected NUL byte"
  | notText => "stream did not contain valid UTF-8"

/-- Which of the two timeouts is meant. -/
inductive TimeoutName where
  | lock
  | statement
  deriving DecidableEq, Repr

/-- The name of a timeout in settings. -/
def TimeoutName.name : TimeoutName → String
  | lock => "lock"
  | statement => "statement"

/-- Why a configuration cannot be used. -/
inductive ConfigFault where
  /-- A custom operation has the name of a built-in one. -/
  | reservedName (operation : String)
  /-- A path that has to be given is empty. -/
  | emptyPath (setting : String)
  /-- The default of a timeout is above its own maximum. -/
  | defaultAboveMaximum (timeout : TimeoutName) (default maximum : Timeout)
  /-- A custom operation without statements. -/
  | noStatements (operation : String)
  /-- Any other reason, in words. -/
  | other (text : String)
  deriving DecidableEq, Repr

/-- The text of a fault of configuration. -/
def ConfigFault.message : ConfigFault → String
  | reservedName operation =>
    "custom operation '" ++ operation ++ "' shadows a built-in operation"
  | emptyPath setting => setting ++ " cannot be empty"
  | defaultAboveMaximum timeout default maximum =>
    "default_" ++ timeout.name ++ "_timeout (" ++ default.text ++ ") exceeds max_" ++ timeout.name ++
      "_timeout (" ++ maximum.text ++ ")"
  | noStatements operation => "custom operation '" ++ operation ++ "' has no sql"
  | other text => text

/-- What can go wrong with one migration. -/
inductive MigrationError where
  | access (path : String) (fault : AccessFault)
  | source (path : String) (fault : DocumentFault)
  | configDocument (path : String) (fault : DocumentFault)
  | lockfile (path : String) (fault : DocumentFault)
  | unknownOperation (name : String)
  | invalidArgument (operation : String) (mismatch : Mismatch)
  | notImplemented (migration : String) (direction : Direction)
  /-- The migration breaks rules of safety. -/
  | rejected (migration : String) (violations : List Violation)
  /-- Compiled output is not what was written. -/
  | integrity (file output : String) (expected actual : Digest)
  /-- Several sources have the same output. -/
  | outputCollision (file output : String) (others : List String)
  | databaseMismatch (file declared requested : String)
  /-- An index is dropped that is given neither by name nor by columns. -/
  | namelessIndex (table : String)
  | config (fault : ConfigFault)
  deriving DecidableEq, Repr

namespace MigrationError

/-- A text in single quotes. -/
def quoted (s : String) : String := "'" ++ s ++ "'"

/-- The reason given by another party, which stands at the end of the message. -/
def cause? : MigrationError → Option String
  | access _ fault => some fault.message
  | source _ fault => some (fault.message Yaml.vocabulary)
  | configDocument _ fault => some (fault.message Yaml.vocabulary)
  | lockfile _ fault => some (fault.message Json.vocabulary)
  | _ => none

/-- The text of an error. -/
def message : MigrationError → String
  | access path fault => "Failed to access " ++ quoted path ++ ": " ++ fault.message
  | source path fault =>
    "Failed to parse migration source " ++ quoted path ++ ": " ++ fault.message Yaml.vocabulary
  | configDocument path fault =>
    "Failed to parse config " ++ quoted path ++ ": " ++ fault.message Yaml.vocabulary
  | lockfile path fault =>
    "Lockfile " ++ quoted path ++ " is malformed: " ++ fault.message Json.vocabulary
  | unknownOperation name => "Unknown operation " ++ quoted name
  | invalidArgument operation mismatch =>
    "Invalid arguments for " ++ quoted operation ++ ": " ++ mismatch.message Json.vocabulary
  | notImplemented migration direction =>
    "Migration " ++ quoted migration ++ " does not implement " ++ quoted direction.name
  | rejected migration violations =>
    "Migration " ++ quoted migration ++ " is unsafe:\n" ++ reportText violations
  | integrity file output expected actual =>
    "Compiled output " ++ quoted output ++ " was modified after compilation (expected digest " ++
      expected.hex ++ ", found " ++ actual.hex ++ "); regenerate it from " ++ quoted file ++
      " instead of editing it"
  | outputCollision file output others =>
    "Migration " ++ quoted file ++ " compiles to " ++ quoted output ++
      ", which is also the output of " ++ String.intercalate ", " (others.map quoted) ++
      "; rename one of them"
  | databaseMismatch file declared requested =>
    "Migration " ++ quoted file ++ " targets database " ++ quoted declared ++
      " but compilation is for " ++ quoted requested
  | namelessIndex table =>
    "Render error: cannot identify the index to remove on " ++ quoted table
  | config fault => "Invalid config: " ++ fault.message

/-- Whether an error says that compiled output was edited. -/
def isIntegrityViolation : MigrationError → Bool
  | integrity .. => true
  | _ => false

end MigrationError

/-- The text of several errors together; a single one stands for itself. -/
def errorsText : List MigrationError → String
  | [e] => e.message
  | errors =>
    "Multiple errors occurred:\n" ++
      String.intercalate "\n" (errors.map fun e => "  - " ++ e.message)

end SafeMigration
