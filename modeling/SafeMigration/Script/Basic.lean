import SafeMigration.Script.Statement
import SafeMigration.Validation.Validator

/-!
The script that a validated migration is compiled to: a header of comments, then a section for each direction.

A direction runs inside a transaction with local timeouts, unless it has a concurrent index operation; then the
timeouts are set for the session and set back afterwards.
-/

namespace SafeMigration

/-- The part of a script for one direction. -/
structure ScriptSection where
  direction : Direction
  timeouts : EffectiveTimeouts
  /-- Whether the section is one transaction. -/
  transactional : Bool
  statements : List Statement
  /-- Whether nothing was recorded. -/
  empty : Bool

/-- A compiled migration. -/
structure Script where
  name : String
  capabilities : List Capability
  sections : List ScriptSection

namespace ScriptSection

/-- A timeout as a value of a setting. -/
def timeoutLiteral : Timeout → String
  | .disabled => "'0'"
  | .limit d => "'" ++ d.text ++ "'"

/-- The lines that set both timeouts. -/
def settings (command : String) (timeouts : EffectiveTimeouts) : String :=
  command ++ " lock_timeout = " ++ timeoutLiteral timeouts.lock ++ ";\n" ++
    command ++ " statement_timeout = " ++ timeoutLiteral timeouts.statement ++ ";\n"

/-- A statement with exactly one semicolon at its end. -/
def terminated (sql : String) : String :=
  String.ofList (sql.toList.reverse.dropWhile (· == ';')).reverse ++ ";\n"

/-- The text of the statements. -/
def body (statements : List Statement) : String :=
  String.join (statements.map fun statement => terminated statement.text)

/-- The text of a section. -/
def text (s : ScriptSection) : String :=
  "-- migrate:" ++ s.direction.name ++ "\n" ++
    (if s.empty then "-- no changes\n"
    else if s.transactional then
      "BEGIN;\n" ++ settings "SET LOCAL" s.timeouts ++ body s.statements ++ "COMMIT;\n"
    else
      settings "SET" s.timeouts ++ body s.statements ++
        "RESET lock_timeout;\nRESET statement_timeout;\n")

/-- The section of a direction of a migration. -/
def ofDirection (migration : ValidatedMigration) (direction : Direction) :
    Except MigrationError ScriptSection := do
  let set := migration.instructions direction
  let statements ← set.instructions.mapM Statement.ofInstruction
  return {
    direction := direction
    timeouts := migration.timeouts direction
    transactional := migration.isTransactional direction
    statements := statements.flatten
    empty := set.instructions.isEmpty }

end ScriptSection

namespace Script

/-- The script of a migration. -/
def ofMigration (migration : ValidatedMigration) : Except MigrationError Script := do
  let sections ← Direction.both.mapM (ScriptSection.ofDirection migration)
  return ⟨migration.name, migration.capabilities, sections⟩

/-- The comments before the first section. -/
def header (script : Script) : String :=
  "-- " ++ script.name ++ "\n" ++
    String.join (script.capabilities.map fun capability => "-- requires: " ++ capability.text ++ "\n")

/-- The text of a script. -/
def text (script : Script) : String :=
  script.header ++ String.join (script.sections.map fun s => "\n" ++ s.text)

end Script

end SafeMigration
