import SafeMigration.Script.Basic

/-!
What a validated migration is compiled with.
-/

namespace SafeMigration

/-- A way to write out validated migrations. -/
structure Renderer where
  name : String
  /-- The ending of the names of compiled files. -/
  fileExtension : String
  render : ValidatedMigration → Except MigrationError String

/-- Writes migrations as scripts for PostgreSQL. -/
def Renderer.postgres : Renderer :=
  { name := "postgres"
    fileExtension := "sql"
    render := fun migration => (Script.ofMigration migration).map Script.text }

end SafeMigration
