import SafeMigration.InstructionSet

/-!
Statements of SQL, what each instruction asks for, and their text.

A statement is written as a list of pieces, so that names and strings are quoted in one place.
-/

namespace SafeMigration

/-- A piece of a statement. -/
inductive Piece where
  /-- Fixed text of the language. -/
  | words (text : String)
  /-- A quoted name. -/
  | identifier (name : String)
  /-- A value as it was given: a type, a default, an expression. -/
  | given (sql : String)
  deriving DecidableEq, Repr

namespace Piece

/-- A name in double quotes, with the quotes inside it doubled. -/
def quotedName (name : String) : String := Text.enclose '"' name

/-- The text of a piece. -/
def text : Piece → String
  | words text => text
  | identifier name => quotedName name
  | given sql => sql

/-- Quoted names with commas between them. -/
def names : List String → List Piece
  | [] => []
  | [n] => [identifier n]
  | n :: rest => identifier n :: words ", " :: names rest

/-- Puts a separator between lists of pieces. -/
def separated (separator : String) : List (List Piece) → List Piece
  | [] => []
  | [pieces] => pieces
  | pieces :: rest => pieces ++ words separator :: separated separator rest

end Piece

/-- A column added to a table that exists. -/
structure AddedColumn where
  name : String
  type : ColumnType
  nullable : Bool
  default : Option DefaultValue
  deriving DecidableEq, Repr

/-- One action of an alteration of a table. -/
inductive Action where
  | addColumn (column : AddedColumn)
  | dropColumn (column : String)
  | setType (column : String) (type : ColumnType)
  | setNullable (column : String) (nullable : Bool)
  | setDefault (column : String) (default : DefaultValue)
  | dropDefault (column : String)
  | renameColumn (source target : String)
  | addForeignKey (key : ForeignKey)
  | addCheck (constraint expression : String)
  | validateConstraint (constraint : String)
  | dropConstraint (constraint : String)
  deriving DecidableEq, Repr

/-- A statement that changes the schema. -/
inductive Statement where
  | createTable (table : String) (columns : List Column)
  | dropTable (table : String)
  | alterTable (table : String) (actions : List Action)
  | createIndex (table : String) (columns : List String) (name : String) (options : IndexOptions)
  | dropIndex (name : String)
  /-- A statement in the words of its author. -/
  | raw (sql : String)
  deriving DecidableEq, Repr

namespace Statement

open Piece

/-- A default, if there is one. -/
def defaultPieces : Option DefaultValue → List Piece
  | some value => [words " DEFAULT ", given value.sql]
  | none => []

/-- A column of a new table. -/
def columnPieces (column : Column) : List Piece :=
  [identifier column.name, words " ", given column.type.postgresName] ++
    (if column.primaryKey then [words " PRIMARY KEY"]
      else if column.nullable then [] else [words " NOT NULL"]) ++
    defaultPieces column.default

/-- A column added to a table. -/
def addedPieces (column : AddedColumn) : List Piece :=
  [words "ADD COLUMN ", identifier column.name, words " ", given column.type.postgresName] ++
    (if column.nullable then [] else [words " NOT NULL"]) ++ defaultPieces column.default

/-- What a foreign key does on an event, if that is given. -/
def eventPieces (event : String) : Option ReferentialAction → List Piece
  | some action => [words (" ON " ++ event ++ " " ++ action.sql)]
  | none => []

/-- An action of an alteration. -/
def actionPieces : Action → List Piece
  | .addColumn column => addedPieces column
  | .dropColumn column => [words "DROP COLUMN ", identifier column]
  | .setType column type =>
    [words "ALTER COLUMN ", identifier column, words " TYPE ", given type.postgresName]
  | .setNullable column nullable =>
    [words "ALTER COLUMN ", identifier column, words (if nullable then " DROP NOT NULL" else " SET NOT NULL")]
  | .setDefault column value =>
    [words "ALTER COLUMN ", identifier column, words " SET DEFAULT ", given value.sql]
  | .dropDefault column => [words "ALTER COLUMN ", identifier column, words " DROP DEFAULT"]
  | .renameColumn source target =>
    [words "RENAME COLUMN ", identifier source, words " TO ", identifier target]
  | .addForeignKey key =>
    [words "ADD CONSTRAINT ", identifier key.name, words " FOREIGN KEY (", identifier key.column,
      words ") REFERENCES ", identifier key.target, words " (", identifier key.primaryKey, words ")"] ++
      eventPieces "DELETE" key.onDelete ++ eventPieces "UPDATE" key.onUpdate ++ [words " NOT VALID"]
  | .addCheck constraint expression =>
    [words "ADD CONSTRAINT ", identifier constraint, words " CHECK (", given expression, words ") NOT VALID"]
  | .validateConstraint constraint => [words "VALIDATE CONSTRAINT ", identifier constraint]
  | .dropConstraint constraint => [words "DROP CONSTRAINT ", identifier constraint]

/-- The pieces of a statement, without the semicolon at its end. -/
def pieces : Statement → List Piece
  | createTable table columns =>
    [words "CREATE TABLE ", identifier table, words " (\n  "] ++
      separated ",\n  " (columns.map columnPieces) ++ [words "\n)"]
  | dropTable table => [words "DROP TABLE ", identifier table]
  | alterTable table actions =>
    [words "ALTER TABLE ", identifier table, words " "] ++ separated ", " (actions.map actionPieces)
  | createIndex table columns index options =>
    [words "CREATE ", words (if options.unique then "UNIQUE " else ""), words "INDEX CONCURRENTLY ",
      identifier index, words " ON ", identifier table, words " USING ", words options.method.name, words " ("] ++
      names columns ++ [words ")"] ++
      (match options.condition with
        | some condition => [words " WHERE ", given condition]
        | none => [])
  | dropIndex index => [words "DROP INDEX CONCURRENTLY IF EXISTS ", identifier index]
  | raw sql => [given sql]

/-- The text of a statement, without a semicolon added. -/
def text (statement : Statement) : String := String.join (statement.pieces.map Piece.text)

/-- The columns of a reference: its key, and its type if it may lead to several tables. -/
def referenceColumns (reference : String) (polymorphic : Bool) : List String :=
  (reference ++ "_id") :: if polymorphic then [reference ++ "_type"] else []

/-- The columns that a reference adds. The key has the type asked for, the type column is a string. -/
def addedReference (reference : String) (options : ReferenceOptions) : List AddedColumn :=
  (referenceColumns reference options.polymorphic).zipWith
    (fun column type => ⟨column, type, options.nullable, none⟩) [options.type, .varchar none]

/-- The name of the index to drop: as given, or derived from the columns. -/
def indexToDrop (table : String) (choice : IndexChoice) : Except MigrationError String :=
  match choice.name, choice.columns with
  | some name, _ => .ok name
  | none, some columns => .ok (Naming.index table columns.toList)
  | none, none => .error (.namelessIndex table)

/-- The statement that makes a change to a table. -/
def ofChange (table : String) : Change → Except MigrationError Statement
  | .createTable columns => .ok (createTable table columns)
  | .dropTable => .ok (dropTable table)
  | .addColumn column type options =>
    .ok (alterTable table [.addColumn ⟨column, type, options.nullable, options.default⟩])
  | .removeColumn column => .ok (alterTable table [.dropColumn column])
  | .changeColumn column type options =>
    .ok (alterTable table
      ([.setType column type, .setNullable column options.nullable] ++
        (options.default.map (Action.setDefault column)).toList))
  | .renameColumn source target => .ok (alterTable table [.renameColumn source target])
  | .changeColumnDefault column (some value) => .ok (alterTable table [.setDefault column value])
  | .changeColumnDefault column none => .ok (alterTable table [.dropDefault column])
  | .addReference reference options =>
    .ok (alterTable table ((addedReference reference options).map .addColumn))
  | .removeReference reference polymorphic =>
    .ok (alterTable table ((referenceColumns reference polymorphic).map .dropColumn))
  | .addIndex columns index options => .ok (createIndex table columns index options)
  | .removeIndex choice => (indexToDrop table choice).map dropIndex
  | .addForeignKey key => .ok (alterTable table [.addForeignKey key])
  | .addCheckConstraint expression constraint =>
    .ok (alterTable table [.addCheck constraint expression])
  | .validateForeignKey constraint => .ok (alterTable table [.validateConstraint constraint])
  | .validateCheckConstraint constraint => .ok (alterTable table [.validateConstraint constraint])
  | .removeForeignKey constraint => .ok (alterTable table [.dropConstraint constraint])
  | .removeCheckConstraint constraint => .ok (alterTable table [.dropConstraint constraint])

/-- The statements of an instruction. -/
def ofInstruction : Instruction → Except MigrationError (List Statement)
  | .change table change _ => (ofChange table change).map fun statement => [statement]
  | .custom c => .ok (c.statements.map raw)

end Statement

end SafeMigration
