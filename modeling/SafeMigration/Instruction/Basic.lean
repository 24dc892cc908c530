import SafeMigration.Error
import SafeMigration.Naming
import SafeMigration.Operation
import SafeMigration.Schema.Column

/-!
Instructions: the schema changes that a migration records.

A built-in instruction is a change to one table with the arguments that its operation has no use for. A custom
instruction brings its statements with it.
-/

namespace SafeMigration

/-- What is asked of a column that is added or changed. -/
structure ColumnOptions where
  nullable : Bool := true
  default : Option DefaultValue := none
  unique : Bool := false
  deriving DecidableEq, Repr

/-- What is asked of a reference to another table. -/
structure ReferenceOptions where
  nullable : Bool := true
  /-- Whether a column for the type of the row referred to stands beside the one for its key. -/
  polymorphic : Bool := false
  index : Bool := false
  foreignKey : Bool := false
  type : ColumnType := .bigint
  deriving DecidableEq, Repr

/-- What is asked of a new index. -/
structure IndexOptions where
  name : Option String := none
  unique : Bool := false
  method : IndexMethod := .btree
  condition : Option String := none
  deriving DecidableEq, Repr

/-- One column, or a list of columns. -/
inductive Columns where
  | one (column : String)
  | many (columns : List String)
  deriving DecidableEq, Repr

/-- The columns as a list. -/
def Columns.toList : Columns → List String
  | one column => [column]
  | many columns => columns

/-- Which index is dropped: by its name, or by the columns its name was derived from. -/
structure IndexChoice where
  name : Option String := none
  columns : Option Columns := none
  deriving DecidableEq, Repr

/-- What is asked of a foreign key; what is left open is derived from the tables. -/
structure ForeignKeyOptions where
  column : Option String := none
  primaryKey : Option String := none
  name : Option String := none
  onDelete : Option ReferentialAction := none
  onUpdate : Option ReferentialAction := none
  deriving DecidableEq, Repr

/-- A foreign key with nothing left open. -/
structure ForeignKey where
  target : String
  column : String
  primaryKey : String
  name : String
  onDelete : Option ReferentialAction
  onUpdate : Option ReferentialAction
  deriving DecidableEq, Repr

/-- A change to one table. -/
inductive Change where
  | createTable (columns : List Column)
  | dropTable
  | addColumn (column : String) (type : ColumnType) (options : ColumnOptions)
  | removeColumn (column : String)
  | changeColumn (column : String) (type : ColumnType) (options : ColumnOptions)
  | renameColumn (source target : String)
  | changeColumnDefault (column : String) (default : Option DefaultValue)
  | addReference (reference : String) (options : ReferenceOptions)
  | removeReference (reference : String) (polymorphic : Bool)
  /-- The name is the one given in the options, or derived. -/
  | addIndex (columns : List String) (name : String) (options : IndexOptions)
  | removeIndex (choice : IndexChoice)
  | addForeignKey (key : ForeignKey)
  | validateForeignKey (name : String)
  | removeForeignKey (name : String)
  | addCheckConstraint (expression name : String)
  | validateCheckConstraint (name : String)
  | removeCheckConstraint (name : String)
  deriving DecidableEq, Repr

/-- The operation that makes a change. -/
def Change.operation : Change → Operation
  | createTable .. => .createTable
  | dropTable => .dropTable
  | addColumn .. => .addColumn
  | removeColumn .. => .removeColumn
  | changeColumn .. => .changeColumn
  | renameColumn .. => .renameColumn
  | changeColumnDefault .. => .changeColumnDefault
  | addReference .. => .addReference
  | removeReference .. => .removeReference
  | addIndex .. => .addIndex
  | removeIndex .. => .removeIndex
  | addForeignKey .. => .addForeignKey
  | validateForeignKey .. => .validateForeignKey
  | removeForeignKey .. => .removeForeignKey
  | addCheckConstraint .. => .addCheckConstraint
  | validateCheckConstraint .. => .validateCheckConstraint
  | removeCheckConstraint .. => .removeCheckConstraint

/-- An instruction of a custom operation. -/
structure CustomInstruction where
  name : String
  table : Option String
  /-- The lock it declares, if it declares one. -/
  lock : Option LockWeight
  statements : List String
  /-- The arguments it was called with. -/
  arguments : Fields

/-- A recorded schema change. -/
inductive Instruction where
  /-- A built-in change to a table, with the arguments that have no meaning to it. -/
  | change (table : String) (change : Change) (extra : Fields)
  | custom (instruction : CustomInstruction)

namespace Instruction

/-- The built-in operation of an instruction, if it has one. -/
def operation? : Instruction → Option Operation
  | change _ c _ => some c.operation
  | custom _ => none

/-- The name of the operation of an instruction. -/
def name : Instruction → String
  | change _ c _ => c.operation.name
  | custom c => c.name

/-- The table an instruction is about, if that is known. -/
def table? : Instruction → Option String
  | change table _ _ => some table
  | custom c => c.table

/-- The lock an instruction takes, if it is classified. -/
def lock? : Instruction → Option LockWeight
  | change _ c _ => c.operation.lock?
  | custom c => c.lock

/-- Whether an instruction builds or drops an index while the table stays in use. -/
def isConcurrent : Instruction → Bool
  | change _ c _ => c.operation.isConcurrent
  | custom _ => false

/-- The arguments without a meaning of their own; for a custom operation, all arguments. -/
def extra : Instruction → Fields
  | change _ _ extra => extra
  | custom c => c.arguments

/-- What a change is about, after the name of its operation. -/
def subject (table : String) : Change → String
  | .addColumn column .. | .removeColumn column | .changeColumn column ..
  | .changeColumnDefault column _ => table ++ "." ++ column
  | .renameColumn source target => table ++ "." ++ source ++ " -> " ++ target
  | .addReference reference _ | .removeReference reference _ => table ++ "." ++ reference
  | .addIndex _ name _ => name ++ " on " ++ table
  | .addForeignKey key => key.name ++ " on " ++ table
  | .validateForeignKey name | .removeForeignKey name | .addCheckConstraint _ name
  | .validateCheckConstraint name | .removeCheckConstraint name => name ++ " on " ++ table
  | .createTable _ | .dropTable | .removeIndex _ => table

/-- A short description of an instruction. -/
def description : Instruction → String
  | change table c _ => c.operation.name ++ " " ++ subject table c
  | custom c =>
    match c.table with
    | some table => c.name ++ " " ++ table
    | none => c.name

/-- Adds an index; its name is derived from the columns when none is given. -/
def addIndex (table : String) (columns : List String) (options : IndexOptions) (extra : Fields) :
    Except MigrationError Instruction :=
  if columns.isEmpty || columns.any Text.isBlankText then
    .error (.invalidArgument Operation.addIndex.name
      (.rule "at least one non-empty column is required"))
  else
    .ok (.change table
      (.addIndex columns (options.name.getD (Naming.index table columns)) options) extra)

/-- Adds a foreign key; column, key and name are derived when they are not given. -/
def addForeignKey (table target : String) (options : ForeignKeyOptions) (extra : Fields) : Instruction :=
  .change table
    (.addForeignKey
      { target := target
        column := options.column.getD (Naming.foreignKeyColumn target)
        primaryKey := options.primaryKey.getD "id"
        name := options.name.getD (Naming.foreignKey table target)
        onDelete := options.onDelete
        onUpdate := options.onUpdate })
    extra

/-- Adds a check constraint; its name is derived from the expression when none is given. -/
def addCheckConstraint (table expression : String) (name : Option String) (extra : Fields) : Instruction :=
  .change table
    (.addCheckConstraint expression (name.getD (Naming.checkConstraint table expression))) extra

end Instruction

end SafeMigration
