import SafeMigration.Recorder

/-!
The operations as a program calls them.

A program gives typed arguments, so that only the columns of an index can still be wrong. What is left open is derived
as it is for a call by name.
-/

namespace SafeMigration

/-- A built-in operation called with typed arguments. Options can bring along arguments that have no meaning. -/
inductive TypedCall where
  | createTable (table : String) (columns : List Column)
  | dropTable (table : String)
  | addColumn (table column : String) (type : ColumnType) (options : ColumnOptions) (extra : Fields)
  | removeColumn (table column : String)
  | changeColumn (table column : String) (type : ColumnType) (options : ColumnOptions) (extra : Fields)
  | renameColumn (table source target : String)
  | changeColumnDefault (table column : String) (default : Option DefaultValue)
  | addReference (table reference : String) (options : ReferenceOptions) (extra : Fields)
  | removeReference (table reference : String) (polymorphic : Bool)
  | addIndex (table : String) (columns : List String) (options : IndexOptions) (extra : Fields)
  | removeIndex (table : String) (choice : IndexChoice) (extra : Fields)
  | addForeignKey (table target : String) (options : ForeignKeyOptions) (extra : Fields)
  | validateForeignKey (table name : String)
  | removeForeignKey (table name : String)
  | addCheckConstraint (table expression : String) (name : Option String)
  | validateCheckConstraint (table name : String)
  | removeCheckConstraint (table name : String)

namespace TypedCall

/-- The operation that is called. -/
def operation : TypedCall → Operation
  | createTable .. => .createTable
  | dropTable .. => .dropTable
  | addColumn .. => .addColumn
  | removeColumn .. => .removeColumn
  | changeColumn .. => .changeColumn
  | renameColumn .. => .renameColumn
  | changeColumnDefault .. => .changeColumnDefault
  | addReference .. => .addReference
  | removeReference .. => .removeReference
  | addIndex .. => .addIndex
  | removeIndex .. => .removeIndex
  | addForeignKey .. => .addForeignKey
  | validateForeignKey .. => .validateForeignKey
  | removeForeignKey .. => .removeForeignKey
  | addCheckConstraint .. => .addCheckConstraint
  | validateCheckConstraint .. => .validateCheckConstraint
  | removeCheckConstraint .. => .removeCheckConstraint

/-- The instruction that is called for. -/
def instruction : TypedCall → Except MigrationError Instruction
  | createTable table columns => .ok (.change table (.createTable columns) [])
  | dropTable table => .ok (.change table .dropTable [])
  | addColumn table column type options extra => .ok (.change table (.addColumn column type options) extra)
  | removeColumn table column => .ok (.change table (.removeColumn column) [])
  | changeColumn table column type options extra => .ok (.change table (.changeColumn column type options) extra)
  | renameColumn table source target => .ok (.change table (.renameColumn source target) [])
  | changeColumnDefault table column default => .ok (.change table (.changeColumnDefault column default) [])
  | addReference table reference options extra => .ok (.change table (.addReference reference options) extra)
  | removeReference table reference polymorphic =>
    .ok (.change table (.removeReference reference polymorphic) [])
  | addIndex table columns options extra => Instruction.addIndex table columns options extra
  | removeIndex table choice extra => .ok (.change table (.removeIndex choice) extra)
  | addForeignKey table target options extra => .ok (Instruction.addForeignKey table target options extra)
  | validateForeignKey table name => .ok (.change table (.validateForeignKey name) [])
  | removeForeignKey table name => .ok (.change table (.removeForeignKey name) [])
  | addCheckConstraint table expression name => .ok (Instruction.addCheckConstraint table expression name [])
  | validateCheckConstraint table name => .ok (.change table (.validateCheckConstraint name) [])
  | removeCheckConstraint table name => .ok (.change table (.removeCheckConstraint name) [])

end TypedCall

/-- Adds the instruction of an operation that a program calls. -/
def Recorder.perform (recorder : Recorder) (call : TypedCall) : Except MigrationError Recorder :=
  call.instruction.map recorder.record

end SafeMigration
