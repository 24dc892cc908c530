import SafeMigration.Lock

/-!
The operations that every migration may use, their names and the locks they take.
-/

namespace SafeMigration

/-- A built-in operation. -/
inductive Operation where
  | createTable
  | dropTable
  | addColumn
  | removeColumn
  | changeColumn
  | renameColumn
  | changeColumnDefault
  | addReference
  | removeReference
  | addIndex
  | removeIndex
  | addForeignKey
  | validateForeignKey
  | removeForeignKey
  | addCheckConstraint
  | validateCheckConstraint
  | removeCheckConstraint
  deriving DecidableEq, Repr

namespace Operation

/-- Every built-in operation. -/
def all : List Operation :=
  [createTable, dropTable, addColumn, removeColumn, changeColumn, renameColumn, changeColumnDefault,
   addReference, removeReference, addIndex, removeIndex, addForeignKey, validateForeignKey,
   removeForeignKey, addCheckConstraint, validateCheckConstraint, removeCheckConstraint]

/-- The name of an operation. -/
def name : Operation → String
  | createTable => "create_table"
  | dropTable => "drop_table"
  | addColumn => "add_column"
  | removeColumn => "remove_column"
  | changeColumn => "change_column"
  | renameColumn => "rename_column"
  | changeColumnDefault => "change_column_default"
  | addReference => "add_reference"
  | removeReference => "remove_reference"
  | addIndex => "add_index"
  | removeIndex => "remove_index"
  | addForeignKey => "add_foreign_key"
  | validateForeignKey => "validate_foreign_key"
  | removeForeignKey => "remove_foreign_key"
  | addCheckConstraint => "add_check_constraint"
  | validateCheckConstraint => "validate_check_constraint"
  | removeCheckConstraint => "remove_check_constraint"

/-- The operation of a name. -/
def ofName? (s : String) : Option Operation := all.find? (·.name = s)

/-- The lock an operation takes. Operations on constraints and defaults are not classified. -/
def lock? : Operation → Option LockWeight
  | createTable | dropTable | addColumn | removeColumn | changeColumn | renameColumn | addReference
  | removeReference => some .accessExclusive
  | addIndex | removeIndex => some .share
  | changeColumnDefault | addForeignKey | validateForeignKey | removeForeignKey | addCheckConstraint
  | validateCheckConstraint | removeCheckConstraint => none

/-- Whether an operation builds or drops an index while the table stays in use. -/
def isConcurrent : Operation → Bool
  | addIndex | removeIndex => true
  | _ => false

end Operation

end SafeMigration
