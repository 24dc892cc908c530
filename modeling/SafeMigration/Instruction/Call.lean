import SafeMigration.Instruction.Basic

/-!
Built-in instructions from arguments given by name.

Every operation has typed arguments of its own, and some have options besides. The own arguments are looked at
before the options. Whatever an operation does not name is kept with the instruction as it is.
-/

namespace SafeMigration

namespace Columns

/-- Reads one column or a list of columns from a document. -/
def ofJson : Json → Except Mismatch Columns
  | .string column => .ok (.one column)
  | .array items =>
    match items.mapM Json.string? with
    | some columns => .ok (.many columns)
    | none => .error (.noAlternative "OneOrMany")
  | _ => .error (.noAlternative "OneOrMany")

end Columns

open Json.Shape

/-- The options of a column. -/
def ColumnOptions.shape : Json.Shape ColumnOptions :=
  .mk <$> optional "null" Json.asBool true <*> maybe "default" DefaultValue.ofJson
    <*> optional "unique" Json.asBool false

/-- The options of a reference. -/
def ReferenceOptions.shape : Json.Shape ReferenceOptions :=
  .mk <$> optional "null" Json.asBool true <*> optional "polymorphic" Json.asBool false
    <*> optional "index" Json.asBool false <*> optional "foreign_key" Json.asBool false
    <*> optional "type" ColumnType.ofJson .bigint

/-- The options of a new index. -/
def IndexOptions.shape : Json.Shape IndexOptions :=
  .mk <$> maybe "name" Json.asString <*> optional "unique" Json.asBool false
    <*> optional "using" IndexMethod.ofJson .btree <*> maybe "where" Json.asString

/-- The choice of an index to drop. -/
def IndexChoice.shape : Json.Shape IndexChoice :=
  .mk <$> maybe "name" Json.asString <*> maybe "column" Columns.ofJson

/-- The options of a foreign key. -/
def ForeignKeyOptions.shape : Json.Shape ForeignKeyOptions :=
  .mk <$> maybe "column" Json.asString <*> maybe "primary_key" Json.asString
    <*> maybe "name" Json.asString <*> maybe "on_delete" ReferentialAction.ofJson
    <*> maybe "on_update" ReferentialAction.ofJson

namespace Instruction

/-- The table that every operation is about. -/
def tableShape : Json.Shape String := required "table" Json.asString

/-- A column of the table, and its type. -/
def typedColumnShape : Json.Shape (String × String × ColumnType) :=
  (fun table column type => (table, column, type)) <$> tableShape
    <*> required "column" Json.asString <*> required "type" ColumnType.ofJson

/-- An argument of the table, given by a key. -/
def withText (key : String) : Json.Shape (String × String) :=
  Prod.mk <$> tableShape <*> required key Json.asString

/-- Reads the arguments of an operation without options. -/
def single {α : Type} (shape : Json.Shape α) (arguments : Fields) : Except Mismatch (α × Fields) := do
  let own ← shape.ofFields arguments
  return (own, Entries.without arguments shape.keys)

/-- Reads the own arguments of an operation and then its options. -/
def withOptions {α β : Type} (shape : Json.Shape α) (options : Json.Shape β) (arguments : Fields) :
    Except Mismatch (α × β × Fields) := do
  let own ← shape.ofFields arguments
  let rest := Entries.without arguments shape.keys
  let chosen ← options.ofFields rest
  return (own, chosen, Entries.without rest options.keys)

/-- A foreign key named directly, or by the table it leads to. -/
def foreignKeyName (table : String) (target name : Option String) : Except Mismatch String :=
  match name, target with
  | some name, _ => .ok name
  | none, some target => .ok (Naming.foreignKey table target)
  | none, none => .error (.rule "either `name` or `to_table` is required")

/-- The table and the name of a foreign key given by name or by target. -/
def foreignKeyShape : Json.Shape (String × Option String × Option String) :=
  (fun table target name => (table, target, name)) <$> tableShape
    <*> maybe "to_table" Json.asString <*> maybe "name" Json.asString

/-- Names the operation in a mismatch of its arguments. -/
def argumentsOf {α : Type} (operation : Operation) (result : Except Mismatch α) :
    Except MigrationError α :=
  result.mapError (MigrationError.invalidArgument operation.name)

/-- The instruction of a built-in operation called with arguments. -/
def ofCall (operation : Operation) (arguments : Fields) : Except MigrationError Instruction :=
  match operation with
  | .createTable => do
    let ((table, columns), extra) ← argumentsOf operation (single
      (Prod.mk <$> tableShape <*> optional "columns" (Json.asList Column.ofJson) []) arguments)
    return .change table (.createTable columns) extra
  | .dropTable => do
    let (table, extra) ← argumentsOf operation (single tableShape arguments)
    return .change table .dropTable extra
  | .addColumn => do
    let ((table, column, type), options, extra) ←
      argumentsOf operation (withOptions typedColumnShape ColumnOptions.shape arguments)
    return .change table (.addColumn column type options) extra
  | .changeColumn => do
    let ((table, column, type), options, extra) ←
      argumentsOf operation (withOptions typedColumnShape ColumnOptions.shape arguments)
    return .change table (.changeColumn column type options) extra
  | .removeColumn => do
    let ((table, column), extra) ← argumentsOf operation (single (withText "column") arguments)
    return .change table (.removeColumn column) extra
  | .renameColumn => do
    let ((table, source, target), extra) ← argumentsOf operation (single
      ((fun table source target => (table, source, target)) <$> tableShape
        <*> required "from" Json.asString <*> required "to" Json.asString) arguments)
    return .change table (.renameColumn source target) extra
  | .changeColumnDefault => do
    let ((table, column, default), extra) ← argumentsOf operation (single
      ((fun table column default => (table, column, default)) <$> tableShape
        <*> required "column" Json.asString <*> maybe "default" DefaultValue.ofJson) arguments)
    return .change table (.changeColumnDefault column default) extra
  | .addReference => do
    let ((table, reference), options, extra) ←
      argumentsOf operation (withOptions (withText "reference") ReferenceOptions.shape arguments)
    return .change table (.addReference reference options) extra
  | .removeReference => do
    let ((table, reference, polymorphic), extra) ← argumentsOf operation (single
      ((fun table reference polymorphic => (table, reference, polymorphic)) <$> tableShape
        <*> required "reference" Json.asString <*> optional "polymorphic" Json.asBool false) arguments)
    return .change table (.removeReference reference polymorphic) extra
  | .addIndex => do
    let ((table, columns), options, extra) ← argumentsOf operation (withOptions
      (Prod.mk <$> tableShape <*> eitherKey "column" "columns" Columns.ofJson) IndexOptions.shape arguments)
    addIndex table columns.toList options extra
  | .removeIndex => do
    let (table, choice, extra) ←
      argumentsOf operation (withOptions tableShape IndexChoice.shape arguments)
    return .change table (.removeIndex choice) extra
  | .addForeignKey => do
    let ((table, target), options, extra) ←
      argumentsOf operation (withOptions (withText "to_table") ForeignKeyOptions.shape arguments)
    return addForeignKey table target options extra
  | .validateForeignKey => do
    let ((table, target, name), extra) ← argumentsOf operation (single foreignKeyShape arguments)
    let name ← argumentsOf operation (foreignKeyName table target name)
    return .change table (.validateForeignKey name) extra
  | .removeForeignKey => do
    let ((table, target, name), extra) ← argumentsOf operation (single foreignKeyShape arguments)
    let name ← argumentsOf operation (foreignKeyName table target name)
    return .change table (.removeForeignKey name) extra
  | .addCheckConstraint => do
    let ((table, expression, name), extra) ← argumentsOf operation (single
      ((fun table expression name => (table, expression, name)) <$> tableShape
        <*> required "expression" Json.asString <*> maybe "name" Json.asString) arguments)
    return addCheckConstraint table expression name extra
  | .validateCheckConstraint => do
    let ((table, name), extra) ← argumentsOf operation (single (withText "name") arguments)
    return .change table (.validateCheckConstraint name) extra
  | .removeCheckConstraint => do
    let ((table, name), extra) ← argumentsOf operation (single (withText "name") arguments)
    return .change table (.removeCheckConstraint name) extra

end Instruction

end SafeMigration
