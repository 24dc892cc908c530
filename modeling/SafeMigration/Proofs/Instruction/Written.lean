import SafeMigration.Instruction.Typed
import SafeMigration.Proofs.Json.Shape
import SafeMigration.Proofs.Schema.TypeName

/-!
The arguments of an operation, written out and read again.

What a program gives as typed arguments can be written out as named values. An operation that is called by name with
these records what the program records: each of its fields is read from the value under its own key, and what the
options bring along is left over.
-/

namespace SafeMigration

/-- What is left to choose when arguments are written out: whether a list of columns is called `columns`, which options
are left out when they have the value that they have anyway, and how a type is spelled. -/
structure Wording where
  plural : Bool := true
  omits : String → Bool := fun _ => false
  spelling : ColumnType → String := ColumnType.shortName
  spelled : ∀ text type, ColumnType.read text = .ok type → ColumnType.read (spelling type) = .ok type := by
    exact fun _ _ => ColumnType.read_shortName

/-- Values by their keys, without a value where a key is left out. -/
abbrev Given := List (String × Option Json)

/-- A default in a document. There are only finite numbers. -/
def DefaultValue.json : DefaultValue → Json
  | bool value => .bool value
  | integer value => .int value
  | float value => if value.isFinite then .float value else .null
  | string value => .string value
  | expression sql => .object [("sql", .string sql)]

/-- One column or a list of columns in a document. -/
def Columns.json : Columns → Json
  | one column => .string column
  | many columns => .array (columns.map .string)

namespace Wording

variable (wording : Wording)

/-- A text. -/
def text (key value : String) : String × Option Json := (key, some (.string value))

/-- A text that may be absent. -/
def text? (key : String) (value? : Option String) : String × Option Json := (key, value?.map .string)

/-- A value that can be left out when it is the one that is taken then. -/
def option (key : String) (isDefault : Bool) (value : Json) : String × Option Json :=
  (key, if isDefault && wording.omits key then none else some value)

/-- A truth value that can be left out. -/
def flag (key : String) (otherwise value : Bool) : String × Option Json :=
  wording.option key (value == otherwise) (.bool value)

/-- A type. -/
def type (type : ColumnType) : Json := .string (wording.spelling type)

/-- The fields of a column of a new table. -/
def column (column : Column) : Given :=
  [text "name" column.name, ("type", some (wording.type column.type)), wording.flag "null" true column.nullable,
    ("default", column.default.map DefaultValue.json), wording.flag "primary_key" false column.primaryKey]

def columnOptions (options : ColumnOptions) : Given :=
  [wording.flag "null" true options.nullable, ("default", options.default.map DefaultValue.json),
    wording.flag "unique" false options.unique]

def referenceOptions (options : ReferenceOptions) : Given :=
  [wording.flag "null" true options.nullable, wording.flag "polymorphic" false options.polymorphic,
    wording.flag "index" false options.index, wording.flag "foreign_key" false options.foreignKey,
    wording.option "type" (options.type == .bigint) (wording.type options.type)]

def indexOptions (options : IndexOptions) : Given :=
  [text? "name" options.name, wording.flag "unique" false options.unique,
    wording.option "using" (options.method == .btree) (.string options.method.name), text? "where" options.condition]

def foreignKeyOptions (options : ForeignKeyOptions) : Given :=
  [text? "column" options.column, text? "primary_key" options.primaryKey, text? "name" options.name,
    ("on_delete", options.onDelete.map (.string ·.name)), ("on_update", options.onUpdate.map (.string ·.name))]

/-- The choice of an index; several columns are a list. -/
def indexChoice (choice : IndexChoice) : Given :=
  [text? "name" choice.name, ("column", choice.columns.map Columns.json)]

/-- The columns of an index, under one of two keys. -/
def indexColumns (columns : List String) : Given :=
  let value := Json.array (columns.map .string)
  [("column", if wording.plural then none else some value), ("columns", if wording.plural then some value else none)]

/-- The typed arguments of an operation. -/
def typed : TypedCall → Given
  | .createTable table columns =>
    [text "table" table, wording.option "columns" columns.isEmpty
      (.array (columns.map fun column => .object (Entries.give [] (wording.column column))))]
  | .dropTable table => [text "table" table]
  | .addColumn table column type options _ | .changeColumn table column type options _ =>
    [text "table" table, text "column" column, ("type", some (wording.type type))] ++ wording.columnOptions options
  | .removeColumn table column => [text "table" table, text "column" column]
  | .renameColumn table source target => [text "table" table, text "from" source, text "to" target]
  | .changeColumnDefault table column default =>
    [text "table" table, text "column" column, ("default", default.map DefaultValue.json)]
  | .addReference table reference options _ =>
    [text "table" table, text "reference" reference] ++ wording.referenceOptions options
  | .removeReference table reference polymorphic =>
    [text "table" table, text "reference" reference, wording.flag "polymorphic" false polymorphic]
  | .addIndex table columns options _ =>
    (text "table" table :: wording.indexColumns columns) ++ wording.indexOptions options
  | .removeIndex table choice _ => [text "table" table] ++ indexChoice choice
  | .addForeignKey table target options _ =>
    [text "table" table, text "to_table" target] ++ foreignKeyOptions options
  | .validateForeignKey table name | .removeForeignKey table name =>
    [text "table" table, ("to_table", none), text "name" name]
  | .addCheckConstraint table expression name =>
    [text "table" table, text "expression" expression, text? "name" name]
  | .validateCheckConstraint table name | .removeCheckConstraint table name =>
    [text "table" table, text "name" name]

end Wording

/-- The keys that have a meaning to an operation. -/
def Operation.typedKeys : Operation → List String
  | createTable => ["table", "columns"]
  | dropTable => ["table"]
  | addColumn | changeColumn => ["table", "column", "type", "null", "default", "unique"]
  | removeColumn => ["table", "column"]
  | renameColumn => ["table", "from", "to"]
  | changeColumnDefault => ["table", "column", "default"]
  | addReference => ["table", "reference", "null", "polymorphic", "index", "foreign_key", "type"]
  | removeReference => ["table", "reference", "polymorphic"]
  | addIndex => ["table", "column", "columns", "name", "unique", "using", "where"]
  | removeIndex => ["table", "name", "column"]
  | addForeignKey => ["table", "to_table", "column", "primary_key", "name", "on_delete", "on_update"]
  | validateForeignKey | removeForeignKey => ["table", "to_table", "name"]
  | addCheckConstraint => ["table", "expression", "name"]
  | validateCheckConstraint | removeCheckConstraint => ["table", "name"]

namespace TypedCall

/-- The arguments that have no meaning to the operation. -/
def extra : TypedCall → Fields
  | addColumn _ _ _ _ extra | changeColumn _ _ _ _ extra | addReference _ _ _ extra | addIndex _ _ _ extra
  | removeIndex _ _ extra | addForeignKey _ _ _ extra => extra
  | _ => []

/-- All arguments by their keys. -/
def arguments (call : TypedCall) (wording : Wording) : Fields := Entries.give call.extra (wording.typed call)

/-- The types among the arguments. -/
def types : TypedCall → List ColumnType
  | createTable _ columns => columns.map Column.type
  | addColumn _ _ type _ _ | changeColumn _ _ type _ _ => [type]
  | addReference _ _ options _ => [options.type]
  | _ => []

/-- The defaults among the arguments. -/
def defaults : TypedCall → List DefaultValue
  | createTable _ columns => columns.filterMap Column.default
  | addColumn _ _ _ options _ | changeColumn _ _ _ options _ => options.default.toList
  | changeColumnDefault _ _ default => default.toList
  | _ => []

end TypedCall

/-- A default that a document can hold. -/
def DefaultValue.Writable : DefaultValue → Prop
  | integer value => fits value = true
  | float value => value.isFinite = true
  | _ => True

/-- A call that can be written out: its types have names, its defaults can stand in a document, and what its options
bring along has no meaning to the operation. -/
structure TypedCall.Writable (call : TypedCall) : Prop where
  types : ∀ type ∈ call.types, ∃ text, ColumnType.read text = .ok type
  defaults : ∀ default ∈ call.defaults, default.Writable
  ordered : Entries.Ordered call.extra
  free : ∀ entry ∈ call.extra, entry.1 ∉ call.operation.typedKeys

/-- A list that is written out element by element is read element by element. -/
theorem mapM_map_of_forall {m : Type → Type} [Monad m] [LawfulMonad m] {α β : Type} {write : α → β} {read : β → m α}
    {elements : List α} (own : ∀ a ∈ elements, read (write a) = pure a) :
    (elements.map write).mapM read = pure elements := by
  induction elements with
  | nil => rfl
  | cons a elements ih =>
    rw [List.map_cons, List.mapM_cons, own a List.mem_cons_self, pure_bind,
      ih fun b member => own b (List.mem_cons_of_mem a member), pure_bind]

theorem DefaultValue.ofJson_json {default : DefaultValue} (writable : default.Writable) :
    Json.asOption DefaultValue.ofJson default.json = .ok (some default) := by
  cases default with
  | bool value => rfl
  | integer value =>
    have fitting : fits value = true := writable
    simp [json, Json.asOption, DefaultValue.ofJson, fitting, Except.map]
  | float value =>
    have finite : value.isFinite = true := writable
    simp [json, Json.asOption, DefaultValue.ofJson, finite, Except.map]
  | string value => rfl
  | expression sql => rfl

theorem Columns.ofJson_many (columns : List String) :
    Columns.ofJson (.array (columns.map .string)) = .ok (.many columns) := by
  have all : (columns.map Json.string).mapM Json.string? = some columns := mapM_map_of_forall fun _ _ => rfl
  simp only [Columns.ofJson, all]

theorem Columns.ofJson_json (columns : Columns) :
    Json.asOption Columns.ofJson columns.json = .ok (some columns) := by
  cases columns with
  | one column => rfl
  | many columns => rw [json, Json.asOption, Columns.ofJson_many, Except.map]; nofun

theorem IndexMethod.ofJson_name (method : IndexMethod) : IndexMethod.ofJson (.string method.name) = .ok method := by
  cases method <;> rfl

theorem ReferentialAction.ofJson_name (action : ReferentialAction) :
    Json.asOption ReferentialAction.ofJson (.string action.name) = .ok (some action) := by
  cases action <;> rfl

namespace Wording

variable {wording : Wording} {fields : Fields} {key : String}

theorem ofJson_type {type : ColumnType} (named : ∃ text, ColumnType.read text = .ok type) :
    ColumnType.ofJson (wording.type type) = .ok type := by
  obtain ⟨text, read⟩ := named
  have spelled := wording.spelled text type read
  simp [ColumnType.ofJson, Wording.type, Json.asString, bind, Except.bind, spelled]

theorem reads_text {value : String} (told : Entries.get? fields key = (text key value).2) :
    (Json.Shape.required key Json.asString).Reads fields value :=
  .required told rfl

theorem reads_text? {value? : Option String} (told : Entries.get? fields key = (text? key value?).2) :
    (Json.Shape.maybe key Json.asString).Reads fields value? :=
  .maybe told fun _ _ => rfl

theorem reads_default {default : Option DefaultValue}
    (told : Entries.get? fields key = default.map DefaultValue.json)
    (writable : ∀ value ∈ default, value.Writable) : (Json.Shape.maybe key DefaultValue.ofJson).Reads fields default :=
  .maybe told fun value given => DefaultValue.ofJson_json (writable value given)

theorem reads_option {α : Type} {read : Json → Except Mismatch α} {a otherwise : α} {isDefault : Bool} {value : Json}
    (told : Entries.get? fields key = (wording.option key isDefault value).2) (own : read value = .ok a)
    (same : isDefault = true → a = otherwise) : (Json.Shape.optional key read otherwise).Reads fields a := by
  refine .optional told (fun written given => ?_) fun absent => ?_
  · simp only [option] at given
    split at given
    · cases given
    · cases given
      exact own
  · simp only [option] at absent
    split at absent
    next both => exact same (Bool.and_eq_true_iff.mp both).1
    · cases absent

theorem reads_flag {otherwise value : Bool} (told : Entries.get? fields key = (wording.flag key otherwise value).2) :
    (Json.Shape.optional key Json.asBool otherwise).Reads fields value :=
  reads_option told rfl fun same => beq_iff_eq.mp same

/-- A column is read from its fields. -/
theorem ofJson_column {column : Column} (named : ∃ text, ColumnType.read text = .ok column.type)
    (writable : ∀ value ∈ column.default, value.Writable) :
    Column.ofJson (.object (Entries.give [] (wording.column column))) = .ok column := by
  have keys : (wording.column column).map (·.1) = Column.shape.keys := rfl
  have distinct : Column.shape.keys.Nodup := by decide
  obtain ⟨name, type, null, default, primaryKey, -⟩ := Entries.tells_give (keys ▸ distinct)
    (show ∀ entry ∈ ([] : Fields), _ from nofun)
  have reads : Column.shape.Reads (Entries.give [] (wording.column column)) column :=
    .seq (.seq (.seq (.seq (.map _ (reads_text name)) (.required type (ofJson_type named))) (reads_flag null))
      (reads_default default writable)) (reads_flag primaryKey)
  exact reads.ofFields (Entries.Ordered.give List.Pairwise.nil _)

theorem reads_columnOptions {options : ColumnOptions} (told : Entries.Tells fields (wording.columnOptions options))
    (writable : ∀ value ∈ options.default, value.Writable) : ColumnOptions.shape.Reads fields options := by
  obtain ⟨null, default, unique, -⟩ := told
  exact .seq (.seq (.map _ (reads_flag null)) (reads_default default writable)) (reads_flag unique)

theorem reads_referenceOptions {options : ReferenceOptions}
    (told : Entries.Tells fields (wording.referenceOptions options))
    (named : ∃ text, ColumnType.read text = .ok options.type) : ReferenceOptions.shape.Reads fields options := by
  obtain ⟨null, polymorphic, index, foreignKey, type, -⟩ := told
  exact .seq (.seq (.seq (.seq (.map _ (reads_flag null)) (reads_flag polymorphic)) (reads_flag index))
    (reads_flag foreignKey)) (reads_option type (ofJson_type named) fun same => beq_iff_eq.mp same)

theorem reads_indexOptions {options : IndexOptions} (told : Entries.Tells fields (wording.indexOptions options)) :
    IndexOptions.shape.Reads fields options := by
  obtain ⟨name, unique, method, condition, -⟩ := told
  exact .seq (.seq (.seq (.map _ (reads_text? name)) (reads_flag unique))
    (reads_option method (IndexMethod.ofJson_name _) fun same => beq_iff_eq.mp same)) (reads_text? condition)

theorem reads_indexChoice {choice : IndexChoice} (told : Entries.Tells fields (indexChoice choice)) :
    IndexChoice.shape.Reads fields choice := by
  obtain ⟨name, columns, -⟩ := told
  exact .seq (.map _ (reads_text? name)) (.maybe columns fun columns _ => Columns.ofJson_json columns)

theorem reads_foreignKeyOptions {options : ForeignKeyOptions}
    (told : Entries.Tells fields (foreignKeyOptions options)) : ForeignKeyOptions.shape.Reads fields options := by
  obtain ⟨column, primaryKey, name, onDelete, onUpdate, -⟩ := told
  exact .seq (.seq (.seq (.seq (.map _ (reads_text? column)) (reads_text? primaryKey)) (reads_text? name))
    (.maybe onDelete fun action _ => ReferentialAction.ofJson_name action))
    (.maybe onUpdate fun action _ => ReferentialAction.ofJson_name action)

end Wording

end SafeMigration
