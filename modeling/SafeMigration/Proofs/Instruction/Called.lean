import SafeMigration.Proofs.Instruction.Written

/-!
Calling an operation by name, and calling it with typed arguments.

The named values of a call are the typed ones, put among those that its options bring along. The own arguments of the
operation are read from them, then the options from the rest, and what is left over is what the options brought along.
So both ways of calling record one and the same instruction, or fail alike.
-/

namespace SafeMigration

namespace Operation

theorem ofName?_name (operation : Operation) : ofName? operation.name = some operation := by
  cases operation <;> rfl

end Operation

namespace Instruction

open Json

variable {α β : Type} {shape : Shape α} {options : Shape β} {extra : Fields} {given given' : Given} {a : α} {b : β}

/-- The arguments of an operation without options are read as they were given. -/
theorem single_give (keys : given.map (·.1) = shape.keys) (distinct : shape.keys.Nodup)
    (ordered : Entries.Ordered extra) (free : ∀ entry ∈ extra, entry.1 ∉ shape.keys)
    (reads : ∀ fields, Entries.Tells fields given → shape.Reads fields a) :
    single shape (Entries.give extra given) = .ok (a, extra) := by
  have told : Entries.Tells (Entries.give extra given) given := Entries.tells_give (keys ▸ distinct) (keys ▸ free)
  have left : Entries.without (Entries.give extra given) shape.keys = extra := by
    rw [Entries.without_give fun key member => keys ▸ member, Entries.without_of_forall free]
  rw [single, (reads _ told).ofFields (ordered.give given), left]
  rfl

/-- So are those of an operation with options, and the options. -/
theorem withOptions_give (keys : given.map (·.1) = shape.keys) (keys' : given'.map (·.1) = options.keys)
    (distinct : (shape.keys ++ options.keys).Nodup) (ordered : Entries.Ordered extra)
    (free : ∀ entry ∈ extra, entry.1 ∉ shape.keys ++ options.keys)
    (reads : ∀ fields, Entries.Tells fields given → shape.Reads fields a)
    (reads' : ∀ fields, Entries.Tells fields given' → options.Reads fields b) :
    withOptions shape options (Entries.give extra (given ++ given')) = .ok (a, b, extra) := by
  have both : (given ++ given').map (·.1) = shape.keys ++ options.keys := by rw [List.map_append, keys, keys']
  have whole : Entries.Tells (Entries.give extra (given ++ given')) (given ++ given') :=
    Entries.tells_give (both ▸ distinct) (both ▸ free)
  obtain ⟨told, told'⟩ := Entries.tells_append.mp whole
  have apart : ∀ key ∈ given'.map (·.1), key ∉ shape.keys := fun key member own =>
    (List.nodup_append.mp distinct).2.2 key own key (keys' ▸ member) rfl
  have left : Entries.without (Entries.without (Entries.give extra (given ++ given')) shape.keys) options.keys =
      extra := by
    rw [Entries.without_without, Entries.without_give fun key member => both ▸ member,
      Entries.without_of_forall free]
  have ordered := ordered.give (given ++ given')
  rw [withOptions, (reads _ told).ofFields ordered]
  simp only [bind, Except.bind, (reads' _ (told'.without apart)).ofFields (ordered.without shape.keys), left]
  rfl

end Instruction

namespace TypedCall

open Json.Shape Wording Instruction

variable {wording : Wording} {fields : Fields}

/-- The columns of a new table are read one by one. -/
theorem asList_columns {columns : List Column}
    (named : ∀ type ∈ columns.map Column.type, ∃ text, ColumnType.read text = .ok type)
    (writable : ∀ default ∈ columns.filterMap Column.default, default.Writable) :
    Json.asList Column.ofJson (.array (columns.map fun column => .object (Entries.give [] (wording.column column)))) =
      .ok columns := by
  refine mapM_map_of_forall fun column member => ofJson_column ?_ fun default given => ?_
  · exact named column.type (List.mem_map_of_mem member)
  · exact writable default (List.mem_filterMap.mpr ⟨column, member, given⟩)

/-- A column of a table is read with its type and its options. -/
theorem withOptions_column (wording : Wording) (table column : String) {type : ColumnType} {options : ColumnOptions}
    {extra : Fields} (named : ∃ text, ColumnType.read text = .ok type)
    (writable : ∀ value ∈ options.default, value.Writable) (ordered : Entries.Ordered extra)
    (free : ∀ entry ∈ extra, entry.1 ∉ Operation.addColumn.typedKeys) :
    withOptions typedColumnShape ColumnOptions.shape (Entries.give extra
      ([text "table" table, text "column" column, ("type", some (wording.type type))] ++
        wording.columnOptions options)) = .ok ((table, column, type), options, extra) := by
  refine withOptions_give rfl rfl (by decide) ordered free (fun fields told => ?_) fun fields told => ?_
  · obtain ⟨table, column, type, -⟩ := told
    exact .seq (.seq (.map _ (reads_text table)) (reads_text column)) (.required type (ofJson_type named))
  · exact reads_columnOptions told writable

theorem reads_withText {table key value : String} (told : Entries.Tells fields [text "table" table, text key value]) :
    (withText key).Reads fields (table, value) := by
  obtain ⟨table, value, -⟩ := told
  exact .seq (.map _ (reads_text table)) (reads_text value)

/-- An argument of a table is read under its key. -/
theorem single_withText (key : String) (other : "table" ≠ key) (table value : String) :
    single (withText key) (Entries.give [] [text "table" table, text key value]) = .ok ((table, value), []) := by
  have distinct : (withText key).keys.Nodup := by
    change ["table", key].Nodup
    simpa using other
  exact single_give rfl distinct .nil nofun fun fields told => reads_withText told

/-- A foreign key that is named is read without the table it leads to. -/
theorem single_foreignKey (table name : String) :
    single foreignKeyShape (Entries.give [] [text "table" table, ("to_table", none), text "name" name]) =
      .ok ((table, none, some name), []) := by
  refine single_give rfl (by decide) .nil nofun fun fields told => ?_
  obtain ⟨table, target, named, -⟩ := told
  have absent : Entries.get? fields "to_table" = (text? "to_table" none).2 := target
  have given : Entries.get? fields "name" = (text? "name" (some name)).2 := named
  exact .seq (.seq (.map _ (reads_text table)) (reads_text? absent)) (reads_text? given)

/-- The instruction of an operation that is called by name is the one that a program calls for. -/
theorem ofCall_arguments (wording : Wording) {call : TypedCall} (writable : call.Writable) :
    Instruction.ofCall call.operation (call.arguments wording) = call.instruction := by
  obtain ⟨named, defaults, ordered, free⟩ := writable
  cases call with
  | createTable table columns =>
    have read : single (Prod.mk <$> tableShape <*> optional "columns" (Json.asList Column.ofJson) [])
        ((createTable table columns).arguments wording) = .ok ((table, columns), []) := by
      refine single_give rfl (by decide) ordered free fun fields told => ?_
      obtain ⟨table, columns, -⟩ := told
      exact .seq (.map _ (reads_text table)) (reads_option columns (asList_columns named defaults) List.isEmpty_iff.mp)
    simp only [operation, Instruction.ofCall, read]
    rfl
  | dropTable table =>
    have read : single tableShape ((dropTable table).arguments wording) = .ok (table, []) :=
      single_give rfl (by decide) ordered free fun fields told => reads_text told.1
    simp only [operation, Instruction.ofCall, read]
    rfl
  | addColumn table column type options extra =>
    have read : withOptions typedColumnShape ColumnOptions.shape
        ((addColumn table column type options extra).arguments wording) =
          .ok ((table, column, type), options, extra) :=
      withOptions_column wording table column (named type List.mem_cons_self)
        (fun value given => defaults value (Option.mem_toList.mpr given)) ordered free
    simp only [operation, Instruction.ofCall, read]
    rfl
  | changeColumn table column type options extra =>
    have read : withOptions typedColumnShape ColumnOptions.shape
        ((changeColumn table column type options extra).arguments wording) =
          .ok ((table, column, type), options, extra) :=
      withOptions_column wording table column (named type List.mem_cons_self)
        (fun value given => defaults value (Option.mem_toList.mpr given)) ordered free
    simp only [operation, Instruction.ofCall, read]
    rfl
  | removeColumn table column =>
    have read : single (withText "column") ((removeColumn table column).arguments wording) =
        .ok ((table, column), []) := single_withText "column" (by decide) table column
    simp only [operation, Instruction.ofCall, read]
    rfl
  | renameColumn table source target =>
    have read : single ((fun table source target => (table, source, target)) <$> tableShape
        <*> required "from" Json.asString <*> required "to" Json.asString)
        ((renameColumn table source target).arguments wording) = .ok ((table, source, target), []) := by
      refine single_give rfl (by decide) ordered free fun fields told => ?_
      obtain ⟨table, source, target, -⟩ := told
      exact .seq (.seq (.map _ (reads_text table)) (reads_text source)) (reads_text target)
    simp only [operation, Instruction.ofCall, read]
    rfl
  | changeColumnDefault table column default =>
    have read : single ((fun table column default => (table, column, default)) <$> tableShape
        <*> required "column" Json.asString <*> maybe "default" DefaultValue.ofJson)
        ((changeColumnDefault table column default).arguments wording) = .ok ((table, column, default), []) := by
      refine single_give rfl (by decide) ordered free fun fields told => ?_
      obtain ⟨table, column, default, -⟩ := told
      exact .seq (.seq (.map _ (reads_text table)) (reads_text column))
        (reads_default default fun value given => defaults value (Option.mem_toList.mpr given))
    simp only [operation, Instruction.ofCall, read]
    rfl
  | addReference table reference options extra =>
    have read : withOptions (withText "reference") ReferenceOptions.shape
        ((addReference table reference options extra).arguments wording) = .ok ((table, reference), options, extra) :=
      withOptions_give rfl rfl (by decide) ordered free (fun fields told => reads_withText told)
        fun fields told => reads_referenceOptions told (named options.type List.mem_cons_self)
    simp only [operation, Instruction.ofCall, read]
    rfl
  | removeReference table reference polymorphic =>
    have read : single ((fun table reference polymorphic => (table, reference, polymorphic)) <$> tableShape
        <*> required "reference" Json.asString <*> optional "polymorphic" Json.asBool false)
        ((removeReference table reference polymorphic).arguments wording) =
          .ok ((table, reference, polymorphic), []) := by
      refine single_give rfl (by decide) ordered free fun fields told => ?_
      obtain ⟨table, reference, polymorphic, -⟩ := told
      exact .seq (.seq (.map _ (reads_text table)) (reads_text reference)) (reads_flag polymorphic)
    simp only [operation, Instruction.ofCall, read]
    rfl
  | addIndex table columns options extra =>
    have read : withOptions (Prod.mk <$> tableShape <*> eitherKey "column" "columns" Columns.ofJson)
        IndexOptions.shape ((addIndex table columns options extra).arguments wording) =
          .ok ((table, .many columns), options, extra) := by
      refine withOptions_give rfl rfl (by decide) ordered free (fun fields told => ?_) fun fields told =>
        reads_indexOptions told
      obtain ⟨table, one, many, -⟩ := told
      exact .seq (.map _ (reads_text table)) (.eitherKey one many (Columns.ofJson_many columns))
    simp only [operation, Instruction.ofCall, read]
    rfl
  | removeIndex table choice extra =>
    have read : withOptions tableShape IndexChoice.shape ((removeIndex table choice extra).arguments wording) =
        .ok (table, choice, extra) :=
      withOptions_give rfl rfl (by decide) ordered free (fun fields told => reads_text told.1)
        fun fields told => reads_indexChoice told
    simp only [operation, Instruction.ofCall, read]
    rfl
  | addForeignKey table target options extra =>
    have read : withOptions (withText "to_table") ForeignKeyOptions.shape
        ((addForeignKey table target options extra).arguments wording) = .ok ((table, target), options, extra) :=
      withOptions_give rfl rfl (by decide) ordered free (fun fields told => reads_withText told)
        fun fields told => reads_foreignKeyOptions told
    simp only [operation, Instruction.ofCall, read]
    rfl
  | validateForeignKey table name =>
    have read : single foreignKeyShape ((validateForeignKey table name).arguments wording) =
        .ok ((table, none, some name), []) := single_foreignKey table name
    simp only [operation, Instruction.ofCall, read]
    rfl
  | removeForeignKey table name =>
    have read : single foreignKeyShape ((removeForeignKey table name).arguments wording) =
        .ok ((table, none, some name), []) := single_foreignKey table name
    simp only [operation, Instruction.ofCall, read]
    rfl
  | addCheckConstraint table expression name =>
    have read : single ((fun table expression name => (table, expression, name)) <$> tableShape
        <*> required "expression" Json.asString <*> maybe "name" Json.asString)
        ((addCheckConstraint table expression name).arguments wording) = .ok ((table, expression, name), []) := by
      refine single_give rfl (by decide) ordered free fun fields told => ?_
      obtain ⟨table, expression, name, -⟩ := told
      exact .seq (.seq (.map _ (reads_text table)) (reads_text expression)) (reads_text? name)
    simp only [operation, Instruction.ofCall, read]
    rfl
  | validateCheckConstraint table name =>
    have read : single (withText "name") ((validateCheckConstraint table name).arguments wording) =
        .ok ((table, name), []) := single_withText "name" (by decide) table name
    simp only [operation, Instruction.ofCall, read]
    rfl
  | removeCheckConstraint table name =>
    have read : single (withText "name") ((removeCheckConstraint table name).arguments wording) =
        .ok ((table, name), []) := single_withText "name" (by decide) table name
    simp only [operation, Instruction.ofCall, read]
    rfl

/-- An operation that is called by name with the arguments of a typed call records what the typed call records, after
whatever was recorded before, or fails as it does. -/
theorem call_eq_perform (wording : Wording) (recorder : Recorder) {call : TypedCall} (writable : call.Writable) :
    recorder.call call.operation.name (call.arguments wording) = recorder.perform call := by
  rw [Recorder.call, Operation.ofName?_name, Recorder.perform, ← ofCall_arguments wording writable]

/-- A column that refuses nulls, with a remark that has no meaning. -/
def remarkedColumn : TypedCall :=
  .addColumn "users" "email" (.varchar (some 255)) { nullable := false, default := some (.string "none") }
    [("remark", .string "for sign-in")]

/-- It is recorded from its named values, which stand in the order of their names. -/
theorem call_eq_perform_remarkedColumn :
    remarkedColumn.Writable ∧
      (Recorder.new .up {}).call "add_column"
        [("column", .string "email"), ("default", .string "none"), ("null", .bool false),
          ("remark", .string "for sign-in"), ("table", .string "users"), ("type", .string "string(255)"),
          ("unique", .bool false)] = (Recorder.new .up {}).perform remarkedColumn := by
  have writable : remarkedColumn.Writable := by
    refine ⟨?_, ?_, List.pairwise_singleton _ _, ?_⟩
    · rintro type (⟨⟩ | ⟨_, ⟨⟩⟩)
      exact ⟨"VARCHAR( 255 )", by decide +kernel⟩
    · rintro default (⟨⟩ | ⟨_, ⟨⟩⟩)
      trivial
    · decide
  exact ⟨writable, call_eq_perform {} (.new .up {}) writable⟩

end TypedCall

end SafeMigration
