import SafeMigration.Proofs.Instruction.Called
import SafeMigration.Proofs.Script.Section
import SafeMigration.Proofs.Validation.Rules

/-!
An index that is dropped by its columns, and the one that was built on them.

The name of an index without a name of its own is derived where it is built and again where it is dropped. Both times it
is the same, so dropping by columns undoes building on them. But an index is only built on columns with a name, at least
one of them, while it is dropped by any list of columns. Where there is none to drop, the statement does nothing.
-/

namespace SafeMigration

/-- Columns that an index can be built on: at least one, and each with a name. -/
def Columns.Indexable (columns : Columns) : Prop :=
  columns.toList ≠ [] ∧ ∀ column ∈ columns.toList, Text.isBlankText column = false

/-- The arguments of a call that builds an index, with the columns under one of two keys. -/
def Wording.indexArguments (wording : Wording) (table : String) (columns : Columns) (options : IndexOptions) : Given :=
  [text "table" table, ("column", if wording.plural then none else some columns.json),
    ("columns", if wording.plural then some columns.json else none)] ++ wording.indexOptions options

/-- A statement drops what another one builds: an index of the same name, quoted in the same way. -/
def Statement.Undoes (removal addition : Statement) : Prop :=
  ∃ name unique rest, removal.text = "DROP INDEX CONCURRENTLY IF EXISTS " ++ Piece.quotedName name ∧
    (unique = "" ∨ unique = "UNIQUE ") ∧
    addition.text = "CREATE " ++ unique ++ "INDEX CONCURRENTLY " ++ Piece.quotedName name ++ " ON " ++ rest

/-- One column is written as a text, several are a list. -/
theorem Columns.ofJson_of_json (columns : Columns) : Columns.ofJson columns.json = .ok columns := by
  cases columns with
  | one column => rfl
  | many columns => exact Columns.ofJson_many columns

namespace Instruction

open Json.Shape Wording

variable {table : String} {columns : List String} {options : IndexOptions} {extra : Fields}

/-- An index is added on columns with a name, under its own name or the derived one. -/
theorem addIndex_eq_ok_iff {addition : Instruction} :
    addIndex table columns options extra = .ok addition ↔
      (columns ≠ [] ∧ ∀ column ∈ columns, Text.isBlankText column = false) ∧
        addition = .change table (.addIndex columns (options.name.getD (Naming.index table columns)) options) extra := by
  rw [addIndex]
  split
  · next refused =>
    simp only [reduceCtorEq, false_iff, not_and]
    rintro ⟨some, named⟩
    simp only [Bool.or_eq_true, List.isEmpty_iff, List.any_eq_true] at refused
    rcases refused with none | ⟨column, member, blank⟩
    · exact absurd none some
    · simp [named column member] at blank
  · next accepted =>
    simp only [Bool.or_eq_true, List.isEmpty_iff, List.any_eq_true, not_or, not_exists, not_and,
      Bool.not_eq_true] at accepted
    constructor
    · rintro ⟨⟩
      exact ⟨accepted, rfl⟩
    · rintro ⟨-, rfl⟩
      rfl

/-- Columns are read from a call as they are given to a program. -/
theorem ofCall_indexArguments (wording : Wording) (table : String) (columns : Columns) (options : IndexOptions)
    (ordered : Entries.Ordered extra) (free : ∀ entry ∈ extra, entry.1 ∉ Operation.addIndex.typedKeys) :
    ofCall .addIndex (Entries.give extra (wording.indexArguments table columns options)) =
      addIndex table columns.toList options extra := by
  have read : withOptions (Prod.mk <$> tableShape <*> eitherKey "column" "columns" Columns.ofJson) IndexOptions.shape
      (Entries.give extra (wording.indexArguments table columns options)) = .ok ((table, columns), options, extra) := by
    refine withOptions_give rfl rfl (by decide) ordered free (fun fields told => ?_) fun fields told =>
      reads_indexOptions told
    obtain ⟨table, one, many, -⟩ := told
    exact .seq (.map _ (reads_text table)) (.eitherKey one many columns.ofJson_of_json)
  simp only [ofCall, read]
  rfl

/-- The statement that drops an index undoes the one that builds it under the same name. -/
theorem undoes_createIndex (table : String) (columns : List String) (name : String) (options : IndexOptions) :
    (Statement.dropIndex name).Undoes (.createIndex table columns name options) := by
  obtain ⟨rest, pieces⟩ : ∃ rest, (Statement.createIndex table columns name options).pieces =
      [.words "CREATE ", .words (if options.unique then "UNIQUE " else ""), .words "INDEX CONCURRENTLY ",
        .identifier name, .words " ON "] ++ rest := ⟨_, rfl⟩
  refine ⟨name, if options.unique then "UNIQUE " else "", String.join (rest.map Piece.text), ?_, ?_, ?_⟩
  · simp [Statement.text, Statement.pieces, Piece.text]
  · cases options.unique <;> simp
  · simp only [Statement.text, pieces, List.map_append, List.map_cons, List.map_nil, Piece.text, String.join_append,
      String.join_cons, String.join_nil, String.append_empty, String.append_assoc]

/-- An index that is dropped by columns is the one that is built on them under no name of its own, however the columns
are given. Building it is accepted exactly if there is a column and each has a name. -/
theorem removal_matches_addition {choice : IndexChoice} (unnamed : choice.name = none)
    (sound : (change table (.removeIndex choice) extra).violations = []) :
    ∃ columns removal, choice.columns = some columns ∧
      Statement.ofInstruction (change table (.removeIndex choice) extra) = .ok [removal] ∧
      ∀ (wording : Wording) (options : IndexOptions) (others : Fields), options.name = none →
        Entries.Ordered others → (∀ entry ∈ others, entry.1 ∉ Operation.addIndex.typedKeys) →
        ((∃ addition, ofCall .addIndex (Entries.give others (wording.indexArguments table columns options)) =
          .ok addition) ↔ columns.Indexable) ∧
        ∀ addition, ofCall .addIndex (Entries.give others (wording.indexArguments table columns options)) =
          .ok addition → (options.method ≠ .hash → addition.violations = []) ∧
            ∃ statement, Statement.ofInstruction addition = .ok [statement] ∧ removal.Undoes statement := by
  rw [violations_eq_nil_iff] at sound
  obtain named | given := sound
  · exact absurd unnamed named
  obtain ⟨columns, given⟩ := Option.ne_none_iff_exists'.mp given
  refine ⟨columns, .dropIndex (Naming.index table columns.toList), given, ?_, ?_⟩
  · simp only [Statement.ofInstruction, Statement.ofChange, Statement.indexToDrop, unnamed, given]
    rfl
  intro wording options others free_name ordered free
  rw [ofCall_indexArguments wording table columns options ordered free]
  refine ⟨⟨?_, ?_⟩, ?_⟩
  · rintro ⟨addition, accepted⟩
    exact (addIndex_eq_ok_iff.mp accepted).1
  · intro indexable
    exact ⟨_, addIndex_eq_ok_iff.mpr ⟨indexable, rfl⟩⟩
  · intro addition accepted
    obtain ⟨-, rfl⟩ := addIndex_eq_ok_iff.mp accepted
    refine ⟨fun other => (violations_eq_nil_iff _).mpr other, _, rfl, ?_⟩
    rw [free_name, Option.getD_none]
    exact undoes_createIndex table columns.toList _ options

/-- A column with a quote in its name is dropped as it was indexed. -/
theorem removal_matches_addition_quoted :
    ∃ removal addition statement,
      Statement.ofInstruction (change "users" (.removeIndex { columns := some (.many ["e\"mail", "id"]) }) []) =
        .ok [removal] ∧
      ofCall .addIndex [("column", .array [.string "e\"mail", .string "id"]), ("remark", .null),
        ("table", .string "users"), ("unique", .bool true)] = .ok addition ∧
      addition.violations = [] ∧ Statement.ofInstruction addition = .ok [statement] ∧ removal.Undoes statement := by
  obtain ⟨columns, removal, given, drops, matching⟩ :=
    @removal_matches_addition "users" [] { columns := some (.many ["e\"mail", "id"]) } rfl rfl
  obtain rfl : columns = .many ["e\"mail", "id"] := by simpa using given.symm
  obtain ⟨accepted, undone⟩ := matching { plural := false, omits := fun _ => true } { unique := true }
    [("remark", .null)] rfl (List.pairwise_singleton _ _) (by decide)
  obtain ⟨addition, called⟩ := accepted.mpr ⟨by decide, by decide⟩
  obtain ⟨sound, statement, builds, undoes⟩ := undone addition called
  exact ⟨removal, addition, statement, drops, called, sound (by decide), builds, undoes⟩

/-- No column passes as the choice of an index to drop, and the statement names an index that cannot be built. -/
theorem removal_of_no_column :
    ofCall .removeIndex [("column", .array []), ("table", .string "users")] =
        .ok (change "users" (.removeIndex { columns := some (.many []) }) []) ∧
      (change "users" (.removeIndex { columns := some (.many []) }) []).violations = [] ∧
      Statement.ofInstruction (change "users" (.removeIndex { columns := some (.many []) }) []) =
        .ok [.dropIndex "index_users_on_"] ∧
      ofCall .addIndex [("column", .array []), ("table", .string "users")] =
        .error (.invalidArgument "add_index" (.rule "at least one non-empty column is required")) := by
  refine ⟨rfl, rfl, ?_, rfl⟩
  simp [Statement.ofInstruction, Statement.ofChange, Statement.indexToDrop, Naming.index, Columns.toList, Except.map]

end Instruction

end SafeMigration
