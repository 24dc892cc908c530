import SafeMigration.Proofs.Script.Spelling

/-!
What stands in quotes in the statement of a change.

A change without SQL in the words of its author has the names of its table, columns, indexes and constraints in double
quotes and its string defaults in single quotes, in the order in which the statement names them, and nothing else.
-/

namespace SafeMigration

/-- Not an expression of SQL. -/
def DefaultValue.IsValue (default : Option DefaultValue) : Prop := ∀ sql, default ≠ some (.expression sql)

/-- There is no SQL in the words of its author in a change: neither a type nor a default nor a condition nor an
expression. -/
def Change.Plain : Change → Prop
  | .createTable columns => ∀ column ∈ columns, column.type.isCustom = false ∧ DefaultValue.IsValue column.default
  | .addColumn _ type options | .changeColumn _ type options =>
    type.isCustom = false ∧ DefaultValue.IsValue options.default
  | .changeColumnDefault _ default => DefaultValue.IsValue default
  | .addReference _ options => options.type.isCustom = false
  | .addIndex _ _ options => options.condition = none
  | .addCheckConstraint .. => False
  | _ => True

/-- A built-in instruction without SQL in the words of its author. -/
def Instruction.Plain : Instruction → Prop
  | .change _ c _ => c.Plain
  | .custom _ => False

namespace Sql

/-- A name in quotes. -/
abbrev name (s : String) : Lexeme := .quoted .name s

/-- A default in quotes, if it is a string. -/
def quotedDefault : Option DefaultValue → List Lexeme
  | some (.string s) => [.quoted .string s]
  | _ => []

/-- The names and the string defaults of a change to a table, in the order in which they are written. -/
def quotedOf (table : String) : Change → List Lexeme
  | .createTable columns => name table :: columns.flatMap fun column => name column.name :: quotedDefault column.default
  | .dropTable => [name table]
  | .addColumn column _ options => name table :: name column :: quotedDefault options.default
  | .removeColumn column => [name table, name column]
  | .changeColumn column _ options =>
    [name table, name column, name column] ++
      if options.default = none then [] else name column :: quotedDefault options.default
  | .renameColumn source target => [name table, name source, name target]
  | .changeColumnDefault column default => name table :: name column :: quotedDefault default
  | .addReference reference options =>
    [name table, name (reference ++ "_id")] ++ if options.polymorphic then [name (reference ++ "_type")] else []
  | .removeReference reference polymorphic =>
    [name table, name (reference ++ "_id")] ++ if polymorphic then [name (reference ++ "_type")] else []
  | .addIndex columns index _ => name index :: name table :: columns.map name
  | .removeIndex ⟨some index, _⟩ => [name index]
  | .removeIndex ⟨none, some columns⟩ => [name (Naming.index table columns.toList)]
  | .removeIndex ⟨none, none⟩ => []
  | .addForeignKey key => [name table, name key.name, name key.column, name key.target, name key.primaryKey]
  | .addCheckConstraint _ constraint | .validateForeignKey constraint | .validateCheckConstraint constraint
  | .removeForeignKey constraint | .removeCheckConstraint constraint => [name table, name constraint]

/-- Pieces that can be read, with some texts in quotes. -/
def Mentions (pieces : List Piece) (quoted : List Lexeme) : Prop :=
  ∃ lexemes, Spelled pieces lexemes ∧ lexemes.filter Lexeme.isQuoted = quoted

namespace Mentions

variable {pieces others : List Piece} {quoted more : List Lexeme}

theorem nil : Mentions [] [] := ⟨[], .nil, rfl⟩

theorem words {text : String} (ordinary : text.toList.all isOrdinary = true) (rest : Mentions pieces quoted) :
    Mentions (.words text :: pieces) quoted := by
  obtain ⟨lexemes, spelled, own⟩ := rest
  refine ⟨_, .words ordinary spelled, ?_⟩
  simpa [List.filter_map, Function.comp_def, Lexeme.isQuoted] using own

theorem unquoted {sql : String} (unquoted : Unquoted sql) (rest : Mentions pieces quoted) :
    Mentions (.given sql :: pieces) quoted := by
  obtain ⟨lexemes, spelled, own⟩ := rest
  refine ⟨_, .unquoted unquoted spelled, ?_⟩
  simpa [List.filter_map, Function.comp_def, Lexeme.isQuoted] using own

theorem identifier {s : String} (spaced : Spaced pieces) (rest : Mentions pieces quoted) :
    Mentions (.identifier s :: pieces) (name s :: quoted) := by
  obtain ⟨lexemes, spelled, own⟩ := rest
  exact ⟨_, .name spaced spelled, by rw [List.filter_cons_of_pos rfl, own]⟩

theorem string {s : String} (spaced : Spaced pieces) (rest : Mentions pieces quoted) :
    Mentions (.given (Text.enclose '\'' s) :: pieces) (.quoted .string s :: quoted) := by
  obtain ⟨lexemes, spelled, own⟩ := rest
  exact ⟨_, .string spaced spelled, by rw [List.filter_cons_of_pos rfl, own]⟩

theorem append (first : Mentions pieces quoted) (spaced : Spaced others) (second : Mentions others more) :
    Mentions (pieces ++ others) (quoted ++ more) := by
  obtain ⟨lexemes, spelled, own⟩ := first
  obtain ⟨lexemes', spelled', own'⟩ := second
  exact ⟨_, spelled.append spaced spelled', by rw [List.filter_append, own, own']⟩

/-- Words between lists of pieces keep them apart. -/
theorem separated {separator : String} (ordinary : separator.toList.all isOrdinary = true)
    (nonempty : separator.toList ≠ []) {lists : List (List Piece)} {parts : List (List Lexeme)}
    (each : List.Forall₂ Mentions lists parts) : Mentions (Piece.separated separator lists) parts.flatten := by
  have spaced : ∀ pieces, Spaced (.words separator :: pieces) := fun pieces => by
    cases first : separator.toList with
    | nil => exact absurd first nonempty
    | cons c cs =>
      rw [first] at ordinary
      simpa [Spaced, first] using (List.all_eq_true.mp ordinary) c List.mem_cons_self
  induction each with
  | nil => exact nil
  | @cons pieces quoted lists parts first others ih =>
    cases others with
    | nil => simpa [Piece.separated] using first
    | cons second others => exact first.append (spaced _) (.words ordinary ih)

theorem append_words (mentions : Mentions pieces quoted) {text : String}
    (ordinary : text.toList.all isOrdinary = true) (begins : text.toList.head?.any isOrdinary = true) :
    Mentions (pieces ++ [.words text]) quoted := by
  simpa using mentions.append (spaced_words begins []) (.words ordinary .nil)

/-- Nothing or a few words, after which something else can be put. -/
def Silent (pieces : List Piece) : Prop := Mentions pieces [] ∧ Spaced pieces

theorem silent_nil : Silent [] := ⟨nil, trivial⟩

theorem silent_words {text : String} (ordinary : text.toList.all isOrdinary = true)
    (begins : text.toList.head?.any isOrdinary = true) : Silent [.words text] := ⟨.words ordinary .nil, begins⟩

theorem append_silent (mentions : Mentions pieces quoted) (silent : Silent others) :
    Mentions (pieces ++ others) quoted := by
  simpa using mentions.append silent.2 silent.1

open Statement

theorem value {value : DefaultValue} (isValue : DefaultValue.IsValue (some value)) :
    Mentions [.given value.sql] (quotedDefault (some value)) := by
  cases value with
  | bool value => cases value <;> exact .unquoted (unquoted_of_all (by decide) (by decide)) .nil
  | integer n => exact .unquoted (unquoted_toString_int n) .nil
  | float x => exact .unquoted (unquoted_float x) .nil
  | string s => exact .string trivial .nil
  | expression sql => exact absurd rfl (isValue sql)

theorem default {default : Option DefaultValue} (isValue : DefaultValue.IsValue default) :
    Mentions (defaultPieces default) (quotedDefault default) ∧ Spaced (defaultPieces default) := by
  cases default with
  | none => exact ⟨nil, trivial⟩
  | some value => exact ⟨.words (by decide) (Mentions.value isValue), spaced_words (by decide) _⟩

/-- A column is written with its name, its type, what is said about nulls, and its default. -/
theorem column {column : String} {type : ColumnType} {nulls : List Piece} {default : Option DefaultValue}
    (known : type.isCustom = false) (silent : Silent nulls) (isValue : DefaultValue.IsValue default) :
    Mentions ([.identifier column, .words " ", .given type.postgresName] ++ nulls ++ defaultPieces default)
      (name column :: quotedDefault default) := by
  have typed : Mentions [.identifier column, .words " ", .given type.postgresName] [name column] :=
    .identifier (spaced_words (by decide) _) (.words (by decide) (.unquoted (unquoted_postgresName known) .nil))
  exact (typed.append_silent silent).append (Mentions.default isValue).2 (Mentions.default isValue).1

/-- Names with commas between them. -/
theorem names (columns : List String) : Mentions (Piece.names columns) (columns.map name) := by
  have listed : Piece.names columns = Piece.separated ", " (columns.map fun column => [.identifier column]) := by
    induction columns with
    | nil => rfl
    | cons column columns ih =>
      cases columns with
      | nil => rfl
      | cons second columns => exact congrArg (.identifier column :: .words ", " :: ·) ih
  have each : List.Forall₂ Mentions (columns.map fun column => [.identifier column])
      (columns.map fun column => [name column]) := by
    rw [List.forall₂_map_left_iff, List.forall₂_map_right_iff, List.forall₂_same]
    exact fun column _ => .identifier trivial .nil
  have flat : (columns.map fun column => [name column]).flatten = columns.map name := by
    rw [← List.flatMap_def]
    exact List.flatMap_pure_eq_map name columns
  rw [listed, ← flat]
  exact separated (by decide) (by decide) each

theorem silent_event {event : String} (named : event = "DELETE" ∨ event = "UPDATE")
    (action : Option ReferentialAction) : Silent (eventPieces event action) := by
  rcases action with _ | action
  · exact silent_nil
  · rcases named with rfl | rfl <;> cases action <;> exact silent_words (by decide) (by decide)

/-- The alterations of a table are written with commas between them. -/
theorem altered {table : String} {actions : List Action} {parts : List (List Lexeme)}
    (each : List.Forall₂ (fun action part => Mentions (actionPieces action) part) actions parts) :
    Mentions (alterTable table actions).pieces (name table :: parts.flatten) :=
  .words (by decide) (.identifier (spaced_words (by decide) _)
    (.words (by decide) (.separated (by decide) (by decide) (List.forall₂_map_left_iff.mpr each))))

/-- An action that has words around one name. -/
theorem of_name {before s after : String} (ordinary : before.toList.all isOrdinary = true)
    (ordinary' : after.toList.all isOrdinary = true) (begins : after.toList.head?.any isOrdinary = true) :
    Mentions [.words before, .identifier s, .words after] [name s] :=
  .words ordinary (.identifier (spaced_words begins _) (.words ordinary' .nil))

theorem altered_one {table : String} {action : Action} (mentions : Mentions (actionPieces action) quoted) :
    Mentions (alterTable table [action]).pieces (name table :: quoted) := by
  simpa using altered (.cons mentions .nil)

theorem newColumn {column : Column} (known : column.type.isCustom = false)
    (isValue : DefaultValue.IsValue column.default) :
    Mentions (columnPieces column) (name column.name :: quotedDefault column.default) := by
  refine Mentions.column known ?_ isValue
  split
  · exact silent_words (by decide) (by decide)
  split
  · exact silent_nil
  · exact silent_words (by decide) (by decide)

theorem addedColumn {column : AddedColumn} (known : column.type.isCustom = false)
    (isValue : DefaultValue.IsValue column.default) :
    Mentions (addedPieces column) (name column.name :: quotedDefault column.default) := by
  refine .words (by decide) (Mentions.column known ?_ isValue)
  split
  · exact silent_nil
  · exact silent_words (by decide) (by decide)

/-- The key and the type of a reference, of which the latter is there if the reference is polymorphic. -/
theorem alteredReference {table reference : String} {polymorphic : Bool} {key type : Action}
    (first : Mentions (actionPieces key) [name (reference ++ "_id")])
    (second : Mentions (actionPieces type) [name (reference ++ "_type")]) :
    Mentions (alterTable table (key :: if polymorphic then [type] else [])).pieces
      ([name table, name (reference ++ "_id")] ++ if polymorphic then [name (reference ++ "_type")] else []) := by
  cases polymorphic with
  | false => simpa using altered (.cons first .nil)
  | true => simpa using altered (.cons first (.cons second .nil))

theorem changedColumn {table column : String} {type : ColumnType} {options : ColumnOptions}
    (known : type.isCustom = false) (isValue : DefaultValue.IsValue options.default) :
    Mentions (alterTable table ([.setType column type, .setNullable column options.nullable] ++
        (options.default.map (Action.setDefault column)).toList)).pieces
      (quotedOf table (.changeColumn column type options)) := by
  have typed : Mentions (actionPieces (.setType column type)) [name column] :=
    .words (by decide) (.identifier (spaced_words (by decide) _)
      (.words (by decide) (.unquoted (unquoted_postgresName known) .nil)))
  have nulls : Mentions (actionPieces (.setNullable column options.nullable)) [name column] := by
    cases options.nullable <;> exact of_name (by decide) (by decide) (by decide)
  cases given : options.default with
  | none => simpa [quotedOf, given] using altered (.cons typed (.cons nulls .nil))
  | some default =>
    have set : Mentions (actionPieces (.setDefault column default)) (name column :: quotedDefault (some default)) :=
      .words (by decide) (.identifier (spaced_words (by decide) _)
        (.words (by decide) (.value (given ▸ isValue))))
    simpa [quotedOf, given] using altered (.cons typed (.cons nulls (.cons set .nil)))

/-- An index without a condition. -/
theorem createIndex {table index : String} {columns : List String} {options : IndexOptions}
    (unconditional : options.condition = none) :
    Mentions (Statement.createIndex table columns index options).pieces
      (name index :: name table :: columns.map name) := by
  have written : (Statement.createIndex table columns index options).pieces =
      .words "CREATE " :: .words (if options.unique then "UNIQUE " else "") :: .words "INDEX CONCURRENTLY " ::
        .identifier index :: .words " ON " :: .identifier table :: .words " USING " ::
        .words options.method.name :: .words " (" :: (Piece.names columns ++ [.words ")"]) := by
    simp [pieces, unconditional]
  have unique : (if options.unique then "UNIQUE " else "").toList.all isOrdinary = true := by
    cases options.unique <;> decide
  have method : options.method.name.toList.all isOrdinary = true := by cases options.method <;> decide
  have listed : Mentions (Piece.names columns ++ [.words ")"]) (columns.map name) :=
    (names columns).append_words (by decide) (by decide)
  rw [written]
  exact .words (by decide) (.words unique (.words (by decide) (.identifier (spaced_words (by decide) _)
    (.words (by decide) (.identifier (spaced_words (by decide) _)
      (.words (by decide) (.words method (.words (by decide) listed))))))))

theorem addForeignKey (key : ForeignKey) :
    Mentions (actionPieces (.addForeignKey key))
      [name key.name, name key.column, name key.target, name key.primaryKey] := by
  have link : Mentions [.words "ADD CONSTRAINT ", .identifier key.name, .words " FOREIGN KEY (",
      .identifier key.column, .words ") REFERENCES ", .identifier key.target, .words " (",
      .identifier key.primaryKey, .words ")"]
      [name key.name, name key.column, name key.target, name key.primaryKey] :=
    .words (by decide) (.identifier (spaced_words (by decide) _)
      (.words (by decide) (.identifier (spaced_words (by decide) _)
        (.words (by decide) (.identifier (spaced_words (by decide) _)
          (of_name (by decide) (by decide) (by decide)))))))
  have events := (link.append_silent (silent_event (.inl rfl) key.onDelete)).append_silent
    (silent_event (.inr rfl) key.onUpdate)
  exact events.append_words (by decide) (by decide)

end Mentions

open Statement Mentions

/-- The statement of a change without SQL in the words of its author. -/
theorem mentions_of_plain {table : String} {change : Change} {statement : Statement} (plain : change.Plain)
    (asked : ofChange table change = .ok statement) : Mentions statement.pieces (quotedOf table change) := by
  cases change with
  | createTable columns =>
    cases asked
    have each : List.Forall₂ Mentions (columns.map columnPieces)
        (columns.map fun column => name column.name :: quotedDefault column.default) := by
      rw [List.forall₂_map_left_iff, List.forall₂_map_right_iff, List.forall₂_same]
      exact fun column member => .newColumn (plain column member).1 (plain column member).2
    exact .words (by decide) (.identifier (spaced_words (by decide) _)
      (.words (by decide) ((separated (by decide) (by decide) each).append_words (by decide) (by decide))))
  | dropTable => cases asked; exact .words (by decide) (.identifier trivial .nil)
  | addColumn column type options =>
    cases asked
    exact altered_one (addedColumn plain.1 plain.2)
  | removeColumn column =>
    cases asked
    exact altered_one (.words (by decide) (.identifier trivial .nil))
  | changeColumn column type options =>
    cases asked
    exact changedColumn plain.1 plain.2
  | renameColumn source target =>
    cases asked
    exact altered_one (.words (by decide) (.identifier (spaced_words (by decide) _)
      (.words (by decide) (.identifier trivial .nil))))
  | changeColumnDefault column value =>
    cases value with
    | none =>
      cases asked
      exact altered_one (of_name (by decide) (by decide) (by decide))
    | some value =>
      cases asked
      exact altered_one (.words (by decide) (.identifier (spaced_words (by decide) _)
        (.words (by decide) (.value plain))))
  | addReference reference options =>
    cases asked
    have added : ∀ column type, type.isCustom = false →
        Mentions (actionPieces (.addColumn ⟨column, type, options.nullable, none⟩)) [name column] :=
      fun column type known => addedColumn known fun sql same => by cases same
    have key := added (reference ++ "_id") options.type plain
    have type := added (reference ++ "_type") (.varchar none) rfl
    have both : Mentions (alterTable table (_ :: if options.polymorphic then [_] else [])).pieces _ :=
      alteredReference key type
    cases polymorphic : options.polymorphic <;>
      simpa [quotedOf, polymorphic, addedReference, referenceColumns] using both
  | removeReference reference polymorphic =>
    cases asked
    have dropped : ∀ column, Mentions (actionPieces (.dropColumn column)) [name column] :=
      fun column => .words (by decide) (.identifier trivial .nil)
    have both : Mentions (alterTable table (_ :: if polymorphic then [_] else [])).pieces _ :=
      alteredReference (dropped (reference ++ "_id")) (dropped (reference ++ "_type"))
    cases polymorphic <;> simpa [quotedOf, referenceColumns] using both
  | addIndex columns index options =>
    cases asked
    exact createIndex plain
  | removeIndex choice =>
    obtain ⟨_ | index, _ | columns⟩ := choice <;> cases asked <;>
      exact .words (by decide) (.identifier trivial .nil)
  | addForeignKey key =>
    cases asked
    exact altered_one (.addForeignKey key)
  | addCheckConstraint => cases plain
  -- What is left validates or drops one constraint.
  | _ =>
    cases asked
    exact altered_one (.words (by decide) (.identifier trivial .nil))

end Sql

end SafeMigration
