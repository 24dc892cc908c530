import Mathlib.Tactic.MkIffOfInductiveProp
import SafeMigration.Proofs.Script.Section

/-!
The columns that are added to tables which may hold rows.

A column that holds no nulls needs a default for the rows there are. The rules ask for it where a column is added by
itself and not where it is added as part of a reference, and a reference gives no default to its columns. So these are
the columns, and the only ones, that are added without nulls and without a default.
-/

namespace SafeMigration

/-- A clause that adds a column without nulls and gives no default. A type in the words of its author is not looked
into. -/
@[mk_iff]
structure Piece.Unfilled (clause : List Piece) : Prop where
  adds : clause.head? = some (.words "ADD COLUMN ")
  notNull : .words " NOT NULL" ∈ clause
  noDefault : .words " DEFAULT " ∉ clause

namespace Statement

/-- The clauses of a statement: those of an alteration, which have commas between them, else all of it. -/
def clauses : Statement → List (List Piece)
  | alterTable _ actions => actions.map actionPieces
  | statement => [statement.pieces]

/-- The columns that a statement adds to a table that exists. -/
def addedColumns : Statement → List AddedColumn
  | alterTable _ actions => actions.filterMap fun
    | .addColumn column => some column
    | _ => none
  | _ => []

/-- The clauses are what a statement is written with, after a beginning that adds no column. -/
theorem exists_pieces_eq (statement : Statement) :
    ∃ start, statement.pieces = start ++ Piece.separated ", " statement.clauses ∧ .words "ADD COLUMN " ∉ start := by
  cases statement with
  | alterTable table actions => exact ⟨_, rfl, by simp⟩
  | _ => exact ⟨[], rfl, by simp⟩

theorem unfilled_addedPieces_iff (column : AddedColumn) :
    Piece.Unfilled (addedPieces column) ↔ column.nullable = false ∧ column.default = none := by
  cases nullable : column.nullable <;> cases default : column.default <;>
    simp [Piece.unfilled_iff, addedPieces, defaultPieces, nullable, default]

theorem exists_addColumn_of_unfilled {action : Action} (unfilled : Piece.Unfilled (actionPieces action)) :
    ∃ column, action = .addColumn column := by
  have adds := unfilled.adds
  cases action with
  | addColumn column => exact ⟨column, rfl⟩
  | _ => simp [actionPieces] at adds

/-- A statement has a clause without a default where it adds a column that has no nulls and no default. -/
theorem exists_unfilled_iff (statement : Statement) :
    (∃ clause ∈ statement.clauses, Piece.Unfilled clause) ↔
      ∃ column ∈ statement.addedColumns, column.nullable = false ∧ column.default = none := by
  cases statement with
  | alterTable table actions =>
    simp only [clauses, addedColumns, List.mem_map, List.mem_filterMap]
    constructor
    · rintro ⟨_, ⟨action, member, rfl⟩, unfilled⟩
      obtain ⟨column, rfl⟩ := exists_addColumn_of_unfilled unfilled
      exact ⟨column, ⟨_, member, rfl⟩, (unfilled_addedPieces_iff column).mp unfilled⟩
    · rintro ⟨column, ⟨action, member, isAdded⟩, lacking⟩
      obtain rfl : action = .addColumn column := by
        split at isAdded <;> simp_all
      exact ⟨_, ⟨_, member, rfl⟩, (unfilled_addedPieces_iff column).mpr lacking⟩
  | _ => simp [clauses, addedColumns, pieces, Piece.unfilled_iff]

theorem addedColumns_of_addColumn (table : String) (columns : List AddedColumn) :
    (alterTable table (columns.map .addColumn)).addedColumns = columns := by
  simp [addedColumns, List.filterMap_map]

/-- The columns of a reference hold nulls or not together, and have no default. -/
theorem exists_lacking_addedReference_iff {reference : String} {options : ReferenceOptions} :
    (∃ column ∈ addedReference reference options, column.nullable = false ∧ column.default = none) ↔
      options.nullable = false := by
  cases polymorphic : options.polymorphic <;> simp [addedReference, referenceColumns, polymorphic]

/-- Of the changes that meet their own rules, those that add a reference without nulls leave out a default. -/
theorem exists_unfilled_ofChange_iff {table : String} {change : Change} {statement : Statement}
    (sound : change.Sound) (asked : ofChange table change = .ok statement) :
    (∃ clause ∈ statement.clauses, Piece.Unfilled clause) ↔
      ∃ reference options, change = .addReference reference options ∧ options.nullable = false := by
  rw [exists_unfilled_iff]
  cases change with
  | addColumn column type options =>
    cases asked
    obtain ⟨filled, -⟩ := sound
    simp only [addedColumns, List.filterMap_cons, List.filterMap_nil, List.mem_singleton, exists_eq_left,
      reduceCtorEq, false_and, exists_false, iff_false]
    rintro ⟨nullable, default⟩
    simp [nullable, default] at filled
  | addReference reference options =>
    cases asked
    simp [addedColumns_of_addColumn, exists_lacking_addedReference_iff]
  | changeColumnDefault column value => cases value <;> cases asked <;> simp [addedColumns]
  | removeIndex choice =>
    rw [ofChange] at asked
    cases named : indexToDrop table choice with
    | error e => simp [named, Except.map] at asked
    | ok index =>
      simp only [named, Except.map, Except.ok.injEq] at asked
      simp [← asked, addedColumns]
  | _ => cases asked; simp [addedColumns]

end Statement

namespace Migration

variable {migration : Migration} {config : TimeoutConfig} {session : Session} {valid : ValidatedMigration}

/-- In the script of a migration that was handed on, the built-in instructions that add a column without nulls and
without a default are those that add a reference without nulls. -/
theorem unfilled_iff_addReference (success : (migration.validated config session).1 = .ok valid) :
    ∃ parts : Direction → ScriptSection,
      Renderer.postgres.render valid =
          .ok (Script.text ⟨valid.name, valid.capabilities, [parts .up, parts .down]⟩) ∧
        ∀ direction, (parts direction).direction = direction ∧
          ∀ table change extra, .change table change extra ∈ (valid.instructions direction).instructions →
            ∃ statement ∈ (parts direction).statements,
              Statement.ofInstruction (.change table change extra) = .ok [statement] ∧
              (∃ start, statement.pieces = start ++ Piece.separated ", " statement.clauses ∧
                .words "ADD COLUMN " ∉ start) ∧
              ((∃ clause ∈ statement.clauses, Piece.Unfilled clause) ↔
                ∃ reference options, change = .addReference reference options ∧ options.nullable = false) := by
  obtain ⟨parts, rendered, each⟩ := exists_sections success
  refine ⟨parts, rendered, fun direction => ⟨(each direction).2.1, fun table change extra member => ?_⟩⟩
  have passed := passed_of_validated success direction
  have sound : change.Sound := passed.permits.sound _ member
  obtain ⟨statement, asked⟩ := Statement.ofChange_of_sound table sound
  have only := Statement.ofInstruction_of_ofChange extra asked
  have written :=
    ScriptSection.mem_statements_of_passed passed (each direction).1 member only (List.mem_singleton_self _)
  exact ⟨statement, written, only, statement.exists_pieces_eq, Statement.exists_unfilled_ofChange_iff sound asked⟩

/-- A reference to an author that is added and removed. -/
def addAuthor (nullable : Bool) : Migration :=
  { name := "add_author_to_posts"
    up := some fun _ => .ok [.change "posts" (.addReference "author" { nullable }) []]
    down := some fun _ => .ok [.change "posts" (.removeReference "author" false) []] }

/-- What is handed on of it. -/
def addAuthorValid (nullable : Bool) : ValidatedMigration :=
  { name := "add_author_to_posts"
    up := ⟨.up, [.change "posts" (.addReference "author" { nullable }) []]⟩
    down := ⟨.down, [.change "posts" (.removeReference "author" false) []]⟩
    upTimeouts := ⟨.ofSeconds 5, .ofSeconds 60⟩
    downTimeouts := ⟨.ofSeconds 5, .ofSeconds 60⟩ }

/-- A reference that may be missing leaves the rows there are without one. -/
theorem unfilled_iff_addReference_addAuthor :
    ((addAuthor true).validated {} {}).1 = .ok (addAuthorValid true) ∧
      ∃ part : ScriptSection, part.direction = .up ∧
        ∃ statement ∈ part.statements, ¬ ∃ clause ∈ statement.clauses, Piece.Unfilled clause := by
  have success : ((addAuthor true).validated {} {}).1 = .ok (addAuthorValid true) := rfl
  obtain ⟨parts, -, each⟩ := unfilled_iff_addReference success
  obtain ⟨own, statements⟩ := each .up
  obtain ⟨statement, written, -, -, unfilled⟩ := statements _ _ _ (List.mem_singleton_self _)
  refine ⟨success, parts .up, own, statement, written, fun lacking => ?_⟩
  obtain ⟨reference, options, same, nullable⟩ := unfilled.mp lacking
  cases same
  cases nullable

/-- A reference that may not be missing passes, and its column is added without nulls and without a default. -/
theorem unfilled_addAuthor :
    ((addAuthor false).validated {} {}).1 = .ok (addAuthorValid false) ∧
      ∃ part statement, ScriptSection.ofDirection (addAuthorValid false) .up = .ok part ∧
        part.statements = [statement] ∧
        statement.text = "ALTER TABLE \"posts\" ADD COLUMN \"author_id\" BIGINT NOT NULL" ∧
        ∃ clause ∈ statement.clauses, Piece.Unfilled clause := by
  refine ⟨rfl, _, _, rfl, rfl, by decide +kernel, _, List.mem_singleton_self _, ?_⟩
  simp [Piece.unfilled_iff, Statement.actionPieces, Statement.addedPieces, Statement.defaultPieces]

end Migration

end SafeMigration
