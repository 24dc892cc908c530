import SafeMigration.Proofs.Decimal.Shortest
import SafeMigration.Proofs.Instruction.FreeForm
import SafeMigration.Proofs.Json.Around
import SafeMigration.Proofs.Script.Section

/-!
What is written for the default of a column.

A default stands among the arguments of a call, or in a column of a new table. A call that is accepted without a default
is accepted with one, and in its statement the text of the default is all that depends on it. The text of an integer is
its decimal notation as long as it fits 64 bits with a sign. Beyond that it is kept as a floating point number, and is
only written as it was given if it is the shortest number that rounds to that.
-/

namespace SafeMigration

/-- A column of a new table in a document, without its default. -/
inductive ColumnForm where
  /-- Its fields are given by name. -/
  | named (fields : Around "default")
  /-- Its fields are given in their order. -/
  | listed (name type nullable : Json) (rest : List Json)

/-- The column with a value for its default. -/
def ColumnForm.fill : ColumnForm → Json → Json
  | named fields, default => .object (fields.fill default)
  | listed name type nullable rest, default => .array (name :: type :: nullable :: default :: rest)

/-- A call that gives a default to a column, without that default. -/
inductive DefaultPlace where
  | addColumn (arguments : Around "default")
  | changeColumn (arguments : Around "default")
  | changeColumnDefault (arguments : Around "default")
  | createTable (arguments : Around "columns") (earlier : List Json) (column : ColumnForm) (later : List Json)

namespace DefaultPlace

/-- The operation that is called. -/
def operation : DefaultPlace → Operation
  | addColumn _ => .addColumn
  | changeColumn _ => .changeColumn
  | changeColumnDefault _ => .changeColumnDefault
  | createTable .. => .createTable

/-- The arguments with a value for the default. -/
def fill : DefaultPlace → Json → Fields
  | addColumn arguments, default | changeColumn arguments, default | changeColumnDefault arguments, default =>
    arguments.fill default
  | createTable arguments earlier column later, default =>
    arguments.fill (.array (earlier ++ column.fill default :: later))

end DefaultPlace

/-- A change that gives a default to a column, by that default. -/
inductive Change.Defaulting : (DefaultValue → Change) → Prop
  | addColumn (column : String) (type : ColumnType) (options : ColumnOptions) :
    Defaulting fun default => .addColumn column type { options with default := some default }
  | changeColumn (column : String) (type : ColumnType) (options : ColumnOptions) :
    Defaulting fun default => .changeColumn column type { options with default := some default }
  | changeColumnDefault (column : String) : Defaulting fun default => .changeColumnDefault column (some default)
  | createTable (earlier : List Column) (column : Column) (later : List Column) :
    Defaulting fun default => .createTable (earlier ++ column.withDefault default :: later)

section Reading

open Json Json.Shape

variable {value : Json} {default : DefaultValue}

theorem DefaultValue.asOption_of_ok (own : ofJson value = .ok default) :
    asOption ofJson value = .ok (some default) := by
  cases value with
  | null => cases own
  | _ => exact congrArg (Except.map some) own

theorem takes_default (own : DefaultValue.ofJson value = .ok default) :
    (maybe "default" DefaultValue.ofJson).Takes "default" value :=
  .own (DefaultValue.asOption_of_ok own)

theorem read_default (around : Around "default") (own : DefaultValue.ofJson value = .ok default) :
    (maybe "default" DefaultValue.ofJson).read (around.fill value) = .ok (some default) := by
  simp only [maybe, Shape.optional, around.get?_fill, DefaultValue.asOption_of_ok own]

/-- The options of a column are read with a default as they are without. -/
theorem ColumnOptions.ofFields_default {around : Around "default"} {options : ColumnOptions}
    (own : DefaultValue.ofJson value = .ok default) (accepted : shape.ofFields (around.fill .null) = .ok options) :
    shape.ofFields (around.fill value) = .ok { options with default := some default } := by
  have takes : shape.Takes "default" value :=
    .seq (.seq (.map _ (.optional (by decide))) (takes_default own)) (.optional (by decide))
  refine ofFields_fill takes accepted ?_
  have read := (ofFields_eq_ok_iff.mp accepted).2
  simp only [shape, read_seq_eq_ok_iff, read_map_eq_ok_iff] at read ⊢
  obtain ⟨_, unique, ⟨_, _, ⟨nullable, readNullable, rfl⟩, -, rfl⟩, readUnique, rfl⟩ := read
  rw [(Local.optional ..).read_fill_eq around (by decide) .null value] at readNullable readUnique
  exact ⟨_, unique, ⟨_, _, ⟨nullable, readNullable, rfl⟩, read_default around own, rfl⟩, readUnique, rfl⟩

namespace Column

theorem takes_default (own : DefaultValue.ofJson value = .ok default) : shape.Takes "default" value :=
  .seq (.seq (.seq (.seq (.map _ (.required (by decide))) (.required (by decide))) (.optional (by decide)))
    (SafeMigration.takes_default own)) (.optional (by decide))

/-- A column is read with a default as it is without. -/
theorem ofFields_default {around : Around "default"} {column : Column}
    (own : DefaultValue.ofJson value = .ok default) (accepted : shape.ofFields (around.fill .null) = .ok column) :
    shape.ofFields (around.fill value) = .ok (column.withDefault default) := by
  refine ofFields_fill (takes_default own) accepted ?_
  have read := (ofFields_eq_ok_iff.mp accepted).2
  simp only [shape, read_seq_eq_ok_iff, read_map_eq_ok_iff] at read ⊢
  obtain ⟨_, primaryKey, ⟨_, _, ⟨_, nullable, ⟨_, type, ⟨name, readName, rfl⟩, readType, rfl⟩, readNullable, rfl⟩, -, rfl⟩,
    readPrimaryKey, rfl⟩ := read
  rw [(Local.required ..).read_fill_eq around (by decide) .null value] at readName readType
  rw [(Local.optional ..).read_fill_eq around (by decide) .null value] at readNullable readPrimaryKey
  exact ⟨_, primaryKey, ⟨_, _, ⟨_, nullable, ⟨_, type, ⟨name, readName, rfl⟩, readType, rfl⟩, readNullable, rfl⟩,
    read_default around own, rfl⟩, readPrimaryKey, rfl⟩

/-- In either form. -/
theorem ofJson_default {form : ColumnForm} {column : Column} (own : DefaultValue.ofJson value = .ok default)
    (accepted : ofJson (form.fill .null) = .ok column) :
    ofJson (form.fill value) = .ok (column.withDefault default) := by
  cases form with
  | named fields => exact ofFields_default own accepted
  | listed name type nullable rest =>
    let around : Around "default" :=
      ⟨[("name", name), ("type", type), ("null", nullable)], ["primary_key"].zip rest, by simp⟩
    have accepted : shape.ofItems _ (name :: type :: nullable :: .null :: rest) = .ok column := accepted
    obtain ⟨fields, short⟩ := ofItems_eq_ok_iff.mp accepted
    have fields : shape.ofFields (around.fill .null) = .ok column := fields
    exact ofItems_eq_ok_iff.mpr ⟨ofFields_default own fields, short⟩

end Column

/-- Of a list that is read one element can be read as another one. -/
theorem mapM_middle {α β : Type} {read : α → Except Mismatch β} {earlier later : List α} {a : α} {bs : List β}
    (accepted : (earlier ++ a :: later).mapM read = .ok bs) :
    ∃ before b after, read a = .ok b ∧
      ∀ a' b', read a' = .ok b' → (earlier ++ a' :: later).mapM read = .ok (before ++ b' :: after) := by
  simp only [List.mapM_append, List.mapM_cons, bind, Except.bind, pure, Except.pure] at accepted ⊢
  cases first : earlier.mapM read with
  | error mismatch => simp [first] at accepted
  | ok before =>
    cases middle : read a with
    | error mismatch => simp [first, middle] at accepted
    | ok b =>
      cases last : later.mapM read with
      | error mismatch => simp [first, middle, last] at accepted
      | ok after => exact ⟨before, b, after, rfl, fun a' b' own => by simp [own]⟩

end Reading

namespace DefaultPlace

open Instruction Json Json.Shape

variable {value : Json} {default : DefaultValue} {operation : Operation} {α β : Type}

theorem argumentsOf_bind_eq_ok_iff {read : Except Mismatch α} {next : α → Except MigrationError β} {b : β} :
    (argumentsOf operation read >>= next) = .ok b ↔ ∃ a, read = .ok a ∧ next a = .ok b := by
  cases read <;> simp [argumentsOf, Except.mapError, bind, Except.bind]

theorem single_eq_ok_iff {shape : Shape α} {arguments extra : Fields} {a : α} :
    single shape arguments = .ok (a, extra) ↔
      shape.ofFields arguments = .ok a ∧ Entries.without arguments shape.keys = extra := by
  rw [single]
  cases shape.ofFields arguments <;> simp [bind, Except.bind, pure, Except.pure]

theorem withOptions_eq_ok_iff {shape : Shape α} {options : Shape β} {arguments extra : Fields} {a : α} {b : β} :
    withOptions shape options arguments = .ok (a, b, extra) ↔
      shape.ofFields arguments = .ok a ∧ options.ofFields (Entries.without arguments shape.keys) = .ok b ∧
        Entries.without (Entries.without arguments shape.keys) options.keys = extra := by
  rw [withOptions]
  cases first : shape.ofFields arguments with
  | error mismatch => simp [bind, Except.bind]
  | ok own =>
    cases second : options.ofFields (Entries.without arguments shape.keys) <;>
      simp [second, bind, Except.bind, pure, Except.pure]

/-- A column of a table and its options are read with a default as they are without. -/
theorem withOptions_default {around : Around "default"} {own : String × String × ColumnType} {options : ColumnOptions}
    {extra : Fields} (given : DefaultValue.ofJson value = .ok default)
    (accepted : withOptions typedColumnShape ColumnOptions.shape (around.fill .null) = .ok (own, options, extra)) :
    withOptions typedColumnShape ColumnOptions.shape (around.fill value) =
      .ok (own, { options with default := some default }, extra) := by
  rw [withOptions_eq_ok_iff, around.fill_without _ (by decide)] at accepted ⊢
  obtain ⟨typed, chosen, left⟩ := accepted
  refine ⟨?_, ColumnOptions.ofFields_default given chosen, ?_⟩
  · rwa [local_typedColumnShape.ofFields_fill_eq around (by decide) value .null]
  · rwa [Around.without_fill _ value .null (by decide)]

/-- A default is changed as it is given. -/
theorem single_default {around : Around "default"} {table column : String} {old : Option DefaultValue} {extra : Fields}
    (given : DefaultValue.ofJson value = .ok default)
    (accepted : single ((fun table column default => (table, column, default)) <$> tableShape
      <*> required "column" Json.asString <*> maybe "default" DefaultValue.ofJson) (around.fill .null) =
        .ok ((table, column, old), extra)) :
    single ((fun table column default => (table, column, default)) <$> tableShape
      <*> required "column" Json.asString <*> maybe "default" DefaultValue.ofJson) (around.fill value) =
        .ok ((table, column, some default), extra) := by
  obtain ⟨fields, left⟩ := single_eq_ok_iff.mp accepted
  refine single_eq_ok_iff.mpr ⟨ofFields_fill ?_ fields ?_, ?_⟩
  · exact .seq (.seq (.map _ (.required (by decide))) (.required (by decide))) (takes_default given)
  · have read := (ofFields_eq_ok_iff.mp fields).2
    simp only [read_seq_eq_ok_iff, read_map_eq_ok_iff] at read ⊢
    obtain ⟨_, _, ⟨_, column, ⟨table, readTable, rfl⟩, readColumn, rfl⟩, -, same⟩ := read
    cases same
    rw [local_tableShape.read_fill_eq around (by decide) .null value] at readTable
    rw [(Local.required ..).read_fill_eq around (by decide) .null value] at readColumn
    exact ⟨_, _, ⟨_, column, ⟨table, readTable, rfl⟩, readColumn, rfl⟩, read_default around given, rfl⟩
  · rwa [around.without_fill .null value (by decide)] at left

/-- The columns of a new table are read with a default for one of them as they are without. -/
theorem single_columns {around : Around "columns"} {earlier later : List Json} {form : ColumnForm} {table : String}
    {columns : List Column} {extra : Fields}
    (accepted : single (Prod.mk <$> tableShape <*> Shape.optional "columns" (Json.asList Column.ofJson) [])
      (around.fill (.array (earlier ++ form.fill .null :: later))) = .ok ((table, columns), extra)) :
    ∃ (before : List Column) (column : Column) (after : List Column), ∀ value default,
      DefaultValue.ofJson value = .ok default →
      single (Prod.mk <$> tableShape <*> Shape.optional "columns" (Json.asList Column.ofJson) [])
        (around.fill (.array (earlier ++ form.fill value :: later))) =
          .ok ((table, before ++ column.withDefault default :: after), extra) := by
  obtain ⟨fields, left⟩ := single_eq_ok_iff.mp accepted
  have read := (ofFields_eq_ok_iff.mp fields).2
  simp only [read_seq_eq_ok_iff, read_map_eq_ok_iff] at read
  obtain ⟨_, _, ⟨table, readTable, rfl⟩, readColumns, same⟩ := read
  cases same
  simp only [Shape.optional, around.get?_fill] at readColumns
  obtain ⟨before, column, after, plain, replace⟩ := mapM_middle readColumns
  refine ⟨before, column, after, fun value default given => ?_⟩
  have list : Json.asList Column.ofJson (.array (earlier ++ form.fill value :: later)) =
      .ok (before ++ column.withDefault default :: after) := replace _ _ (Column.ofJson_default given plain)
  refine single_eq_ok_iff.mpr ⟨ofFields_fill (.seq (.map _ (.required (by decide))) (.own list)) fields ?_, ?_⟩
  · simp only [read_seq_eq_ok_iff, read_map_eq_ok_iff, Shape.optional, around.get?_fill]
    rw [local_tableShape.read_fill_eq around (by decide)] at readTable
    exact ⟨_, _, ⟨table, readTable, rfl⟩, list, rfl⟩
  · rwa [around.without_fill _ _ (by decide)] at left

/-- A call that is accepted without a default is accepted with each one, and records it in the place of none. -/
theorem ofCall_fill (place : DefaultPlace) {plain : Instruction}
    (accepted : ofCall place.operation (place.fill .null) = .ok plain) :
    ∃ table change extra, Change.Defaulting change ∧ ∀ value default, DefaultValue.ofJson value = .ok default →
      ofCall place.operation (place.fill value) = .ok (.change table (change default) extra) := by
  cases place with
  | addColumn arguments =>
    obtain ⟨⟨⟨table, column, type⟩, options, extra⟩, read, -⟩ := argumentsOf_bind_eq_ok_iff.mp accepted
    refine ⟨table, _, extra, .addColumn column type options, fun value default given => ?_⟩
    exact argumentsOf_bind_eq_ok_iff.mpr ⟨_, withOptions_default given read, rfl⟩
  | changeColumn arguments =>
    obtain ⟨⟨⟨table, column, type⟩, options, extra⟩, read, -⟩ := argumentsOf_bind_eq_ok_iff.mp accepted
    refine ⟨table, _, extra, .changeColumn column type options, fun value default given => ?_⟩
    exact argumentsOf_bind_eq_ok_iff.mpr ⟨_, withOptions_default given read, rfl⟩
  | changeColumnDefault arguments =>
    obtain ⟨⟨⟨table, column, old⟩, extra⟩, read, -⟩ := argumentsOf_bind_eq_ok_iff.mp accepted
    refine ⟨table, _, extra, .changeColumnDefault column, fun value default given => ?_⟩
    exact argumentsOf_bind_eq_ok_iff.mpr ⟨_, single_default given read, rfl⟩
  | createTable arguments earlier form later =>
    obtain ⟨⟨⟨table, columns⟩, extra⟩, read, -⟩ := argumentsOf_bind_eq_ok_iff.mp accepted
    obtain ⟨before, column, after, replace⟩ := single_columns read
    refine ⟨table, _, extra, .createTable before column after, fun value default given => ?_⟩
    exact argumentsOf_bind_eq_ok_iff.mpr ⟨_, replace value default given, rfl⟩

end DefaultPlace

namespace Statement

open Piece

/-- What is written between others has the same text before it and after it, whatever it is. -/
theorem separated_middle (separator : String) (earlier later : List (List Piece)) :
    ∃ before after, ∀ pieces, separated separator (earlier ++ pieces :: later) = before ++ pieces ++ after := by
  induction earlier with
  | nil =>
    cases later with
    | nil => exact ⟨[], [], fun pieces => by simp [separated]⟩
    | cons next later => exact ⟨[], words separator :: separated separator (next :: later), fun _ => rfl⟩
  | cons first earlier ih =>
    obtain ⟨before, after, middle⟩ := ih
    refine ⟨first ++ words separator :: before, after, fun pieces => ?_⟩
    have longer : separated separator (first :: (earlier ++ pieces :: later)) =
        first ++ words separator :: separated separator (earlier ++ pieces :: later) := by
      cases earlier <;> rfl
    rw [List.cons_append, longer, middle]
    simp

/-- The default is written after its word, between pieces that do not depend on it. -/
theorem pieces_of_defaulting {change : DefaultValue → Change} (defaulting : Change.Defaulting change) (table : String) :
    ∃ before lead after, ∀ default, ∃ statement, ofChange table (change default) = .ok statement ∧
      statement.pieces = before ++ [words (lead ++ "DEFAULT "), given default.sql] ++ after := by
  cases defaulting with
  | addColumn column type options =>
    refine ⟨[words "ALTER TABLE ", identifier table, words " ", words "ADD COLUMN ", identifier column, words " ",
      given type.postgresName] ++ if options.nullable then [] else [words " NOT NULL"], " ", [], fun default =>
        ⟨_, rfl, ?_⟩⟩
    simp [pieces, separated, actionPieces, addedPieces, defaultPieces]
  | changeColumn column type options =>
    refine ⟨[words "ALTER TABLE ", identifier table, words " "] ++ actionPieces (.setType column type) ++
      words ", " :: actionPieces (.setNullable column options.nullable) ++
      [words ", ", words "ALTER COLUMN ", identifier column], " SET ", [], fun default => ⟨_, rfl, ?_⟩⟩
    simp [pieces, separated, actionPieces]
  | changeColumnDefault column =>
    refine ⟨[words "ALTER TABLE ", identifier table, words " ", words "ALTER COLUMN ", identifier column], " SET ", [],
      fun default => ⟨_, rfl, ?_⟩⟩
    simp [pieces, separated, actionPieces]
  | createTable earlier column later =>
    obtain ⟨before, after, middle⟩ :=
      separated_middle ",\n  " (earlier.map columnPieces) (later.map columnPieces)
    refine ⟨[words "CREATE TABLE ", identifier table, words " (\n  "] ++ before ++
      columnPieces { column with default := none }, " ", after ++ [words "\n)"], fun default => ⟨_, rfl, ?_⟩⟩
    simp [pieces, middle, columnPieces, defaultPieces, Column.withDefault]

theorem text_of_defaulting {change : DefaultValue → Change} (defaulting : Change.Defaulting change) (table : String) :
    ∃ head tail, ∀ default, ∃ statement, ofChange table (change default) = .ok statement ∧
      statement.text = head ++ "DEFAULT " ++ default.sql ++ tail := by
  obtain ⟨before, lead, after, written⟩ := pieces_of_defaulting defaulting table
  refine ⟨String.join (before.map Piece.text) ++ lead, String.join (after.map Piece.text), fun default => ?_⟩
  obtain ⟨statement, asked, pieces⟩ := written default
  refine ⟨statement, asked, ?_⟩
  simp only [text, pieces, List.map_append, List.map_cons, List.map_nil, Piece.text, String.join_append,
    String.join_cons, String.join_nil, String.append_empty, String.append_assoc]

end Statement

namespace DefaultPlace

/-- A call that is accepted without a default is accepted with each one, and the text of the default is written in the
same place of its statement. -/
theorem default_written (place : DefaultPlace) {plain : Instruction}
    (accepted : Instruction.ofCall place.operation (place.fill .null) = .ok plain) :
    ∃ head tail, ∀ value default, DefaultValue.ofJson value = .ok default → ∃ instruction statement,
      Instruction.ofCall place.operation (place.fill value) = .ok instruction ∧
      Statement.ofInstruction instruction = .ok [statement] ∧
      statement.text = head ++ "DEFAULT " ++ default.sql ++ tail := by
  obtain ⟨table, change, extra, defaulting, called⟩ := place.ofCall_fill accepted
  obtain ⟨head, tail, written⟩ := Statement.text_of_defaulting defaulting table
  refine ⟨head, tail, fun value default given => ?_⟩
  obtain ⟨statement, asked, text⟩ := written default
  exact ⟨_, statement, called value default given, Statement.ofInstruction_of_ofChange extra asked, text⟩

end DefaultPlace

namespace DefaultValue

theorem fits_iff {n : Int} : fits n = true ↔ -2 ^ 63 ≤ n ∧ n < 2 ^ 63 := by
  rw [fits, decide_eq_true_eq]
  rfl

/-- An integer that does not fit is written as the shortest number that rounds to the same floating point number. -/
theorem sql_of_large {n : Int} (least : 2 ^ 63 ≤ n) (most : n < 2 ^ 64) :
    ∃ shortest, (Binary64.ofInt n).IsShortest shortest ∧ 1000 ∣ shortest ∧
      (float (.ofInt n)).sql = toString shortest := by
  have magnitude : Binary64.ofInt n = Binary64.ofNat n.natAbs := by
    rw [Binary64.ofInt, decide_eq_false (by omega), Binary64.ofNat]
  have places : n.natAbs.log2 = 63 := (Nat.log2_eq_iff (by omega)).mpr (by omega)
  rw [magnitude]
  obtain ⟨shortest, isShortest, text⟩ := Binary64.text_ofNat (p := n.natAbs) (by omega) (by omega)
  exact ⟨shortest, isShortest, isShortest.pow_dvd (k := 3) (by omega) (by omega) (by rw [places]; decide), text⟩

end DefaultValue

namespace DefaultPlace

/-- An integer is accepted as a default wherever none is, and it is written as it was given, unless it does not fit 64
bits with a sign. Then the shortest number is written that rounds to the same floating point number, which ends in at
least three zeros. -/
theorem integer_written (place : DefaultPlace) {plain : Instruction}
    (accepted : Instruction.ofCall place.operation (place.fill .null) = .ok plain) :
    ∃ head tail, ∀ n : Int, -2 ^ 63 ≤ n → n < 2 ^ 64 → ∃ instruction statement written,
      Instruction.ofCall place.operation (place.fill (.int n)) = .ok instruction ∧
      Statement.ofInstruction instruction = .ok [statement] ∧
      statement.text = head ++ "DEFAULT " ++ written ++ tail ∧
      (written = toString n ↔ n < 2 ^ 63 ∨ (Binary64.ofInt n).IsShortest n.natAbs) ∧
      (2 ^ 63 ≤ n → ∃ shortest, (Binary64.ofInt n).IsShortest shortest ∧ 1000 ∣ shortest ∧
        written = toString shortest) := by
  obtain ⟨head, tail, each⟩ := place.default_written accepted
  refine ⟨head, tail, fun n least most => ?_⟩
  by_cases small : n < 2 ^ 63
  · have read : DefaultValue.ofJson (.int n) = .ok (.integer n) := by
      rw [DefaultValue.ofJson, if_pos (DefaultValue.fits_iff.mpr ⟨least, small⟩)]
    obtain ⟨instruction, statement, called, asked, text⟩ := each _ _ read
    exact ⟨instruction, statement, _, called, asked, text, iff_of_true rfl (.inl small), fun large => by omega⟩
  · have read : DefaultValue.ofJson (.int n) = .ok (.float (.ofInt n)) := by
      rw [DefaultValue.ofJson, if_neg fun fits => small (DefaultValue.fits_iff.mp fits).2]
    obtain ⟨instruction, statement, called, asked, text⟩ := each _ _ read
    obtain ⟨shortest, isShortest, zeros, written⟩ := DefaultValue.sql_of_large (by omega) most
    refine ⟨instruction, statement, _, called, asked, text, ?_, fun _ => ⟨shortest, isShortest, zeros, written⟩⟩
    have decimal : toString n = toString n.natAbs := by
      rw [← Int.natAbs_of_nonneg (show 0 ≤ n by omega)]
      rfl
    rw [written, decimal]
    constructor
    · intro same
      rw [Nat.toString_eq_ofList_toDigits, Nat.toString_eq_ofList_toDigits] at same
      have equal : shortest = n.natAbs := by
        rw [← Nat.ofDigitChars_ten_toDigits (n := shortest), String.ofList_injective same,
          Nat.ofDigitChars_ten_toDigits]
      exact .inr (equal ▸ isShortest)
    · rintro (fits | given)
      · exact absurd fits small
      · rw [isShortest.unique given]

/-- A new table with one column, around the default of the column. -/
def counter : DefaultPlace :=
  .createTable ⟨[], [("table", .string "counters")], nofun⟩ []
    (.named ⟨[], [("name", .string "count"), ("type", .string "decimal")], nofun⟩) []

/-- Its column has the least integer as it was given, and the greatest one as a number that ends in zeros. -/
theorem integer_written_counter :
    ∃ head tail, (∃ instruction statement,
        Instruction.ofCall .createTable (counter.fill (.int (-9223372036854775808))) = .ok instruction ∧
        Statement.ofInstruction instruction = .ok [statement] ∧
        statement.text = head ++ "DEFAULT " ++ "-9223372036854775808" ++ tail) ∧
      ∃ instruction statement shortest,
        Instruction.ofCall .createTable (counter.fill (.int 18446744073709551615)) = .ok instruction ∧
        Statement.ofInstruction instruction = .ok [statement] ∧
        statement.text = head ++ "DEFAULT " ++ toString shortest ++ tail ∧ 1000 ∣ shortest := by
  have accepted : Instruction.ofCall .createTable (counter.fill .null) =
      .ok (.change "counters" (.createTable [⟨"count", .decimal none none, true, none, false⟩]) []) := rfl
  obtain ⟨head, tail, each⟩ := integer_written counter accepted
  obtain ⟨least, leastStatement, written, called, asked, text, exactly, -⟩ :=
    each (-9223372036854775808) (by decide) (by decide)
  obtain ⟨most, mostStatement, written', called', asked', text', -, rounded⟩ :=
    each 18446744073709551615 (by decide) (by decide)
  obtain ⟨shortest, -, zeros, rfl⟩ := rounded (by decide)
  obtain rfl : written = "-9223372036854775808" := exactly.mpr (.inl (by decide))
  exact ⟨head, tail, ⟨least, leastStatement, called, asked, text⟩, most, mostStatement, shortest, called', asked', text',
    zeros⟩

/-- The greatest integer is not written as it was given. -/
theorem rounded_counter :
    ∃ instruction statement,
      Instruction.ofCall .createTable (counter.fill (.int 18446744073709551615)) = .ok instruction ∧
      Statement.ofInstruction instruction = .ok [statement] ∧
      statement.text =
        "CREATE TABLE \"counters\" (\n  \"count\" DECIMAL DEFAULT 18446744073709552000\n)" :=
  ⟨_, _, rfl, rfl, by decide +kernel⟩

end DefaultPlace

end SafeMigration
