import Mathlib.Data.List.DropRight
import SafeMigration.Proofs.Failure
import SafeMigration.Proofs.Validation.Accepted
import SafeMigration.Script.Renderer

/-!
The sections of the script of a migration that was handed on.

Such a migration can always be written out, because every instruction that meets its own rules has statements. A
section has one of three forms. Which one it has depends on the instructions of its direction alone: nothing, the one
statement of an index operation outside of a transaction, or the statements of all instructions inside of one.
-/

namespace SafeMigration

/-- A statement is written with one semicolon in place of all those that it ends with. -/
def Statement.WrittenAs (statement : Statement) (line : String) : Prop :=
  ∃ words n, statement.text.toList = words ++ List.replicate n ';' ∧ words.getLast? ≠ some ';' ∧
    line = String.ofList words ++ ";\n"

namespace ScriptSection

/-- What stands in a section below its title. -/
inductive Form where
  /-- No statement, because nothing was recorded. -/
  | unchanged
  /-- A single statement, outside of a transaction. -/
  | alone (line : String)
  /-- Statements inside of a transaction. -/
  | transaction (lines : List String)

namespace Form

/-- The text of a form with two timeouts. -/
def text (timeouts : EffectiveTimeouts) : Form → String
  | unchanged => "-- no changes\n"
  | alone line =>
    "SET lock_timeout = " ++ timeoutLiteral timeouts.lock ++ ";\n" ++
      ("SET statement_timeout = " ++ timeoutLiteral timeouts.statement ++ ";\n") ++ line ++
      "RESET lock_timeout;\nRESET statement_timeout;\n"
  | transaction lines =>
    "BEGIN;\n" ++ ("SET LOCAL lock_timeout = " ++ timeoutLiteral timeouts.lock ++ ";\n") ++
      ("SET LOCAL statement_timeout = " ++ timeoutLiteral timeouts.statement ++ ";\n") ++ String.join lines ++
      "COMMIT;\n"

theorem text_unchanged (timeouts : EffectiveTimeouts) : unchanged.text timeouts = "-- no changes\n" := rfl

theorem text_alone (timeouts : EffectiveTimeouts) (line : String) : (alone line).text timeouts =
    "SET lock_timeout = " ++ timeoutLiteral timeouts.lock ++ ";\n" ++
      ("SET statement_timeout = " ++ timeoutLiteral timeouts.statement ++ ";\n") ++ line ++
      "RESET lock_timeout;\nRESET statement_timeout;\n" := rfl

theorem text_transaction (timeouts : EffectiveTimeouts) (lines : List String) : (transaction lines).text timeouts =
    "BEGIN;\n" ++ ("SET LOCAL lock_timeout = " ++ timeoutLiteral timeouts.lock ++ ";\n") ++
      ("SET LOCAL statement_timeout = " ++ timeoutLiteral timeouts.statement ++ ";\n") ++ String.join lines ++
      "COMMIT;\n" := rfl

/-- The form that is right for some instructions. -/
inductive Fits : List Instruction → Form → Prop
  | unchanged : Fits [] unchanged
  | alone {instruction : Instruction} {statement : Statement} {line : String}
      (index : instruction.IsIndexOperation) (asked : Statement.ofInstruction instruction = .ok [statement])
      (written : statement.WrittenAs line) : Fits [instruction] (alone line)
  | transaction {instructions : List Instruction} {statements : List (List Statement)} {lines : List String}
      (recorded : instructions ≠ []) (noIndex : ∀ i ∈ instructions, ¬ i.IsIndexOperation)
      (asked : List.Forall₂ (fun i s => Statement.ofInstruction i = .ok s) instructions statements)
      (written : List.Forall₂ Statement.WrittenAs statements.flatten lines) : Fits instructions (transaction lines)

end Form

end ScriptSection

namespace Statement

open ScriptSection

theorem writtenAs_terminated (statement : Statement) : statement.WrittenAs (terminated statement.text) := by
  have ending : statement.text.toList.rtakeWhile (· == ';') =
      List.replicate (statement.text.toList.rtakeWhile (· == ';')).length ';' :=
    List.eq_replicate_of_mem fun c member => by simpa using List.mem_rtakeWhile_imp member
  refine ⟨statement.text.toList.rdropWhile (· == ';'), (statement.text.toList.rtakeWhile (· == ';')).length, ?_, ?_,
    rfl⟩
  · rw [← ending]
    simp [List.rdropWhile, List.rtakeWhile, ← List.reverse_append]
  · by_cases empty : statement.text.toList.rdropWhile (· == ';') = []
    · simp [empty]
    · rw [List.getLast?_eq_some_getLast empty]
      simpa using List.rdropWhile_last_not _ _ empty

example : terminated "ANALYZE;;" = "ANALYZE;\n" := by decide +kernel

/-- The statements of a section are written one after the other. -/
theorem writtenAs_lines (statements : List Statement) :
    List.Forall₂ WrittenAs statements (statements.map fun statement => terminated statement.text) := by
  induction statements with
  | nil => exact .nil
  | cons statement statements ih => exact .cons statement.writtenAs_terminated ih

/-- A change that meets its own rules has a statement. -/
theorem ofChange_of_sound (table : String) {change : Change} (sound : change.Sound) :
    ∃ statement, ofChange table change = .ok statement := by
  cases change with
  | changeColumnDefault column value => cases value <;> exact ⟨_, rfl⟩
  | removeIndex choice =>
    obtain ⟨name, columns⟩ := choice
    cases name with
    | some name => exact ⟨_, rfl⟩
    | none =>
      cases columns with
      | some columns => exact ⟨_, rfl⟩
      | none => simp [Change.Sound] at sound
  | _ => exact ⟨_, rfl⟩

theorem ofInstruction_of_ofChange {table : String} {change : Change} {statement : Statement}
    (extra : Fields) (asked : ofChange table change = .ok statement) :
    ofInstruction (.change table change extra) = .ok [statement] := by
  rw [ofInstruction, asked]
  rfl

theorem ofInstruction_of_sound {instruction : Instruction} (sound : instruction.Sound) :
    ∃ statements, ofInstruction instruction = .ok statements := by
  cases instruction with
  | change table change extra =>
    obtain ⟨statement, asked⟩ := ofChange_of_sound table sound
    exact ⟨[statement], ofInstruction_of_ofChange extra asked⟩
  | custom instruction => exact ⟨_, rfl⟩

/-- A built-in instruction has a single statement. -/
theorem ofInstruction_of_index {instruction : Instruction} {statements : List Statement}
    (index : instruction.IsIndexOperation) (asked : ofInstruction instruction = .ok statements) :
    ∃ statement, statements = [statement] := by
  cases instruction with
  | change table change extra =>
    rw [ofInstruction] at asked
    cases made : ofChange table change with
    | error e => simp [made, Except.map] at asked
    | ok statement => exact ⟨statement, by simpa [made, Except.map, eq_comm] using asked⟩
  | custom instruction => simp [Instruction.IsIndexOperation, Instruction.operation?] at index

end Statement

namespace ScriptSection

variable {migration : Migration} {config : TimeoutConfig} {valid : ValidatedMigration} {direction : Direction}

/-- A direction that has passed is written out with the statements of its instructions. -/
theorem ofDirection_of_passed (passed : migration.Passed config valid direction) :
    ∃ statements, ofDirection valid direction =
        .ok ⟨direction, valid.timeouts direction, valid.isTransactional direction, List.flatten statements,
          (valid.instructions direction).instructions.isEmpty⟩ ∧
      List.Forall₂ (fun i s => Statement.ofInstruction i = .ok s) (valid.instructions direction).instructions
        statements := by
  obtain ⟨statements, made, each⟩ := exists_mapM fun i member =>
    Statement.ofInstruction_of_sound (passed.permits.sound i member)
  exact ⟨statements, by rw [ofDirection, made]; rfl, each⟩

/-- A section has the statements of each of its instructions. -/
theorem mem_statements_of_passed {part : ScriptSection} {instruction : Instruction} {asked : List Statement}
    {statement : Statement} (passed : migration.Passed config valid direction)
    (made : ofDirection valid direction = .ok part)
    (recorded : instruction ∈ (valid.instructions direction).instructions)
    (asks : Statement.ofInstruction instruction = .ok asked) (member : statement ∈ asked) :
    statement ∈ part.statements := by
  obtain ⟨statements, same, each⟩ := ofDirection_of_passed passed
  obtain rfl := Except.ok.inj (made.symm.trans same)
  refine List.mem_flatten.mpr ⟨asked, ?_, member⟩
  clear made same
  generalize (valid.instructions direction).instructions = instructions at each recorded
  induction each with
  | nil => cases recorded
  | cons first rest ih =>
    cases recorded with
    | head => exact List.mem_cons.mpr (.inl (Except.ok.inj (asks.symm.trans first)))
    | tail _ recorded => exact List.mem_cons.mpr (.inr (ih recorded))

/-- The form that a section is written in. -/
def form (part : ScriptSection) : Form :=
  if part.empty then .unchanged
  else if part.transactional then .transaction (part.statements.map fun statement => terminated statement.text)
  else .alone (body part.statements)

theorem settings_session (timeouts : EffectiveTimeouts) : settings "SET" timeouts =
    "SET lock_timeout = " ++ timeoutLiteral timeouts.lock ++ ";\n" ++
      ("SET statement_timeout = " ++ timeoutLiteral timeouts.statement ++ ";\n") :=
  String.toList_inj.mp (by simp [settings])

theorem settings_local (timeouts : EffectiveTimeouts) : settings "SET LOCAL" timeouts =
    "SET LOCAL lock_timeout = " ++ timeoutLiteral timeouts.lock ++ ";\n" ++
      ("SET LOCAL statement_timeout = " ++ timeoutLiteral timeouts.statement ++ ";\n") :=
  String.toList_inj.mp (by simp [settings])

/-- A section is its title and the text of its form. -/
theorem text_eq (part : ScriptSection) :
    part.text = "-- migrate:" ++ part.direction.name ++ "\n" ++ part.form.text part.timeouts := by
  cases empty : part.empty with
  | true => simp only [text, form, empty, if_true, Form.text_unchanged]
  | false =>
    cases transactional : part.transactional with
    | true =>
      simp only [text, form, empty, transactional, Bool.false_eq_true, if_false, if_true, Form.text_transaction,
        settings_local, body, String.append_assoc]
    | false =>
      simp only [text, form, empty, transactional, Bool.false_eq_true, if_false, Form.text_alone, settings_session,
        body, String.append_assoc]

/-- Whether a section is a transaction is decided by index operations. -/
theorem isTransactional_eq_false_iff : valid.isTransactional direction = false ↔
    ∃ i ∈ (valid.instructions direction).instructions, i.IsIndexOperation := by
  simp [ValidatedMigration.isTransactional, InstructionSet.hasConcurrent, Instruction.isConcurrent_iff]

/-- A section is written in the form that is right for its instructions. -/
theorem fits_of_passed (passed : migration.Passed config valid direction) :
    ∃ part, ofDirection valid direction = .ok part ∧ part.direction = direction ∧
      part.timeouts = valid.timeouts direction ∧ part.form.Fits (valid.instructions direction).instructions := by
  obtain ⟨statements, made, each⟩ := ofDirection_of_passed passed
  refine ⟨_, made, rfl, rfl, ?_⟩
  have index : valid.isTransactional direction = false ↔ _ := isTransactional_eq_false_iff
  have alone := passed.permits.alone
  generalize (valid.instructions direction).instructions = instructions at each index alone
  simp only [form]
  split
  · next empty =>
    rw [List.isEmpty_iff.mp empty]
    exact .unchanged
  next recorded =>
  rw [List.isEmpty_iff] at recorded
  split
  · next transactional =>
    refine .transaction recorded (fun i member isIndex => ?_) each (Statement.writtenAs_lines _)
    simp [index.mpr ⟨i, member, isIndex⟩] at transactional
  · next session =>
    obtain ⟨instruction, member, isIndex⟩ := index.mp (Bool.eq_false_iff.mpr session)
    obtain rfl := alone instruction member isIndex
    obtain ⟨asked, rfl⟩ : ∃ asked, statements = [asked] := by
      cases each with | cons _ none => cases none; exact ⟨_, rfl⟩
    have asks := (List.forall₂_cons.mp each).1
    obtain ⟨statement, rfl⟩ := Statement.ofInstruction_of_index isIndex asks
    have line : body [statement] = terminated statement.text := by simp [body]
    simp only [List.flatten_cons, List.flatten_nil, List.append_nil, line]
    exact .alone isIndex asks statement.writtenAs_terminated

end ScriptSection

variable {migration : Migration} {config : TimeoutConfig} {session : Session} {valid : ValidatedMigration}

/-- A migration that was handed on is written out, with a section for each direction. -/
theorem exists_sections (success : (migration.validated config session).1 = .ok valid) :
    ∃ parts : Direction → ScriptSection,
      Renderer.postgres.render valid =
          .ok (Script.text ⟨valid.name, valid.capabilities, [parts .up, parts .down]⟩) ∧
        ∀ direction, ScriptSection.ofDirection valid direction = .ok (parts direction) ∧
          (parts direction).direction = direction ∧ (parts direction).timeouts = valid.timeouts direction ∧
          (parts direction).form.Fits (valid.instructions direction).instructions := by
  choose parts made own timeouts fits using fun direction =>
    ScriptSection.fits_of_passed (Migration.passed_of_validated success direction)
  refine ⟨parts, ?_, fun direction => ⟨made direction, own direction, timeouts direction, fits direction⟩⟩
  simp only [Renderer.postgres, Script.ofMigration, Direction.both, List.mapM_cons, List.mapM_nil, made]
  rfl

theorem nonTransactional_mem_capabilities_iff :
    .nonTransactional ∈ valid.capabilities ↔
      ∃ direction, ∃ i ∈ (valid.instructions direction).instructions, i.IsIndexOperation := by
  have each : ∀ set : InstructionSet,
      set.hasConcurrent = true ↔ ∃ i ∈ set.instructions, i.IsIndexOperation := fun set => by
    simp [InstructionSet.hasConcurrent, Instruction.isConcurrent_iff]
  have directions : ∀ p : Direction → Prop, (∃ direction, p direction) ↔ p .up ∨ p .down := fun p =>
    ⟨fun ⟨direction, holds⟩ => by cases direction <;> simp [holds], fun holds => holds.elim (⟨_, ·⟩) (⟨_, ·⟩)⟩
  simp [ValidatedMigration.capabilities, Capability.ofSets, directions, ← each, ValidatedMigration.instructions]

/-- The form of a section is that of a statement by itself when there is an index operation. -/
theorem ScriptSection.Form.Fits.alone_iff {instructions : List Instruction} {form : ScriptSection.Form}
    (fits : form.Fits instructions) : (∃ line, form = .alone line) ↔ ∃ i ∈ instructions, i.IsIndexOperation := by
  cases fits with
  | unchanged => simp
  | alone index asked written => simpa using index
  | transaction recorded noIndex asked written => simpa using noIndex

/-- The script of a migration that was handed on is a header and two sections, each in the form that is right for its
instructions. The header says that the migration cannot run inside a transaction if one of them does not. -/
theorem script_laid_out (success : (migration.validated config session).1 = .ok valid) :
    ∃ forms : Direction → ScriptSection.Form,
      Renderer.postgres.render valid = .ok
          ("-- " ++ valid.name ++ "\n" ++
            String.join (valid.capabilities.map fun capability => "-- requires: " ++ capability.text ++ "\n") ++
            ("\n-- migrate:up\n" ++ (forms .up).text (valid.timeouts .up)) ++
            ("\n-- migrate:down\n" ++ (forms .down).text (valid.timeouts .down))) ∧
        (∀ direction, (forms direction).Fits (valid.instructions direction).instructions) ∧
        (.nonTransactional ∈ valid.capabilities ↔ ∃ direction line, forms direction = .alone line) := by
  obtain ⟨parts, rendered, each⟩ := exists_sections success
  refine ⟨fun direction => (parts direction).form, ?_, fun direction => (each direction).2.2.2, ?_⟩
  · obtain ⟨-, upDirection, upTimeouts, -⟩ := each .up
    obtain ⟨-, downDirection, downTimeouts, -⟩ := each .down
    refine rendered.trans (congrArg Except.ok (String.toList_inj.mp ?_))
    simp [Script.text, Script.header, ScriptSection.text_eq, upDirection, upTimeouts, downDirection, downTimeouts,
      Direction.name]
  · rw [nonTransactional_mem_capabilities_iff]
    exact exists_congr fun direction => (each direction).2.2.2.alone_iff.symm

/-- A table that is swept by two statements, one of them without and one with semicolons of its own, and an index that
is dropped. -/
def sweptTable : Migration :=
  { name := "sweep_logs"
    up := some fun _ => .ok
      [.change "logs" .dropTable [], .custom ⟨"sweep", none, none, ["VACUUM", "ANALYZE;;"], []⟩]
    down := some fun _ => .ok [.change "logs" (.removeIndex { columns := some (.one "day") }) []] }

/-- What is handed on of it. -/
def sweptTableValid : ValidatedMigration :=
  { name := "sweep_logs"
    up := ⟨.up, [.change "logs" .dropTable [], .custom ⟨"sweep", none, none, ["VACUUM", "ANALYZE;;"], []⟩]⟩
    down := ⟨.down, [.change "logs" (.removeIndex { columns := some (.one "day") }) []]⟩
    upTimeouts := ⟨.ofSeconds 5, .ofSeconds 60⟩
    downTimeouts := ⟨.disabled, .disabled⟩ }

theorem script_laid_out_sweptTable :
    (sweptTable.validated {} {}).1 = .ok sweptTableValid ∧
      ∃ forms : Direction → ScriptSection.Form, (forms .up).Fits sweptTableValid.up.instructions ∧
        ∃ line, forms .down = .alone line := by
  have success : (sweptTable.validated {} {}).1 = .ok sweptTableValid := rfl
  obtain ⟨forms, -, fits, -⟩ := script_laid_out success
  exact ⟨success, forms, fits .up, (fits .down).alone_iff.mpr ⟨_, List.mem_singleton_self _, .inr rfl⟩⟩

end SafeMigration
