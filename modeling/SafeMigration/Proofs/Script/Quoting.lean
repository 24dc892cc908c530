import SafeMigration.Proofs.Script.Mentions
import SafeMigration.Proofs.Script.Setting

/-!
Names and string defaults stay within their quotes.

The script of a migration that was handed on is split as the database splits it. If the migration has built-in
instructions only, and no SQL in the words of its author, the statements are those that frame a direction and one for
each instruction, and what stands in quotes in the statement of an instruction are the names and the string defaults of
that instruction.
-/

namespace SafeMigration

namespace Sql

/-- A statement that an instruction is written as: it is spelled as the pieces of the one statement that the instruction
asks for, and what it has in quotes are the names and the string defaults of the instruction. -/
inductive Writes : Instruction → List Lexeme → Prop
  | change {table : String} {change : Change} {extra : Fields} {statement : Statement} {lexemes : List Lexeme}
      (asked : Statement.ofChange table change = .ok statement) (spelled : Spelled statement.pieces lexemes)
      (quoted : lexemes.filter Lexeme.isQuoted = quotedOf table change) : Writes (.change table change extra) lexemes

/-- Words outside of quotes. -/
def words (text : String) : List Lexeme := text.toList.map .mark

/-- A statement that sets a timeout. -/
def setting (text : String) (timeout : Timeout) : List Lexeme := words text ++ [.quoted .string timeout.settingText]

/-- The statements of a direction: those of its instructions in their order, framed by the settings of its timeouts. -/
inductive Framed (timeouts : EffectiveTimeouts) : List Instruction → List (List Lexeme) → Prop
  | unchanged : Framed timeouts [] []
  | alone {instruction : Instruction} {statement : List Lexeme} (index : instruction.IsIndexOperation)
      (writes : Writes instruction statement) :
      Framed timeouts [instruction]
        [setting "SET lock_timeout = " timeouts.lock, setting "SET statement_timeout = " timeouts.statement, statement,
          words "RESET lock_timeout", words "RESET statement_timeout"]
  | transaction {instructions : List Instruction} {statements : List (List Lexeme)} (recorded : instructions ≠ [])
      (noIndex : ∀ i ∈ instructions, ¬ i.IsIndexOperation) (writes : List.Forall₂ Writes instructions statements) :
      Framed timeouts instructions
        (words "BEGIN" :: setting "SET LOCAL lock_timeout = " timeouts.lock ::
          setting "SET LOCAL statement_timeout = " timeouts.statement :: (statements ++ [words "COMMIT"]))

variable {lines : LineEnds}

/-- The text of some pieces that begin with a word is read as one statement. -/
theorem Spelled.splits {text : String} {pieces : List Piece} {lexemes : List Lexeme}
    (spelled : Spelled (.words text :: pieces) lexemes)
    (begins : text.toList.head?.any (!Text.isBlank ·) = true) :
    Splits lines (chars (.words text :: pieces) ++ [';', '\n']) [lexemes] := by
  have reads : ∀ rest, scan lines .code (chars (.words text :: pieces) ++ ';' :: rest) =
      (scan lines .code (';' :: rest)).map (lexemes ++ ·) :=
    fun rest => spelled.reads fun quote => by cases quote <;> simp [Quote.char]
  have noStop := spelled.stop_not_mem
  obtain ⟨lexeme, others, rfl, visible⟩ : ∃ lexeme others, lexemes = lexeme :: others ∧ lexeme.isBlank = false := by
    cases spelled with
    | words _ _ =>
      cases first : text.toList with
      | nil => simp [first] at begins
      | cons c cs => exact ⟨.mark c, _, rfl, by simpa [first, Lexeme.isBlank] using begins⟩
  exact .statement reads visible noStop

theorem splits_append {first second : String} {statements others : List (List Lexeme)}
    (one : Splits lines first.toList statements) (two : Splits lines second.toList others) :
    Splits lines (first ++ second).toList (statements ++ others) := by
  rw [String.toList_append]
  exact one.append two

theorem splits_words (text : String) (ordinary : text.toList.all isOrdinary = true)
    (begins : text.toList.head?.any (!Text.isBlank ·) = true) : Splits lines (text ++ ";\n").toList [words text] := by
  have spelled := Spelled.words ordinary .nil
  have splits : Splits lines _ _ := spelled.splits begins
  simpa [Piece.text, words] using splits

theorem doubled_of_not_mem {quote : Char} {cs : List Char} (none : quote ∉ cs) : Text.doubled quote cs = cs := by
  induction cs with
  | nil => rfl
  | cons c cs ih =>
    obtain ⟨different, none⟩ := not_or.mp (mt List.mem_cons.mpr none)
    simp [Text.doubled, Ne.symm different, ih none]

theorem timeoutLiteral_eq_enclose (timeout : Timeout) :
    ScriptSection.timeoutLiteral timeout = Text.enclose '\'' timeout.settingText := by
  have noQuote : '\'' ∉ timeout.settingText.toList := fun member => by
    simpa using Timeout.isAlphanum_of_mem_settingText member
  refine String.toList_inj.mp ?_
  simp [Timeout.timeoutLiteral_eq, Text.enclose, doubled_of_not_mem noQuote]

theorem splits_setting (text : String) (ordinary : text.toList.all isOrdinary = true)
    (begins : text.toList.head?.any (!Text.isBlank ·) = true) (timeout : Timeout) :
    Splits lines (text ++ ScriptSection.timeoutLiteral timeout ++ ";\n").toList [setting text timeout] := by
  have spelled : Spelled [.words text, .given (Text.enclose '\'' timeout.settingText)] _ :=
    .words ordinary (.string trivial .nil)
  have splits : Splits lines _ _ := spelled.splits begins
  simpa [Piece.text, setting, words, timeoutLiteral_eq_enclose] using splits

/-- The text of a statement is that of its pieces. -/
theorem toList_text (statement : Statement) : statement.text.toList = chars statement.pieces := by
  simp [Statement.text, chars, List.flatMap_def, Function.comp_def]

theorem toList_of_writtenAs {statement : Statement} {line : String} (written : statement.WrittenAs line)
    (last : statement.text.toList.getLast? ≠ some ';') : line.toList = statement.text.toList ++ [';', '\n'] := by
  obtain ⟨words, n, text, -, rfl⟩ := written
  cases n with
  | zero => simp [text]
  | succ n => simp [text, List.replicate_succ', ← List.append_assoc] at last

open Statement

theorem ne_raw_of_ofChange {table : String} {change : Change} {statement : Statement}
    (asked : ofChange table change = .ok statement) (sql : String) : statement ≠ .raw sql := by
  cases change with
  | changeColumnDefault column value => cases value <;> cases asked <;> simp
  | removeIndex choice => obtain ⟨_ | index, _ | columns⟩ := choice <;> cases asked <;> simp
  | _ => cases asked; simp

/-- Every statement but one in the words of its author begins with a word. -/
theorem exists_words {statement : Statement} (own : ∀ sql, statement ≠ .raw sql) :
    ∃ text pieces, statement.pieces = .words text :: pieces ∧ text.toList.head?.any (!Text.isBlank ·) = true := by
  cases statement with
  | raw sql => exact absurd rfl (own sql)
  | _ => exact ⟨_, _, rfl, by decide⟩

/-- A plain instruction is written as one line, which is read as one statement. -/
theorem splits_of_plain {instruction : Instruction} {statements : List Statement} (plain : instruction.Plain)
    (asked : ofInstruction instruction = .ok statements) :
    ∃ statement lexemes, statements = [statement] ∧ Writes instruction lexemes ∧
      ∀ line, statement.WrittenAs line → Splits lines line.toList [lexemes] := by
  cases instruction with
  | custom instruction => exact absurd plain id
  | change table change extra =>
    rw [ofInstruction] at asked
    cases made : ofChange table change with
    | error e => simp [made, Except.map] at asked
    | ok statement =>
      simp only [made, Except.map, Except.ok.injEq] at asked
      obtain ⟨lexemes, spelled, quoted⟩ := mentions_of_plain plain made
      refine ⟨statement, lexemes, asked.symm, .change made spelled quoted, fun line written => ?_⟩
      -- No semicolon is trimmed from the end, since a text in quotes ends in its quote.
      have text := toList_text statement
      rw [toList_of_writtenAs written (text ▸ spelled.getLast?_chars_ne), text]
      obtain ⟨first, pieces, same, begins⟩ := exists_words (ne_raw_of_ofChange made)
      rw [same] at spelled ⊢
      exact spelled.splits begins

/-- So are the instructions of a direction. -/
theorem splits_of_all_plain {instructions : List Instruction} {statements : List (List Statement)} {texts : List String}
    (plain : ∀ i ∈ instructions, i.Plain)
    (asked : List.Forall₂ (fun i s => ofInstruction i = .ok s) instructions statements)
    (written : List.Forall₂ Statement.WrittenAs statements.flatten texts) :
    ∃ parts, List.Forall₂ Writes instructions parts ∧ Splits lines (String.join texts).toList parts := by
  induction asked generalizing texts with
  | nil =>
    cases written
    exact ⟨[], .nil, .nil⟩
  | @cons instruction asked instructions statements first _ ih =>
    obtain ⟨own, others⟩ := List.forall_mem_cons.mp plain
    obtain ⟨statement, lexemes, rfl, writes, line⟩ := splits_of_plain own first
    cases written with
    | @cons _ text _ texts head tail =>
      obtain ⟨parts, each, rest⟩ := ih others tail
      refine ⟨lexemes :: parts, .cons writes each, ?_⟩
      simpa using splits_append (line text head) rest

/-- A line with a comment in characters that can be seen. -/
theorem splits_comment (text : String) (visible : text.toList.all (fun c => ' ' ≤ c && c ≤ '~') = true) :
    Splits lines ("--" ++ text ++ "\n").toList [] := by
  have oneLine : ∀ c ∈ text.toList, lines.ends c = false := fun c member => by
    have bounds := List.all_eq_true.mp visible c member
    simp only [Bool.and_eq_true, decide_eq_true_eq] at bounds
    exact lines.visible c bounds.1 bounds.2
  simpa using Splits.comment oneLine

/-- The text of a direction is read as its framed statements. -/
theorem splits_form (lines : LineEnds) {form : ScriptSection.Form} {instructions : List Instruction}
    (fits : form.Fits instructions) (plain : ∀ i ∈ instructions, i.Plain) (timeouts : EffectiveTimeouts) :
    ∃ parts, Framed timeouts instructions parts ∧ Splits lines (form.text timeouts).toList parts := by
  cases fits with
  | unchanged => exact ⟨[], .unchanged, splits_comment " no changes" (by decide)⟩
  | alone index asked written =>
    obtain ⟨statement, lexemes, same, writes, line⟩ := splits_of_plain (plain _ (List.mem_singleton_self _)) asked
    cases same
    have set : Splits lines _ [_, _] := splits_append
      (splits_setting "SET lock_timeout = " (by decide) (by decide) timeouts.lock)
      (splits_setting "SET statement_timeout = " (by decide) (by decide) timeouts.statement)
    have reset : Splits lines _ [_, _] := splits_append (splits_words "RESET lock_timeout" (by decide) (by decide))
      (splits_words "RESET statement_timeout" (by decide) (by decide))
    exact ⟨_, .alone index writes, splits_append (splits_append set (line _ written)) reset⟩
  | transaction recorded noIndex asked written =>
    obtain ⟨parts, each, body⟩ := splits_of_all_plain plain asked written
    have set : Splits lines _ [_, _, _] := splits_append (splits_append
      (splits_words "BEGIN" (by decide) (by decide))
      (splits_setting "SET LOCAL lock_timeout = " (by decide) (by decide) timeouts.lock))
      (splits_setting "SET LOCAL statement_timeout = " (by decide) (by decide) timeouts.statement)
    exact ⟨_, .transaction recorded noIndex each,
      splits_append (splits_append set body) (splits_words "COMMIT" (by decide) (by decide))⟩

/-- So is a section, after its title. -/
theorem splits_section (lines : LineEnds) {part : ScriptSection} {instructions : List Instruction}
    (fits : part.form.Fits instructions) (plain : ∀ i ∈ instructions, i.Plain) :
    ∃ parts, Framed part.timeouts instructions parts ∧ Splits lines ("\n" ++ part.text).toList parts := by
  obtain ⟨parts, framed, splits⟩ := splits_form lines fits plain part.timeouts
  have title : Splits lines ("-- migrate:" ++ part.direction.name ++ "\n").toList [] := by
    cases part.direction
    · exact splits_comment " migrate:up" (by decide)
    · exact splits_comment " migrate:down" (by decide)
  refine ⟨parts, framed, ?_⟩
  have newline : Splits lines "\n".toList [] := .newline
  rw [ScriptSection.text_eq]
  exact splits_append newline (splits_append title splits)

theorem splits_join {texts : List String} (each : ∀ text ∈ texts, Splits lines text.toList []) :
    Splits lines (String.join texts).toList [] := by
  induction texts with
  | nil => exact .nil
  | cons text texts ih =>
    obtain ⟨first, others⟩ := List.forall_mem_cons.mp each
    simpa using splits_append first (ih others)

/-- The header of a script is comments, if the name in it is on one line and no custom operations are. -/
theorem splits_header {script : Script} (oneLine : ∀ c ∈ script.name.toList, lines.ends c = false)
    (builtIn : ∀ capability ∈ script.capabilities, capability = .nonTransactional) :
    Splits lines script.header.toList [] := by
  have blank : lines.ends ' ' = false := lines.visible _ (by decide) (by decide)
  have name : Splits lines ("-- " ++ script.name ++ "\n").toList [] := by
    simpa using Splits.comment (List.forall_mem_cons.mpr ⟨blank, oneLine⟩)
  refine splits_append name (splits_join (List.forall_mem_map.mpr fun capability member => ?_))
  rw [builtIn capability member]
  exact splits_comment " requires: non-transactional" (by decide)

end Sql

/-- Built-in instructions need no operations. -/
theorem ValidatedMigration.capabilities_of_plain {valid : ValidatedMigration}
    (plain : ∀ direction, ∀ i ∈ (valid.instructions direction).instructions, i.Plain) :
    ∀ capability ∈ valid.capabilities, capability = .nonTransactional := by
  have unnamed : ∀ instructions : List Instruction, (∀ i ∈ instructions, i.Plain) →
      Capability.customNames instructions = [] := fun instructions plain => by
    unfold Capability.customNames
    rw [List.filterMap_eq_nil_iff.mpr fun i member => ?_]
    · rfl
    · cases i with
      | custom c => exact absurd (plain _ member) id
      | change => rfl
  have both := unnamed ([valid.up, valid.down].flatMap InstructionSet.instructions) fun i member => by
    simp only [List.flatMap_cons, List.flatMap_nil, List.append_nil, List.mem_append] at member
    exact member.elim (plain .up i) (plain .down i)
  intro capability member
  simp only [ValidatedMigration.capabilities, Capability.ofSets, both, List.map_nil, List.append_nil] at member
  split at member
  · exact List.mem_singleton.mp member
  · cases member

namespace Migration

variable {migration : Migration} {config : TimeoutConfig} {session : Session} {valid : ValidatedMigration}

/-- The script of a migration that was handed on is split into the statements that its instructions ask for, one for
each, and those that frame them. Whatever the names and string defaults of the instructions are, they are what stands
in quotes. -/
theorem script_splits (success : (migration.validated config session).1 = .ok valid) (lines : Sql.LineEnds)
    (oneLine : ∀ c ∈ valid.name.toList, lines.ends c = false)
    (plain : ∀ direction, ∀ i ∈ (valid.instructions direction).instructions, i.Plain) :
    ∃ (script : String) (parts : Direction → List (List Sql.Lexeme)), Renderer.postgres.render valid = .ok script ∧
      Sql.split lines script.toList = some (parts .up ++ parts .down) ∧
      ∀ direction,
        Sql.Framed (valid.timeouts direction) (valid.instructions direction).instructions (parts direction) := by
  obtain ⟨sections, rendered, each⟩ := exists_sections success
  choose parts framed splits using fun direction => Sql.splits_section lines (each direction).2.2.2 (plain direction)
  refine ⟨_, parts, rendered, Sql.Splits.split_eq ?_, fun direction => (each direction).2.2.1 ▸ framed direction⟩
  have header : Sql.Splits lines (Script.header ⟨valid.name, valid.capabilities, [sections .up, sections .down]⟩).toList
      [] := Sql.splits_header oneLine (valid.capabilities_of_plain plain)
  simpa [Script.text] using header.append ((splits .up).append (splits .down))

/-- A column whose names and default would end their statement and begin others if they were not quoted. -/
def addNote : Migration :=
  { name := "add_note"
    up := some fun _ => .ok
      [.change "t\"; DROP TABLE \"t" (.addColumn "a\n-- b" .text { default := some (.string "it's; --") }) []]
    down := some fun _ => .ok [.change "t\"; DROP TABLE \"t" (.removeColumn "a\n-- b") []] }

/-- What is handed on of it. -/
def addNoteValid : ValidatedMigration :=
  { name := "add_note"
    up := ⟨.up,
      [.change "t\"; DROP TABLE \"t" (.addColumn "a\n-- b" .text { default := some (.string "it's; --") }) []]⟩
    down := ⟨.down, [.change "t\"; DROP TABLE \"t" (.removeColumn "a\n-- b") []]⟩
    upTimeouts := ⟨.ofSeconds 5, .ofSeconds 60⟩
    downTimeouts := ⟨.ofSeconds 5, .ofSeconds 60⟩ }

/-- They stay in the quotes of the one statement that adds the column. -/
theorem script_splits_addNote :
    (addNote.validated {} {}).1 = .ok addNoteValid ∧
      ∃ (script : String) (parts : Direction → List (List Sql.Lexeme)),
        Renderer.postgres.render addNoteValid = .ok script ∧
          Sql.split .newlines script.toList = some (parts .up ++ parts .down) ∧
          ∃ statement ∈ parts .up, statement.filter Sql.Lexeme.isQuoted =
            [.quoted .name "t\"; DROP TABLE \"t", .quoted .name "a\n-- b", .quoted .string "it's; --"] := by
  have success : (addNote.validated {} {}).1 = .ok addNoteValid := rfl
  have plain : ∀ direction, ∀ i ∈ (addNoteValid.instructions direction).instructions, i.Plain := by
    intro direction i member
    cases direction <;> cases List.mem_singleton.mp member
    · exact ⟨rfl, fun sql same => by cases same⟩
    · trivial
  have oneLine : ∀ c ∈ addNoteValid.name.toList, Sql.LineEnds.newlines.ends c = false := by
    simp [addNoteValid, Sql.LineEnds.newlines]
  obtain ⟨script, parts, rendered, split, framed⟩ := script_splits success .newlines oneLine plain
  refine ⟨success, script, parts, rendered, split, ?_⟩
  have up : Sql.Framed _ [.change _ (.addColumn _ _ _) _] (parts .up) := framed .up
  generalize parts .up = statements at up
  cases up with
  | alone index => simp [Instruction.IsIndexOperation, Instruction.operation?, Change.operation] at index
  | transaction _ _ writes =>
    obtain ⟨lexemes, rest, first, -, rfl⟩ := List.forall₂_cons_left_iff.mp writes
    refine ⟨lexemes, by simp, ?_⟩
    cases first with
    | change _ _ quoted => exact quoted

end Migration

end SafeMigration
