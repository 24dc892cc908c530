import Mathlib.Data.List.Basic
import SafeMigration.Proofs.Script.Lexeme
import SafeMigration.Proofs.Script.Section

/-!
What stands in a script before its first section.

The name of a migration and the names of its custom operations are written behind two dashes as they are. A name that
goes over several lines leaves the comment with its second line. So what is run before the first section is settled by
the lines that begin inside such names: they have to be empty or comments themselves, up to one that looks like the
title of the section.
-/

namespace SafeMigration

namespace Sql

/-- A line on which nothing is run: it is empty or a comment. -/
def Silent (line : List Char) : Prop := line = [] ∨ "--".toList <+: line

instance : DecidablePred Silent := fun line => inferInstanceAs (Decidable (line = [] ∨ "--".toList <+: line))

theorem silent_append {beginning : List Char} (comment : "--".toList <+: beginning) (line : List Char) :
    Silent (beginning ++ line) :=
  .inr (comment.trans (List.prefix_append beginning line))

namespace LineEnds

variable (lines : LineEnds)

/-- The lines of a text. -/
def split (text : List Char) : List (List Char) := text.splitOnP lines.ends

/-- The first line of a text. -/
def first (text : String) : List Char := text.toList.takeWhile (!lines.ends ·)

/-- The lines that begin inside a text: all but the first. -/
def inner (text : String) : List (List Char) := (lines.split text.toList).tail

variable {lines}

theorem split_eq (text : String) : lines.split text.toList = lines.first text :: lines.inner text := by
  have head : ∀ cs : List Char, cs.splitOnP lines.ends =
      cs.takeWhile (!lines.ends ·) :: (cs.splitOnP lines.ends).tail := by
    intro cs
    induction cs with
    | nil => rfl
    | cons c cs ih =>
      rw [List.splitOnP_cons_eq_if_modifyHead]
      cases ends : lines.ends c with
      | true => simp [ends]
      | false =>
        rw [ih]
        simp [ends]
  exact head text.toList

/-- A line of which the beginning is given. -/
theorem split_append {beginning : List Char} (oneLine : ∀ c ∈ beginning, lines.ends c = false) (text : List Char) :
    lines.split (beginning ++ text) = (lines.split text).modifyHead (beginning ++ ·) := by
  induction beginning with
  | nil => exact (congrFun List.modifyHead_id _).symm
  | cons c cs ih =>
    obtain ⟨here, later⟩ := List.forall_mem_cons.mp oneLine
    have rest : (cs ++ text).splitOnP lines.ends = _ := ih later
    rw [split, List.cons_append, List.splitOnP_cons_eq_if_modifyHead, rest, here, List.modifyHead_modifyHead]
    rfl

theorem split_newline (text rest : List Char) :
    lines.split (text ++ '\n' :: rest) = lines.split text ++ lines.split rest :=
  List.splitOnP_append_cons text rest lines.newline

/-- A text written into a line of its own reaches as far as it has lines. -/
theorem split_line {beginning : List Char} (oneLine : ∀ c ∈ beginning, lines.ends c = false) (text : String)
    (rest : List Char) : lines.split (beginning ++ (text.toList ++ '\n' :: rest)) =
      (beginning ++ lines.first text) :: (lines.inner text ++ lines.split rest) := by
  rw [← List.append_assoc, split_newline, split_append oneLine, split_eq]
  rfl

theorem ends_of_visible {text : String} (visible : text.toList.all (fun c => ' ' ≤ c && c ≤ '~') = true) :
    ∀ c ∈ text.toList, lines.ends c = false := by
  intro c member
  have bounds := List.all_eq_true.mp visible c member
  simp only [Bool.and_eq_true, decide_eq_true_eq] at bounds
  exact lines.visible c bounds.1 bounds.2

end LineEnds

end Sql

namespace Script

open Sql

/-- The title of the first section. -/
def title : List Char := "-- migrate:up".toList

theorem title_eq : title = "-- ".toList ++ "migrate:up".toList := by
  unfold title
  simp

/-- Nothing is run on the lines before the title of the first section. -/
def Quiet (text : List (List Char)) : Prop := ∀ line ∈ text.takeWhile (· ≠ title), Silent line

instance : DecidablePred Quiet := fun text =>
  inferInstanceAs (Decidable (∀ line ∈ text.takeWhile (· ≠ title), Silent line))

variable {line : List Char} {text before after other : List (List Char)}

theorem quiet_title : Quiet (title :: text) := by
  simp [Quiet]

theorem quiet_cons_iff (silent : Silent line) : Quiet (line :: text) ↔ line = title ∨ Quiet text := by
  by_cases same : line = title <;> simp [Quiet, same, silent]

/-- What comes after some lines matters if it is reached. -/
theorem quiet_append_congr (same : Quiet after ↔ Quiet other) : Quiet (before ++ after) ↔ Quiet (before ++ other) := by
  induction before with
  | nil => exact same
  | cons line before ih =>
    by_cases isTitle : line = title
    · simp [Quiet, isTitle]
    · have step : ∀ text, Quiet (line :: text) ↔ Silent line ∧ Quiet text := fun text => by simp [Quiet, isTitle]
      simp only [List.cons_append, step, ih]

/-- The lines of a header that begin inside of names. -/
def strayLines (lines : LineEnds) (name : String) (capabilities : List Capability) : List (List Char) :=
  lines.inner name ++ capabilities.flatMap fun capability => lines.inner capability.text

variable {lines : LineEnds}

/-- The comments that name what a migration needs are quiet as far as the lines inside of the names are. -/
theorem quiet_requirements_iff (capabilities : List Capability) {rest : List Char} (quiet : Quiet (lines.split rest)) :
    Quiet (lines.split ((String.join (capabilities.map fun c => "-- requires: " ++ c.text ++ "\n")).toList ++ rest)) ↔
      Quiet (capabilities.flatMap fun capability => lines.inner capability.text) := by
  induction capabilities with
  | nil => simpa [Quiet] using quiet
  | cons capability capabilities ih =>
    have oneLine : ∀ c ∈ "-- requires: ".toList, lines.ends c = false := LineEnds.ends_of_visible (by decide)
    have notTitle : "-- requires: ".toList ++ lines.first capability.text ≠ title := by
      unfold title
      simp
    have comment : Silent ("-- requires: ".toList ++ lines.first capability.text) := silent_append (by simp) _
    have shape : (String.join ((capability :: capabilities).map fun c => "-- requires: " ++ c.text ++ "\n")).toList ++
        rest = "-- requires: ".toList ++ (capability.text.toList ++ '\n' ::
          ((String.join (capabilities.map fun c => "-- requires: " ++ c.text ++ "\n")).toList ++ rest)) := by simp
    rw [shape, LineEnds.split_line oneLine, quiet_cons_iff comment, or_iff_right notTitle, quiet_append_congr ih,
      List.flatMap_cons]

theorem quiet_header_iff (script : Script) {rest : List Char} (quiet : Quiet (lines.split rest)) :
    Quiet (lines.split (script.header.toList ++ rest)) ↔
      lines.first script.name = "migrate:up".toList ∨ Quiet (strayLines lines script.name script.capabilities) := by
  have oneLine : ∀ c ∈ "-- ".toList, lines.ends c = false := LineEnds.ends_of_visible (by decide)
  have comment : Silent ("-- ".toList ++ lines.first script.name) := silent_append (by simp) _
  have shape : script.header.toList ++ rest = "-- ".toList ++ (script.name.toList ++ '\n' ::
      ((String.join (script.capabilities.map fun c => "-- requires: " ++ c.text ++ "\n")).toList ++ rest)) := by
    simp [header]
  rw [shape, LineEnds.split_line oneLine, quiet_cons_iff comment, quiet_append_congr (quiet_requirements_iff _ quiet),
    title_eq, List.append_right_inj, strayLines]

/-- The title of the first section ends what is looked at. -/
theorem quiet_section (rest : List Char) : Quiet (lines.split ('\n' :: (title ++ '\n' :: rest))) := by
  have oneLine : ∀ c ∈ title, lines.ends c = false := LineEnds.ends_of_visible (by decide)
  have itself : lines.split title = [title] := List.splitOnP_eq_singleton oneLine
  have shape : lines.split ('\n' :: (title ++ '\n' :: rest)) = [] :: title :: lines.split rest := by
    rw [← List.nil_append ('\n' :: _), LineEnds.split_newline, LineEnds.split_newline, itself]
    rfl
  rw [shape, quiet_cons_iff (.inl rfl)]
  exact .inr quiet_title

end Script

/-- What stands before the first section in the script of a migration that was handed on is empty lines and comments
exactly if the lines that begin inside of its name and of what it says of its needs are, as far as they come before a
line that is the title of the first section. The first line of the name can make the title too. -/
theorem header_quiet_iff {migration : Migration} {config : TimeoutConfig} {session : Session}
    {valid : ValidatedMigration} (success : (migration.validated config session).1 = .ok valid)
    (lines : Sql.LineEnds) :
    ∃ script : String, Renderer.postgres.render valid = .ok script ∧
      (Script.Quiet (lines.split script.toList) ↔ lines.first valid.name = "migrate:up".toList ∨
        Script.Quiet (Script.strayLines lines valid.name valid.capabilities)) := by
  obtain ⟨parts, rendered, each⟩ := exists_sections success
  refine ⟨_, rendered, ?_⟩
  obtain ⟨-, direction, -, -⟩ := each .up
  obtain ⟨more, opened⟩ : ∃ more, String.toList (String.join ([parts .up, parts .down].map fun s => "\n" ++ s.text)) =
      '\n' :: (Script.title ++ '\n' :: more) := by
    rw [List.map_cons, ScriptSection.text_eq, direction]
    exact ⟨_, by simp [Script.title_eq, Direction.name]; rfl⟩
  rw [Script.text, String.toList_append, opened]
  exact Script.quiet_header_iff _ (Script.quiet_section more)

/-- A migration whose name goes on in a comment, with a custom operation whose name goes on outside of one. -/
def sweptLogs : Migration :=
  { name := "sweep_logs\n-- every night"
    up := some fun _ => .ok [.custom ⟨"sweep\nall logs", none, none, ["DELETE FROM logs"], []⟩]
    down := some fun _ => .ok [] }

/-- What is handed on of it. -/
def sweptLogsValid : ValidatedMigration :=
  { name := "sweep_logs\n-- every night"
    up := ⟨.up, [.custom ⟨"sweep\nall logs", none, none, ["DELETE FROM logs"], []⟩]⟩
    down := ⟨.down, []⟩
    upTimeouts := ⟨.disabled, .disabled⟩
    downTimeouts := ⟨.disabled, .disabled⟩ }

/-- The second line of the operation's name would be run. -/
theorem header_quiet_iff_sweptLogs :
    (sweptLogs.validated {} {}).1 = .ok sweptLogsValid ∧
      Script.strayLines .newlines sweptLogsValid.name sweptLogsValid.capabilities =
        ["-- every night".toList, "all logs'".toList] ∧
      ∃ script : String, Renderer.postgres.render sweptLogsValid = .ok script ∧
        ¬ Script.Quiet (Sql.LineEnds.newlines.split script.toList) := by
  have success : (sweptLogs.validated {} {}).1 = .ok sweptLogsValid := rfl
  obtain ⟨script, rendered, quiet⟩ := header_quiet_iff success .newlines
  exact ⟨success, by decide +kernel, script, rendered, quiet.not.mpr (by decide +kernel)⟩

/-- A migration that changes nothing, with a name that drops a table. -/
def droppingName : Migration :=
  { name := "baseline\nDROP TABLE users;", up := some fun _ => .ok [], down := some fun _ => .ok [] }

/-- It is accepted, and what its name says is run before the first section. -/
theorem stray_line_droppingName :
    ∃ valid script, (droppingName.validated {} {}).1 = .ok valid ∧ Renderer.postgres.render valid = .ok script ∧
      (Sql.LineEnds.newlines.split script.toList).takeWhile (· ≠ Script.title) =
        ["-- baseline".toList, "DROP TABLE users;".toList, []] ∧
      ¬ Sql.Silent "DROP TABLE users;".toList := by
  refine ⟨_, _, rfl, rfl, ?_, ?_⟩ <;> decide +kernel

end SafeMigration
