import SafeMigration.Proofs.Script.Section

/-!
The timeouts that a script sets, read as the database reads them.

A time is written in whole milliseconds, or in seconds if it is a whole number of them: what is beyond the last full
millisecond is left out. So a limit stays at or below the limit that was checked, but it can fall below a minimum that
it was checked against, and a limit of less than a millisecond is written as zero, which is no limit at all. Apart from
that the timeouts in the script are those that the policies ask for.
-/

namespace SafeMigration

namespace Timeout

/-- The timeout of so many milliseconds. -/
def ofMilliseconds (n : Nat) : Timeout := ofDuration ⟨n * 1000000⟩

/-- A number with what follows it in a setting: it counts milliseconds if no unit is given. -/
def ofUnit? (n : Nat) : List Char → Option Timeout
  | ['s'] => some (ofSeconds n)
  | ['m', 's'] => some (ofMilliseconds n)
  | [] => some (ofMilliseconds n)
  | _ => none

/-- What the value of a setting stands for; zero is no limit. -/
def ofSetting? (value : List Char) : Option Timeout :=
  let digits := value.takeWhile Char.isDigit
  if digits = [] then none
  else ofUnit? (Nat.ofDigitChars 10 digits 0) (value.dropWhile Char.isDigit)

/-- What is left of a timeout in whole milliseconds. -/
def inMilliseconds : Timeout → Timeout
  | disabled => disabled
  | limit d => ofMilliseconds d.milliseconds

/-- What stands between the quotes of the literal of a timeout. -/
def settingText : Timeout → String
  | disabled => "0"
  | limit d => d.text

theorem timeoutLiteral_eq (timeout : Timeout) :
    ScriptSection.timeoutLiteral timeout = "'" ++ timeout.settingText ++ "'" := by
  cases timeout <;> rfl

theorem ofSetting?_number (n : Nat) {unit : List Char} (noDigit : unit.takeWhile Char.isDigit = []) :
    ofSetting? ((toString n).toList ++ unit) = ofUnit? n unit := by
  have digits : ∀ c ∈ Nat.toDigits 10 n, c.isDigit = true := fun c member =>
    Nat.isDigit_of_mem_toDigits (by decide) (by decide) member
  have rest : unit.dropWhile Char.isDigit = unit := by
    simpa [noDigit] using List.takeWhile_append_dropWhile (p := Char.isDigit) (l := unit)
  simp [ofSetting?, List.takeWhile_append_of_pos digits,
    List.dropWhile_append_of_pos digits, noDigit, rest, Nat.toDigits_ne_nil]

/-- The text of a timeout is read as the timeout in whole milliseconds. -/
theorem ofSetting?_settingText (timeout : Timeout) :
    ofSetting? timeout.settingText.toList = some timeout.inMilliseconds := by
  cases timeout with
  | disabled => decide
  | limit d =>
    simp only [settingText, inMilliseconds, Duration.text]
    split
    · next whole =>
      have same : d.seconds * 1000000000 = d.milliseconds * 1000000 := by
        simp only [Duration.seconds, Duration.milliseconds] at whole ⊢
        omega
      rw [String.toList_append, ofSetting?_number _ (by decide)]
      simp [ofUnit?, ofSeconds, Duration.ofSeconds, ofMilliseconds, same]
    · rw [String.toList_append, ofSetting?_number _ (by decide)]
      rfl

example : ofSetting? "250ms".toList = some (.limit ⟨250000000⟩) := by decide

/-- Neither a quote nor a line break is in the text of a timeout. -/
theorem isAlphanum_of_mem_settingText {timeout : Timeout} {c : Char} (member : c ∈ timeout.settingText.toList) :
    c.isAlphanum = true := by
  have digits : ∀ n : Nat, ∀ d ∈ (toString n).toList, d.isAlphanum = true := fun n d among => by
    have := Nat.isDigit_of_mem_toDigits (b := 10) (by decide) (by decide)
      (by simpa [Nat.toString_eq_ofList_toDigits] using among)
    simp [Char.isAlphanum, this]
  cases timeout with
  | disabled => simp_all [settingText]
  | limit d =>
    simp only [settingText, Duration.text] at member
    split at member
    · rw [String.toList_append, List.mem_append] at member
      exact member.elim (digits _ c) (by simp +contextual)
    · rw [String.toList_append, List.mem_append] at member
      refine member.elim (digits _ c) fun unit => ?_
      simp at unit
      rcases unit with rfl | rfl <;> decide

end Timeout

/-- The timeout of a name. -/
def EffectiveTimeouts.named (timeouts : EffectiveTimeouts) : TimeoutName → Timeout
  | .lock => timeouts.lock
  | .statement => timeouts.statement

namespace ScriptSection

/-- What a line sets a timeout to, for the session or for a transaction. -/
def settingOf? (name : TimeoutName) (line : List Char) : Option (List Char) := do
  let rest ← "SET ".toList.isPrefixOf? line
  let rest := ("LOCAL ".toList.isPrefixOf? rest).getD rest
  let rest ← (name.name ++ "_timeout = '").toList.isPrefixOf? rest
  if rest.dropWhile (· != '\'') = "';".toList then some (rest.takeWhile (· != '\'')) else none

/-- The timeout that is set by the first line of a text to set it, as the database reads it. -/
def timeoutIn? (name : TimeoutName) (text : List Char) : Option Timeout :=
  ((text.splitOn '\n').findSome? (settingOf? name)).bind Timeout.ofSetting?

theorem timeoutIn?_line (name : TimeoutName) {line rest : List Char} (oneLine : '\n' ∉ line) :
    timeoutIn? name (line ++ '\n' :: rest) =
      match settingOf? name line with
      | some value => Timeout.ofSetting? value
      | none => timeoutIn? name rest := by
  rw [timeoutIn?, List.splitOn_append_cons_self_of_not_mem oneLine, List.findSome?_cons]
  cases settingOf? name line <;> rfl

/-- The line that sets a timeout. -/
def settingLine (command : String) (name : TimeoutName) (timeout : Timeout) : String :=
  command ++ " " ++ name.name ++ "_timeout = " ++ timeoutLiteral timeout ++ ";"

theorem settingOf?_settingLine {command : String} (sets : command = "SET" ∨ command = "SET LOCAL")
    (name other : TimeoutName) (timeout : Timeout) :
    settingOf? name (settingLine command other timeout).toList =
      if name = other then some timeout.settingText.toList else none := by
  have value : ∀ c ∈ timeout.settingText.toList, (c != '\'') = true := fun c member => by
    have := Timeout.isAlphanum_of_mem_settingText member
    by_contra quote
    simp_all
  rcases sets with rfl | rfl <;> cases name <;> cases other <;>
    simp [settingOf?, settingLine, Timeout.timeoutLiteral_eq, TimeoutName.name, List.isPrefixOf?,
      List.takeWhile_append_of_pos value, List.dropWhile_append_of_pos value]

/-- The two settings are read as the timeouts in whole milliseconds. -/
theorem timeoutIn?_settings {command : String} (sets : command = "SET" ∨ command = "SET LOCAL")
    (timeouts : EffectiveTimeouts) (name : TimeoutName) (rest : List Char) :
    timeoutIn? name ((settings command timeouts).toList ++ rest) = some (timeouts.named name).inMilliseconds := by
  have lines : (settings command timeouts).toList ++ rest =
      (settingLine command .lock timeouts.lock).toList ++
        '\n' :: ((settingLine command .statement timeouts.statement).toList ++ '\n' :: rest) := by
    simp [settings, settingLine, TimeoutName.name]
  have oneLine : ∀ other timeout, '\n' ∉ (settingLine command other timeout).toList := fun other timeout member => by
    have text : '\n' ∉ timeout.settingText.toList := fun among => by
      simpa using Timeout.isAlphanum_of_mem_settingText among
    rcases sets with rfl | rfl <;> cases other <;>
      simp [settingLine, Timeout.timeoutLiteral_eq, TimeoutName.name, text] at member
  rw [lines, timeoutIn?_line _ (oneLine _ _), timeoutIn?_line _ (oneLine _ _), settingOf?_settingLine sets,
    settingOf?_settingLine sets]
  cases name <;> simp [Timeout.ofSetting?_settingText, EffectiveTimeouts.named]

/-- A section in which something was recorded sets both timeouts. -/
theorem timeoutIn?_text {part : ScriptSection} {instructions : List Instruction} (fits : part.form.Fits instructions)
    (recorded : instructions ≠ []) (name : TimeoutName) :
    timeoutIn? name part.text.toList = some (part.timeouts.named name).inMilliseconds := by
  have title : part.text.toList = ("-- migrate:" ++ part.direction.name).toList ++
      '\n' :: (part.form.text part.timeouts).toList := by
    simp [text_eq]
  have titleLine : '\n' ∉ ("-- migrate:" ++ part.direction.name).toList := by
    cases part.direction <;> decide
  have titleSets : settingOf? name ("-- migrate:" ++ part.direction.name).toList = none := by
    cases part.direction <;> cases name <;> rfl
  rw [title, timeoutIn?_line name titleLine, titleSets]
  generalize part.form = form at fits
  cases fits with
  | unchanged => exact absurd rfl recorded
  | alone index asked written =>
    rw [Form.text_alone, ← settings_session, String.toList_append, String.toList_append, List.append_assoc]
    exact timeoutIn?_settings (.inl rfl) _ _ _
  | @transaction _ _ written recorded noIndex asked each =>
    have begins : settingOf? name "BEGIN;".toList = none := by cases name <;> rfl
    have lines : ((Form.transaction written).text part.timeouts).toList = "BEGIN;".toList ++
        '\n' :: ((settings "SET LOCAL" part.timeouts).toList ++ (String.join written ++ "COMMIT;\n").toList) := by
      simp [Form.text_transaction, settings_local]
    rw [lines, timeoutIn?_line name (by decide), begins]
    exact timeoutIn?_settings (.inr rfl) _ _ _

end ScriptSection

namespace Timeout

theorem within_inMilliseconds_iff {maximum : Duration} {timeout : Timeout} (within : timeout.Within maximum) :
    timeout.inMilliseconds.Within maximum ↔ timeout.Suffices ⟨1000000⟩ := by
  obtain ⟨d, rfl, bound⟩ := within
  have part : d.milliseconds = d.nanoseconds / 1000000 := rfl
  simp only [inMilliseconds, ofMilliseconds, ofDuration, Within, Suffices, limit.injEq, forall_eq']
  split
  · simp only [reduceCtorEq, false_and, exists_false, false_iff]
    omega
  · simp only [limit.injEq, exists_eq_left']
    omega

theorem suffices_inMilliseconds_iff {minimum : Duration} {timeout : Timeout} :
    timeout.inMilliseconds.Suffices minimum ↔
      ∀ d, timeout = .limit d → d.milliseconds = 0 ∨ minimum.nanoseconds ≤ d.milliseconds * 1000000 := by
  cases timeout with
  | disabled => simp [inMilliseconds, Suffices]
  | limit d =>
    simp only [inMilliseconds, ofMilliseconds, ofDuration, Suffices, limit.injEq, forall_eq']
    split
    · simp only [reduceCtorEq, false_imp_iff, implies_true, true_iff]
      omega
    · simp only [limit.injEq, forall_eq']
      omega

end Timeout

namespace Migration

variable {migration : Migration} {config : TimeoutConfig} {session : Session} {valid : ValidatedMigration}
  {direction : Direction}

theorem Passed.timeouts_of_exclusive (passed : migration.Passed config valid direction)
    (exclusive : ∃ i ∈ (valid.instructions direction).instructions, i.lock? = some .accessExclusive) :
    valid.timeouts direction =
      ⟨migration.lockTimeout.getD config.defaultLock, migration.statementTimeout.getD config.defaultStatement⟩ :=
  passed.timeouts.trans (Migration.timeouts_of_exclusive exclusive)

theorem Passed.timeouts_of_index (passed : migration.Passed config valid direction)
    (index : ∃ i ∈ (valid.instructions direction).instructions, i.IsIndexOperation) :
    valid.timeouts direction =
      ⟨migration.lockTimeout.getD .disabled, migration.statementTimeout.getD .disabled⟩ := by
  obtain ⟨i, member, isIndex⟩ := index
  exact passed.timeouts.trans (timeouts_of_shared
    (shared_of_alone (passed.permits.alone i member isIndex) (i.isConcurrent_iff.mpr isIndex)))

/-- The timeouts that the script of a migration sets, against the policies that the migration passed. Under an
exclusive lock they are limits within their bounds exactly if the timeouts asked for are of a millisecond or more. An
index operation has enough time, or all of it, exactly if the whole milliseconds of its override are enough or are
none. -/
theorem timeouts_in_script (success : (migration.validated config session).1 = .ok valid) :
    ∃ parts : Direction → ScriptSection,
      Renderer.postgres.render valid =
          .ok (Script.text ⟨valid.name, valid.capabilities, [parts .up, parts .down]⟩) ∧
        ∀ direction, (parts direction).direction = direction ∧
          ((∃ i ∈ (valid.instructions direction).instructions, i.lock? = some .accessExclusive) →
            ∃ lock statement,
              ScriptSection.timeoutIn? .lock (parts direction).text.toList = some lock ∧
              ScriptSection.timeoutIn? .statement (parts direction).text.toList = some statement ∧
              (lock.Within config.maxLock ↔
                (migration.lockTimeout.getD config.defaultLock).Suffices ⟨1000000⟩) ∧
              (statement.Within config.maxStatement ↔
                (migration.statementTimeout.getD config.defaultStatement).Suffices ⟨1000000⟩)) ∧
          ((∃ i ∈ (valid.instructions direction).instructions, i.IsIndexOperation) →
            ∃ statement,
              ScriptSection.timeoutIn? .statement (parts direction).text.toList = some statement ∧
              (statement.Suffices config.minConcurrentStatement ↔
                ∀ d, migration.statementTimeout = some (.limit d) →
                  d.milliseconds = 0 ∨ config.minConcurrentStatement.nanoseconds ≤ d.milliseconds * 1000000)) := by
  obtain ⟨parts, rendered, each⟩ := exists_sections success
  refine ⟨parts, rendered, fun direction => ?_⟩
  have passed := passed_of_validated success direction
  obtain ⟨-, own, timeouts, fits⟩ := each direction
  refine ⟨own, fun exclusive => ?_, fun index => ?_⟩
  · have reads := ScriptSection.timeoutIn?_text fits (by rintro empty; simp [empty] at exclusive)
    rw [timeouts, passed.timeouts_of_exclusive exclusive] at reads
    obtain ⟨lock, statement⟩ := passed.permits.exclusive exclusive
    exact ⟨_, _, reads .lock, reads .statement, Timeout.within_inMilliseconds_iff lock,
      Timeout.within_inMilliseconds_iff statement⟩
  · have reads := ScriptSection.timeoutIn?_text fits (by rintro empty; simp [empty] at index)
    rw [timeouts, passed.timeouts_of_index index] at reads
    refine ⟨_, reads .statement, Timeout.suffices_inMilliseconds_iff.trans (forall_congr' fun d => ?_)⟩
    cases migration.statementTimeout <;> simp [EffectiveTimeouts.named]

/-- A column that is added and removed with a limit of so many nanoseconds for the lock. -/
def briefLock (nanoseconds : Nat) : Migration :=
  { name := "add_bio_to_users"
    lockTimeout := some (.ofDuration ⟨nanoseconds⟩)
    up := some fun _ => .ok [.change "users" (.addColumn "bio" .text {}) []]
    down := some fun _ => .ok [.change "users" (.removeColumn "bio") []] }

/-- What is handed on of it. -/
def briefLockValid (nanoseconds : Nat) : ValidatedMigration :=
  { name := "add_bio_to_users"
    up := ⟨.up, [.change "users" (.addColumn "bio" .text {}) []]⟩
    down := ⟨.down, [.change "users" (.removeColumn "bio") []]⟩
    upTimeouts := ⟨.ofDuration ⟨nanoseconds⟩, .ofSeconds 60⟩
    downTimeouts := ⟨.ofDuration ⟨nanoseconds⟩, .ofSeconds 60⟩ }

/-- A limit of one millisecond and a half stays a limit. -/
theorem timeouts_in_script_briefLock :
    ((briefLock 1500000).validated {} {}).1 = .ok (briefLockValid 1500000) ∧
      ∃ part lock, ScriptSection.timeoutIn? .lock (ScriptSection.text part).toList = some lock ∧
        part.direction = .up ∧ lock.Within ({} : TimeoutConfig).maxLock := by
  have success : ((briefLock 1500000).validated {} {}).1 = .ok (briefLockValid 1500000) := rfl
  obtain ⟨parts, -, each⟩ := timeouts_in_script success
  obtain ⟨own, exclusive, -⟩ := each .up
  obtain ⟨lock, statement, reads, -, within, -⟩ := exclusive ⟨_, List.mem_singleton_self _, rfl⟩
  refine ⟨success, parts .up, lock, reads, own, within.mpr ?_⟩
  simp [briefLock, Timeout.ofDuration, Timeout.Suffices]

/-- A limit of half a millisecond passes, and is no limit in the script. -/
theorem unlimited_lock_briefLock :
    ((briefLock 500000).validated {} {}).1 = .ok (briefLockValid 500000) ∧
      (∃ i ∈ (briefLockValid 500000).up.instructions, i.lock? = some .accessExclusive) ∧
      ∃ up down, Renderer.postgres.render (briefLockValid 500000) =
          .ok (Script.text ⟨"add_bio_to_users", (briefLockValid 500000).capabilities, [up, down]⟩) ∧
        up.direction = .up ∧ ScriptSection.timeoutIn? .lock up.text.toList = some .disabled ∧
        ¬ Timeout.disabled.Within ({} : TimeoutConfig).maxLock := by
  refine ⟨rfl, ⟨_, List.mem_singleton_self _, rfl⟩, _, _, rfl, rfl, ?_, by simp [Timeout.Within]⟩
  decide +kernel

end Migration

end SafeMigration
