import SafeMigration.Proofs.Session
import SafeMigration.Proofs.Validation.Rules

/-!
Which migrations are accepted.

The violations of a migration are those of its two directions, so there are none exactly if both directions are
recorded and meet the rules. The migration that is handed on for writing out then holds the instructions that were
looked at, with the timeouts that they were looked at with.
-/

namespace SafeMigration

theorem requireSafe_eq_ok_iff {migration : String} {violations : List Violation} :
    requireSafe migration violations = .ok () ↔ violations = [] := by
  cases violations <;> simp [requireSafe]

namespace Migration

/-- Both directions have a procedure that records without error, and what they record meets the rules. -/
def Acceptable (migration : Migration) (config : TimeoutConfig) (session : Session) : Prop :=
  ∀ direction, ∃ recorded, migration.Records session direction recorded ∧ migration.Permits config recorded

variable {migration : Migration} {config : TimeoutConfig} {session : Session} {valid : ValidatedMigration}
  {direction : Direction}

/-- Asking for one direction does not change what the other gives. -/
theorem instructions_down_after_up :
    (migration.instructions .down (migration.instructions .up session).2).1 =
      (migration.instructions .down session).1 :=
  instructions_fst_congr (recording_instructions_of_ne (by decide))

theorem directionViolations_eq_nil_iff {recorded : Except MigrationError InstructionSet} :
    migration.directionViolations config direction recorded = [] ↔
      ∃ set, recorded = .ok set ∧ migration.setViolations config set = [] := by
  cases recorded <;> simp [directionViolations]

/-- The violations are those of one direction and then those of the other. -/
theorem validate_eq (migration : Migration) (config : TimeoutConfig) (session : Session) :
    (migration.validate config session).1 =
      migration.directionViolations config .up (migration.instructions .up session).1 ++
        migration.directionViolations config .down (migration.instructions .down session).1 := by
  rw [← instructions_down_after_up]
  rfl

theorem validate_eq_nil_iff :
    (migration.validate config session).1 = [] ↔ ∃ up down,
      (migration.instructions .up session).1 = .ok up ∧ (migration.instructions .down session).1 = .ok down ∧
        migration.setViolations config up = [] ∧ migration.setViolations config down = [] := by
  simp only [validate_eq, List.append_eq_nil_iff, directionViolations_eq_nil_iff]
  constructor
  · rintro ⟨⟨up, upOk, upSafe⟩, down, downOk, downSafe⟩
    exact ⟨up, down, upOk, downOk, upSafe, downSafe⟩
  · rintro ⟨up, down, upOk, downOk, upSafe, downSafe⟩
    exact ⟨⟨up, upOk, upSafe⟩, down, downOk, downSafe⟩

theorem validate_of_validated (success : (migration.validated config session).1 = .ok valid) :
    (migration.validate config session).1 = [] := by
  simp only [validated] at success
  cases required : requireSafe migration.name (migration.validate config session).1 with
  | error e => simp [required] at success
  | ok _ => exact requireSafe_eq_ok_iff.mp required

/-- After both directions were asked for they are given again without being recorded anew. -/
theorem validated_of_recorded {up down : InstructionSet} (upOk : (migration.instructions .up session).1 = .ok up)
    (downOk : (migration.instructions .down session).1 = .ok down) :
    (migration.validated config session).1 =
      (requireSafe migration.name (migration.validate config session).1).map fun _ =>
        ⟨migration.name, up, down, migration.timeouts config up, migration.timeouts config down⟩ := by
  rw [← instructions_down_after_up] at downOk
  rcases upEq : migration.instructions .up session with ⟨_, afterUp⟩
  rw [upEq] at upOk downOk
  rcases downEq : migration.instructions .down afterUp with ⟨_, afterDown⟩
  rw [downEq] at downOk
  cases upOk
  cases downOk
  obtain ⟨isUp, knownUp, _⟩ := recorded_of_instructions upEq
  obtain ⟨isDown, knownDown, others⟩ := recorded_of_instructions downEq
  rw [← others .up (by decide)] at knownUp
  have after : (migration.validate config session).2 = afterDown := by simp only [validate, upEq, downEq]
  simp only [validated, after, instructions_of_recorded isUp knownUp, instructions_of_recorded isDown knownDown]
  split <;> simp [*, Except.map]

/-- A migration is handed on with the instructions that were found to be safe, and with their timeouts. -/
theorem validated_eq_ok_iff :
    (migration.validated config session).1 = .ok valid ↔ ∃ up down,
      (migration.instructions .up session).1 = .ok up ∧ (migration.instructions .down session).1 = .ok down ∧
        migration.setViolations config up = [] ∧ migration.setViolations config down = [] ∧
        valid = ⟨migration.name, up, down, migration.timeouts config up, migration.timeouts config down⟩ := by
  constructor
  · intro success
    have safe := validate_of_validated success
    obtain ⟨up, down, upOk, downOk, upSafe, downSafe⟩ := validate_eq_nil_iff.mp safe
    rw [validated_of_recorded upOk downOk, requireSafe_eq_ok_iff.mpr safe] at success
    cases success
    exact ⟨up, down, upOk, downOk, upSafe, downSafe, rfl⟩
  · rintro ⟨up, down, upOk, downOk, upSafe, downSafe, rfl⟩
    have safe := validate_eq_nil_iff.mpr ⟨up, down, upOk, downOk, upSafe, downSafe⟩
    rw [validated_of_recorded upOk downOk, requireSafe_eq_ok_iff.mpr safe]
    rfl

/-- A migration without violations is handed on. -/
theorem exists_validated (safe : (migration.validate config session).1 = []) :
    ∃ valid, (migration.validated config session).1 = .ok valid := by
  obtain ⟨up, down, upOk, downOk, upSafe, downSafe⟩ := validate_eq_nil_iff.mp safe
  exact ⟨_, validated_eq_ok_iff.mpr ⟨up, down, upOk, downOk, upSafe, downSafe, rfl⟩⟩

/-- A migration with violations is not handed on, and they are all that is said. -/
theorem validated_of_unsafe {e : MigrationError}
    (refused : requireSafe migration.name (migration.validate config session).1 = .error e) :
    (migration.validated config session).1 = .error e ∧
      e = .rejected migration.name (migration.validate config session).1 := by
  constructor
  · simp only [validated, refused]
  · unfold requireSafe at refused
    split at refused
    · cases refused
    · exact (Except.error.inj refused).symm

/-- What is known of a direction of a migration that was handed on. -/
structure Passed (migration : Migration) (config : TimeoutConfig) (valid : ValidatedMigration)
    (direction : Direction) : Prop where
  own : (valid.instructions direction).direction = direction
  timeouts : valid.timeouts direction = migration.timeouts config (valid.instructions direction)
  permits : migration.Permits config (valid.instructions direction).instructions

theorem passed_of_validated (success : (migration.validated config session).1 = .ok valid) (direction : Direction) :
    migration.Passed config valid direction := by
  obtain ⟨up, down, upOk, downOk, upSafe, downSafe, rfl⟩ := validated_eq_ok_iff.mp success
  cases direction with
  | up => exact ⟨(recorded_of_instructions (Prod.ext upOk rfl)).1, rfl, setViolations_eq_nil_iff.mp upSafe⟩
  | down => exact ⟨(recorded_of_instructions (Prod.ext downOk rfl)).1, rfl, setViolations_eq_nil_iff.mp downSafe⟩

theorem acceptable_iff (asked : migration.Asked session) :
    migration.Acceptable config session ↔ ∃ up down,
      (migration.instructions .up session).1 = .ok up ∧ (migration.instructions .down session).1 = .ok down ∧
        migration.setViolations config up = [] ∧ migration.setViolations config down = [] := by
  simp only [instructions_eq_ok_iff asked, setViolations_eq_nil_iff]
  constructor
  · intro acceptable
    obtain ⟨up, upRecorded, upPermits⟩ := acceptable .up
    obtain ⟨down, downRecorded, downPermits⟩ := acceptable .down
    exact ⟨_, _, ⟨up, upRecorded, rfl⟩, ⟨down, downRecorded, rfl⟩, upPermits, downPermits⟩
  · rintro ⟨_, _, ⟨up, upRecorded, rfl⟩, ⟨down, downRecorded, rfl⟩, upPermits, downPermits⟩ direction
    cases direction with
    | up => exact ⟨up, upRecorded, upPermits⟩
    | down => exact ⟨down, downRecorded, downPermits⟩

/-- A migration has no violations, and is validated, exactly when both of its directions record without error and what
they record meets the rules. -/
theorem valid_iff_acceptable (asked : migration.Asked session) (config : TimeoutConfig) :
    ((migration.validate config session).1 = [] ↔ migration.Acceptable config session) ∧
      ((∃ valid, (migration.validated config session).1 = .ok valid) ↔ migration.Acceptable config session) := by
  refine ⟨validate_eq_nil_iff.trans (acceptable_iff asked).symm, ?_, fun acceptable => ?_⟩
  · rintro ⟨valid, success⟩
    exact (acceptable_iff asked).mpr (validate_eq_nil_iff.mp (validate_of_validated success))
  · obtain ⟨up, down, upOk, downOk, upSafe, downSafe⟩ := (acceptable_iff asked).mp acceptable
    exact ⟨_, validated_eq_ok_iff.mpr ⟨up, down, upOk, downOk, upSafe, downSafe, rfl⟩⟩

/-- An index that is built and dropped by itself, and is given two hours for it. -/
def indexByItself : Migration :=
  { name := "add_index_to_users"
    statementTimeout := some (.ofSeconds 7200)
    up := some fun _ => .ok [.change "users" (.addIndex ["email"] "index_users_on_email" {}) []]
    down := some fun _ => .ok [.change "users" (.removeIndex { name := some "index_users_on_email" }) []] }

/-- It is accepted, also when one direction was asked for before. -/
theorem valid_iff_acceptable_indexByItself :
    indexByItself.Asked (indexByItself.instructions .up {}).2 ∧
      indexByItself.Acceptable {} (indexByItself.instructions .up {}).2 ∧
      ∃ valid, (indexByItself.validated {} (indexByItself.instructions .up {}).2).1 = .ok valid := by
  have asked : indexByItself.Asked (indexByItself.instructions .up {}).2 := .next .nothing .up
  obtain ⟨validate, validated⟩ := valid_iff_acceptable asked {}
  have acceptable := validate.mp (by decide +kernel)
  exact ⟨asked, acceptable, validated.mpr acceptable⟩

end Migration

end SafeMigration
