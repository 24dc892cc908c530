import SafeMigration.Validation.Validator

/-!
What was recorded of a migration is kept, so that a migration that is validated needs what its directions need when
they are recorded for nothing else.
-/

namespace SafeMigration.Migration

variable {migration : Migration} {direction : Direction} {session after : Session} {set : InstructionSet}

/-- A direction that was recorded is known afterwards, and nothing changes for the other. -/
theorem recorded_of_instructions (success : migration.instructions direction session = (.ok set, after)) :
    set.direction = direction ∧ (after.recording direction).recorded = some set.instructions ∧
      ∀ other, other ≠ direction → after.recording other = session.recording other := by
  simp only [instructions] at success
  split at success
  next recorded known =>
    cases success
    exact ⟨rfl, known, fun _ _ => rfl⟩
  · split at success
    · cases success
    · split at success
      · cases success
      next recorded ran =>
        cases success
        refine ⟨rfl, ?_, fun other different => ?_⟩
        · cases direction <;> rfl
        · cases direction <;> cases other <;> first | rfl | exact absurd rfl different

/-- A direction that is known is given as it was recorded. -/
theorem instructions_of_recorded (isSet : set.direction = direction)
    (known : (session.recording direction).recorded = some set.instructions) :
    migration.instructions direction session = (.ok set, session) := by
  obtain ⟨setDirection, recorded⟩ := set
  cases isSet
  simp only [instructions, known]

/-- A migration that is validated needs what its directions need. -/
theorem capabilities_of_validated {config : TimeoutConfig} {valid : ValidatedMigration}
    (success : (migration.validated config session).1 = .ok valid) :
    (migration.capabilities session).1 = .ok valid.capabilities := by
  rcases upEq : migration.instructions .up session with ⟨up, afterUp⟩
  rcases downEq : migration.instructions .down afterUp with ⟨down, afterDown⟩
  simp only [validated, validate, upEq, downEq] at success
  cases up with
  | error e => simp [directionViolations, requireSafe] at success
  | ok up =>
    cases down with
    | error e => simp [directionViolations, requireSafe] at success
    | ok down =>
      obtain ⟨isUp, knownUp, _⟩ := recorded_of_instructions upEq
      obtain ⟨isDown, knownDown, others⟩ := recorded_of_instructions downEq
      have knownUpAfter : (afterDown.recording .up).recorded = some up.instructions := by
        rw [others .up (by decide), knownUp]
      rw [instructions_of_recorded isUp knownUpAfter] at success
      simp only [instructions_of_recorded isDown knownDown] at success
      split at success
      · cases success
      · cases success
        simp [capabilities, upEq, downEq, ValidatedMigration.capabilities]

end SafeMigration.Migration
