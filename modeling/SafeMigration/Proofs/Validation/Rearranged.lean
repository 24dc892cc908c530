import SafeMigration.Proofs.Validation.Rules

/-!
Directions that are split, or put in another order.

What a direction runs with hangs on the strictest lock of its instructions, so that leaving instructions out can switch
off timeouts that an exclusive lock needs. It does so only where no such lock is left, though: the rules for a direction
can be said without its effective timeouts, and each of them holds of some of the instructions if it holds of all. The
order of the instructions has no say in the lock, the timeouts or the policies, and it only changes the order of what is
reported.
-/

namespace SafeMigration

namespace Migration

variable {migration : Migration} {config : TimeoutConfig} {part whole : List Instruction}

/-- What is permitted stays so when instructions are left out. -/
theorem Permits.sublist (permits : migration.Permits config whole) (left : part.Sublist whole) :
    migration.Permits config part where
  sound instruction member := permits.sound instruction (left.subset member)
  alone instruction member index := by
    -- An index operation that is left was the only instruction.
    have only := permits.alone instruction (left.subset member) index
    rw [only] at left
    exact left.eq_of_length_le (List.length_pos_of_mem member)
  exclusive := by
    rintro ⟨instruction, member, takes⟩
    exact permits.exclusive ⟨instruction, left.subset member, takes⟩
  concurrent := by
    intro instruction same index
    have member : instruction ∈ part := by rw [same]; exact List.mem_singleton_self instruction
    exact permits.concurrent instruction (permits.alone instruction (left.subset member) index) index

end Migration

section Order

variable {first second : List Instruction} {direction : Direction}

theorem LockWeight.strictest_perm {first second : List LockWeight} (same : first.Perm second) :
    strictest first = strictest second := by
  have exclusive : strictest first = .accessExclusive ↔ strictest second = .accessExclusive := by
    rw [strictest_eq_accessExclusive_iff, strictest_eq_accessExclusive_iff, same.mem_iff]
  revert exclusive
  cases strictest first <;> cases strictest second <;> simp

theorem InstructionSet.strictestLock_perm (same : first.Perm second) :
    strictestLock ⟨direction, first⟩ = strictestLock ⟨direction, second⟩ :=
  LockWeight.strictest_perm (same.filterMap _)

theorem InstructionSet.isolationViolations_perm (same : first.Perm second) :
    (isolationViolations ⟨direction, first⟩).Perm (isolationViolations ⟨direction, second⟩) := by
  simp only [isolationViolations, same.length_eq]
  split
  · exact .nil
  · exact (same.filter _).map _

theorem TimeoutPolicy.ofInstructions_perm (same : first.Perm second) : ofInstructions first = ofInstructions second := by
  refine List.filter_congr fun policy _ => ?_
  rw [Bool.eq_iff_iff, List.contains_iff_mem, List.contains_iff_mem, (same.map ofInstruction).mem_iff]

theorem Migration.timeouts_perm {migration : Migration} {config : TimeoutConfig} (same : first.Perm second) :
    migration.timeouts config ⟨direction, first⟩ = migration.timeouts config ⟨direction, second⟩ := by
  rw [timeouts, timeouts, InstructionSet.strictestLock_perm same]

theorem Migration.setViolations_perm {migration : Migration} {config : TimeoutConfig} (same : first.Perm second) :
    (migration.setViolations config ⟨direction, first⟩).Perm (migration.setViolations config ⟨direction, second⟩) := by
  have single : (first.flatMap Instruction.violations).Perm (second.flatMap Instruction.violations) :=
    same.flatMap_right _
  have timeouts : TimeoutPolicy.check ⟨direction, first⟩ (migration.timeouts config ⟨direction, first⟩) config =
      TimeoutPolicy.check ⟨direction, second⟩ (migration.timeouts config ⟨direction, second⟩) config := by
    rw [timeouts_perm same, TimeoutPolicy.check, TimeoutPolicy.check, TimeoutPolicy.ofInstructions_perm same]
  rw [setViolations, setViolations, timeouts]
  exact ((single.append (InstructionSet.isolationViolations_perm same)).append_right _).map _

end Order

namespace Migration

/-- Instructions without violations have none when some of them are left out. Instructions in another order, whether or not
they have violations, take the same strictest lock, run with the same timeouts, bring the same policies, and have the same
violations up to their order. -/
theorem safe_rearranged (migration : Migration) (config : TimeoutConfig) (direction : Direction)
    (instructions : List Instruction) :
    (migration.setViolations config ⟨direction, instructions⟩ = [] →
        ∀ part, part.Sublist instructions → migration.setViolations config ⟨direction, part⟩ = []) ∧
      ∀ reordered, reordered.Perm instructions →
        InstructionSet.strictestLock ⟨direction, reordered⟩ = InstructionSet.strictestLock ⟨direction, instructions⟩ ∧
        migration.timeouts config ⟨direction, reordered⟩ = migration.timeouts config ⟨direction, instructions⟩ ∧
        TimeoutPolicy.ofInstructions reordered = TimeoutPolicy.ofInstructions instructions ∧
        (migration.setViolations config ⟨direction, reordered⟩).Perm
          (migration.setViolations config ⟨direction, instructions⟩) := by
  constructor
  · intro safe part left
    exact setViolations_eq_nil_iff.mpr ((setViolations_eq_nil_iff.mp safe).sublist left)
  · intro reordered same
    exact ⟨InstructionSet.strictestLock_perm same, timeouts_perm same, TimeoutPolicy.ofInstructions_perm same,
      setViolations_perm same⟩

/-- A column for the author of a post. -/
def addAuthorColumn : Instruction := .change "posts" (.addColumn "author_id" .bigint {}) []

/-- The key to the author. -/
def addAuthorKey : Instruction := .addForeignKey "posts" "users" { column := some "author_id" } []

/-- The index on the author. -/
def addAuthorIndex : Instruction := .change "posts" (.addIndex ["author_id"] "posts_by_author" {}) []

/-- Without the column nothing is locked, the timeouts are others, and the key is safe by itself. The column and an index
on it are not safe in either order. -/
theorem safe_rearranged_author :
    let migration : Migration := { name := "add_author_to_posts" }
    let violations := fun instructions => migration.setViolations {} ⟨.up, instructions⟩
    violations [addAuthorColumn, addAuthorKey] = [] ∧ [addAuthorKey].Sublist [addAuthorColumn, addAuthorKey] ∧
      violations [addAuthorKey] = [] ∧
      migration.timeouts {} ⟨.up, [addAuthorKey]⟩ ≠ migration.timeouts {} ⟨.up, [addAuthorColumn, addAuthorKey]⟩ ∧
      [addAuthorIndex, addAuthorColumn].Perm [addAuthorColumn, addAuthorIndex] ∧
      violations [addAuthorIndex, addAuthorColumn] ≠ [] ∧
      (violations [addAuthorIndex, addAuthorColumn]).Perm (violations [addAuthorColumn, addAuthorIndex]) := by
  intro migration violations
  have safe : violations [addAuthorColumn, addAuthorKey] = [] := by decide +kernel
  have left : [addAuthorKey].Sublist [addAuthorColumn, addAuthorKey] := .cons _ (List.Sublist.refl _)
  have swapped : [addAuthorIndex, addAuthorColumn].Perm [addAuthorColumn, addAuthorIndex] := .swap ..
  obtain ⟨parts, -⟩ := safe_rearranged migration {} .up [addAuthorColumn, addAuthorKey]
  obtain ⟨-, orders⟩ := safe_rearranged migration {} .up [addAuthorColumn, addAuthorIndex]
  obtain ⟨-, -, -, same⟩ := orders _ swapped
  exact ⟨safe, left, parts safe _ left, by decide +kernel, swapped, by decide +kernel, same⟩

end Migration

end SafeMigration
