import Mathlib.Logic.Basic
import SafeMigration.Validation.Validator

/-!
The rules for one direction, said without reference to how they are checked.

A direction meets the rules when each instruction meets its own, when an index operation stands alone, when work under
an exclusive lock has both timeouts and they are within bounds, and when an index operation that has a time limit of
its own has enough time. That is the case exactly if no violation is reported. The policies of a direction and the lock
that its timeouts depend on are tied together by this: some policy is the exclusive one exactly if the strictest lock
is.
-/

namespace SafeMigration

/-- The rules that a change has to meet by itself. -/
def Change.Sound : Change → Prop
  | .addColumn _ _ options => (options.nullable = true ∨ options.default ≠ none) ∧ options.unique = false
  | .addReference _ options => options.index = false ∧ options.foreignKey = false
  | .addIndex _ _ options => options.method ≠ .hash
  | .removeIndex choice => choice.name ≠ none ∨ choice.columns ≠ none
  | .createTable columns => columns ≠ []
  | _ => True

/-- Custom instructions have no rules of their own. -/
def Instruction.Sound : Instruction → Prop
  | .change _ c _ => c.Sound
  | .custom _ => True

/-- The operations that build or drop an index. -/
def Instruction.IsIndexOperation (instruction : Instruction) : Prop :=
  instruction.operation? = some .addIndex ∨ instruction.operation? = some .removeIndex

/-- A timeout that is a limit and not above a maximum. -/
def Timeout.Within (maximum : Duration) (timeout : Timeout) : Prop :=
  ∃ d, timeout = .limit d ∧ d.nanoseconds ≤ maximum.nanoseconds

/-- A timeout that is no limit or not below a minimum. -/
def Timeout.Suffices (minimum : Duration) (timeout : Timeout) : Prop :=
  ∀ d, timeout = .limit d → minimum.nanoseconds ≤ d.nanoseconds

/-- The rules for the instructions of one direction of a migration. -/
structure Migration.Permits (migration : Migration) (config : TimeoutConfig) (instructions : List Instruction) :
    Prop where
  /-- Each instruction meets its own rules. -/
  sound : ∀ instruction ∈ instructions, instruction.Sound
  /-- An index operation has no other instruction beside it. -/
  alone : ∀ instruction ∈ instructions, instruction.IsIndexOperation → instructions = [instruction]
  /-- Under an exclusive lock the timeouts, overridden or by default, are limits within their bounds. -/
  exclusive : (∃ instruction ∈ instructions, instruction.lock? = some .accessExclusive) →
    (migration.lockTimeout.getD config.defaultLock).Within config.maxLock ∧
      (migration.statementTimeout.getD config.defaultStatement).Within config.maxStatement
  /-- An index operation has enough time, if its time is limited at all. -/
  concurrent : ∀ instruction, instructions = [instruction] → instruction.IsIndexOperation →
    ∀ timeout, migration.statementTimeout = some timeout → timeout.Suffices config.minConcurrentStatement

theorem Change.faults_eq_nil_iff (change : Change) : change.faults = [] ↔ change.Sound := by
  cases change with
  | addColumn column type options => cases nullable : options.nullable <;> simp [faults, Sound, nullable]
  | addReference reference options => simp [faults, Sound]
  | addIndex columns name options => simp [faults, Sound]
  | removeIndex choice => simp [faults, Sound, or_iff_not_imp_left]
  | createTable columns => simp [faults, Sound]
  | _ => simp [faults, Sound]

namespace Instruction

theorem violations_eq_nil_iff (instruction : Instruction) : instruction.violations = [] ↔ instruction.Sound := by
  cases instruction with
  | change table change extra => simp [violations, Sound, Change.faults_eq_nil_iff]
  | custom instruction => simp [violations, Sound]

theorem isConcurrent_iff (instruction : Instruction) :
    instruction.isConcurrent = true ↔ instruction.IsIndexOperation := by
  cases instruction with
  | change table change extra =>
    simp only [isConcurrent, IsIndexOperation, operation?, Option.some.injEq]
    cases change.operation <;> simp [Operation.isConcurrent]
  | custom instruction => simp [isConcurrent, IsIndexOperation, operation?]

/-- Index operations let the table be used. -/
theorem lock?_of_isConcurrent {instruction : Instruction} (concurrent : instruction.isConcurrent = true) :
    instruction.lock? = some .share := by
  cases instruction with
  | change table change extra =>
    simp only [isConcurrent, lock?] at concurrent ⊢
    cases operation : change.operation <;> simp_all [Operation.isConcurrent, Operation.lock?]
  | custom instruction => cases concurrent

end Instruction

namespace LockWeight

theorem strictest_eq_accessExclusive_iff (weights : List LockWeight) :
    strictest weights = .accessExclusive ↔ .accessExclusive ∈ weights := by
  induction weights with
  | nil => simp [strictest]
  | cons weight weights ih =>
    rw [strictest, List.foldr_cons, ← strictest]
    cases weight <;> simp [stricter, ih]

end LockWeight

namespace InstructionSet

variable {set : InstructionSet}

/-- The strictest lock of a direction is exclusive when some instruction takes it. -/
theorem strictestLock_eq_accessExclusive_iff :
    set.strictestLock = .accessExclusive ↔ ∃ i ∈ set.instructions, i.lock? = some .accessExclusive := by
  rw [strictestLock, LockWeight.strictest_eq_accessExclusive_iff, List.mem_filterMap]

theorem isolationViolations_eq_nil_iff :
    set.isolationViolations = [] ↔ ∀ i ∈ set.instructions, i.isConcurrent = true → set.instructions = [i] := by
  simp only [isolationViolations]
  split
  · next short =>
    simp only [true_iff]
    intro i member _
    match listed : set.instructions with
    | [] => simp [listed] at member
    | [_] => simp_all
    | _ :: _ :: _ =>
      simp only [listed, List.length_cons] at short
      omega
  · next long =>
    simp only [List.map_eq_nil_iff, List.filter_eq_nil_iff]
    refine forall₂_congr fun i member => imp_congr_right fun _ => ?_
    simp only [false_iff]
    intro alone
    simp [alone] at long

end InstructionSet

namespace TimeoutPolicy

variable {timeouts : EffectiveTimeouts} {config : TimeoutConfig}

/-- A policy is checked when it is that of some instruction. -/
theorem mem_ofInstructions_iff {policy : TimeoutPolicy} {instructions : List Instruction} :
    policy ∈ ofInstructions instructions ↔ ∃ i ∈ instructions, ofInstruction i = policy := by
  cases policy <;> simp [ofInstructions, all]

theorem ofInstruction_eq_accessExclusive_iff (instruction : Instruction) :
    ofInstruction instruction = .accessExclusive ↔ instruction.lock? = some .accessExclusive := by
  unfold ofInstruction
  split
  · simp [*]
  · split <;> simp [*]
  · simp [*]

theorem ofInstruction_eq_concurrent_iff (instruction : Instruction) :
    ofInstruction instruction = .concurrent ↔ instruction.isConcurrent = true := by
  unfold ofInstruction
  cases concurrent : instruction.isConcurrent with
  | true => simp [Instruction.lock?_of_isConcurrent concurrent]
  | false => split <;> simp

theorem underStrictLock_eq_nil_iff {name : TimeoutName} {timeout : Timeout} {maximum : Duration} :
    underStrictLock name timeout maximum = [] ↔ timeout.Within maximum := by
  cases timeout <;> simp [underStrictLock, Timeout.Within]

theorem evaluate_accessExclusive_eq_nil_iff :
    evaluate .accessExclusive timeouts config = [] ↔
      timeouts.lock.Within config.maxLock ∧ timeouts.statement.Within config.maxStatement := by
  simp [evaluate, underStrictLock_eq_nil_iff]

theorem evaluate_concurrent_eq_nil_iff :
    evaluate .concurrent timeouts config = [] ↔ timeouts.statement.Suffices config.minConcurrentStatement := by
  cases statement : timeouts.statement <;> simp [evaluate, statement, Timeout.Suffices]

/-- Nothing is wrong with timeouts when they fit every policy that an instruction brings. -/
theorem check_eq_nil_iff {set : InstructionSet} :
    check set timeouts config = [] ↔
      ((∃ i ∈ set.instructions, i.lock? = some .accessExclusive) →
        timeouts.lock.Within config.maxLock ∧ timeouts.statement.Within config.maxStatement) ∧
      ((∃ i ∈ set.instructions, i.isConcurrent = true) →
        timeouts.statement.Suffices config.minConcurrentStatement) := by
  simp only [check, List.flatMap_eq_nil_iff, mem_ofInstructions_iff, ← ofInstruction_eq_accessExclusive_iff,
    ← ofInstruction_eq_concurrent_iff, ← evaluate_accessExclusive_eq_nil_iff, ← evaluate_concurrent_eq_nil_iff]
  constructor
  · intro none
    exact ⟨none .accessExclusive, none .concurrent⟩
  · rintro ⟨exclusive, concurrent⟩ policy brought
    cases policy with
    | noop => rfl
    | accessExclusive => exact exclusive brought
    | concurrent => exact concurrent brought

end TimeoutPolicy

namespace Migration

variable {migration : Migration} {config : TimeoutConfig} {set : InstructionSet}

/-- Under an exclusive lock the defaults stand in for what is not overridden. -/
theorem timeouts_of_exclusive (exclusive : ∃ i ∈ set.instructions, i.lock? = some .accessExclusive) :
    migration.timeouts config set =
      ⟨migration.lockTimeout.getD config.defaultLock, migration.statementTimeout.getD config.defaultStatement⟩ := by
  rw [timeouts, InstructionSet.strictestLock_eq_accessExclusive_iff.mpr exclusive]
  rfl

/-- Without an exclusive lock nothing is limited but by an override. -/
theorem timeouts_of_shared (shared : ¬ ∃ i ∈ set.instructions, i.lock? = some .accessExclusive) :
    migration.timeouts config set =
      ⟨migration.lockTimeout.getD .disabled, migration.statementTimeout.getD .disabled⟩ := by
  cases strictest : set.strictestLock with
  | share =>
    rw [timeouts, strictest]
    rfl
  | accessExclusive => exact absurd (InstructionSet.strictestLock_eq_accessExclusive_iff.mp strictest) shared

/-- An index operation by itself takes no exclusive lock. -/
theorem shared_of_alone {instruction : Instruction} (alone : set.instructions = [instruction])
    (concurrent : instruction.isConcurrent = true) :
    ¬ ∃ i ∈ set.instructions, i.lock? = some .accessExclusive := by
  rw [alone]
  simp [Instruction.lock?_of_isConcurrent concurrent]

theorem suffices_getD {minimum : Duration} {override : Option Timeout} :
    (override.getD .disabled).Suffices minimum ↔ ∀ timeout, override = some timeout → timeout.Suffices minimum := by
  cases override <;> simp [Timeout.Suffices]

/-- No violation is reported exactly when a direction meets the rules. -/
theorem setViolations_eq_nil_iff :
    migration.setViolations config set = [] ↔ migration.Permits config set.instructions := by
  simp only [setViolations, List.map_eq_nil_iff, List.append_eq_nil_iff, List.flatMap_eq_nil_iff,
    Instruction.violations_eq_nil_iff, InstructionSet.isolationViolations_eq_nil_iff, TimeoutPolicy.check_eq_nil_iff]
  constructor
  · rintro ⟨⟨sound, alone⟩, exclusive, concurrent⟩
    refine ⟨sound, fun i member index => alone i member (i.isConcurrent_iff.mpr index), fun takes => ?_,
      fun i only index => ?_⟩
    · simpa only [timeouts_of_exclusive takes] using exclusive takes
    · have isConcurrent := i.isConcurrent_iff.mpr index
      have enough := concurrent ⟨i, by simp [only], isConcurrent⟩
      rw [timeouts_of_shared (shared_of_alone only isConcurrent)] at enough
      exact suffices_getD.mp enough
  · intro permits
    have alone : ∀ i ∈ set.instructions, i.isConcurrent = true → set.instructions = [i] := fun i member concurrent =>
      permits.alone i member (i.isConcurrent_iff.mp concurrent)
    refine ⟨⟨permits.sound, alone⟩, fun takes => ?_, ?_⟩
    · simpa only [timeouts_of_exclusive takes] using permits.exclusive takes
    · rintro ⟨i, member, isConcurrent⟩
      have only := alone i member isConcurrent
      rw [timeouts_of_shared (shared_of_alone only isConcurrent)]
      exact suffices_getD.mpr (permits.concurrent i only (i.isConcurrent_iff.mp isConcurrent))

end Migration

end SafeMigration
