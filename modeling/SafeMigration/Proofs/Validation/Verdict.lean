import SafeMigration.Proofs.Validation.Defaults
import SafeMigration.Validation.Verdict

/-!
What a verdict says, fault by fault.

Merging verdicts is associative and a verdict that nothing is wrong changes nothing by it. So a verdict that is put
together in any number of layers says what its parts say, in their order, and as no part is a list without a member, the
whole is none either. That gives the report on a migration in full: for each direction the faults of its instructions in
the order in which they were recorded, then one for each index operation that is not alone, then at most one for each
timeout that is out of bounds, no matter how many instructions set the bounds. What one direction is told does not depend
on the other.
-/

namespace SafeMigration

namespace Verdict

@[simp]
theorem valid_merge (verdict : Verdict) : valid.merge verdict = verdict := by
  cases verdict <;> rfl

@[simp]
theorem merge_valid (verdict : Verdict) : verdict.merge valid = verdict := by
  cases verdict <;> rfl

theorem merge_assoc (first second third : Verdict) :
    (first.merge second).merge third = first.merge (second.merge third) := by
  cases first <;> cases second <;> cases third <;> simp [merge]

@[simp]
theorem mergeAll_nil : mergeAll [] = valid := rfl

/-- What verdicts are merged into can be kept apart. -/
theorem foldl_merge (first : Verdict) (verdicts : List Verdict) :
    verdicts.foldl merge first = first.merge (mergeAll verdicts) := by
  induction verdicts generalizing first with
  | nil => simp
  | cons verdict verdicts ih =>
    have later : mergeAll (verdict :: verdicts) = verdict.merge (mergeAll verdicts) := by
      rw [← valid_merge verdict]
      exact ih _
    rw [List.foldl_cons, ih, merge_assoc, later]

@[simp]
theorem mergeAll_cons (verdict : Verdict) (verdicts : List Verdict) :
    mergeAll (verdict :: verdicts) = verdict.merge (mergeAll verdicts) := by
  rw [mergeAll, List.foldl_cons, foldl_merge, valid_merge]

/-- A verdict that is told by its faults is never a list of none. -/
theorem ofList_ne_invalid_nil (faults : List Violation) : ofList faults ≠ invalid [] := by
  cases faults <;> simp [ofList]

@[simp]
theorem violations_ofList (faults : List Violation) : (ofList faults).violations = faults := by
  cases faults <;> rfl

@[simp]
theorem merge_ofList (first second : List Violation) : (ofList first).merge (ofList second) = ofList (first ++ second) := by
  cases first with
  | nil => simp [ofList]
  | cons fault faults => cases second <;> simp [ofList, merge]

@[simp]
theorem mergeAll_ofList {α : Type} (faults : α → List Violation) (values : List α) :
    mergeAll (values.map fun value => ofList (faults value)) = ofList (values.flatMap faults) := by
  induction values with
  | nil => rfl
  | cons value values ih => rw [List.map_cons, mergeAll_cons, ih, merge_ofList, List.flatMap_cons]

@[simp]
theorem inDirection_ofList (direction : Direction) (faults : List Violation) :
    (ofList faults).inDirection direction = ofList (faults.map (.inDirection direction)) := by
  cases faults <;> rfl

theorem require_ofList (migration : String) (faults : List Violation) :
    (ofList faults).require migration = requireSafe migration faults := by
  cases faults <;> rfl

end Verdict

instance (instruction : Instruction) : Decidable instruction.IsIndexOperation :=
  inferInstanceAs (Decidable (_ ∨ _))

/-- What is said of an index operation that is one of so many instructions. -/
def Violation.crowded (count : Nat) (instruction : Instruction) : Violation :=
  .new .crossInstruction
    (instruction.description ++ " must be the only instruction in its direction (" ++ toString count ++
      " found); move it to its own migration")

namespace Timeout

/-- What is said of a timeout that an exclusive lock does not go with. -/
def excess? (name : TimeoutName) (maximum : Duration) : Timeout → Option Violation
  | .disabled => some (.new .timeoutPolicy (name.name ++ " timeout must not be disabled for ACCESS EXCLUSIVE operations"))
  | .limit d =>
    if maximum.nanoseconds < d.nanoseconds then
      some (.new .timeoutPolicy
        (name.name ++ " timeout " ++ d.text ++ " exceeds the maximum of " ++ maximum.text ++
          " for ACCESS EXCLUSIVE operations"))
    else none

/-- What is said of a timeout that is too short for an index operation. -/
def shortfall? (minimum : Duration) : Timeout → Option Violation
  | .disabled => none
  | .limit d =>
    if d.nanoseconds < minimum.nanoseconds then
      some (.new .timeoutPolicy
        ("statement timeout " ++ d.text ++ " is below the minimum of " ++ minimum.text ++
          " for concurrent index operations"))
    else none

variable {timeout : Timeout}

/-- Something is said of a timeout under an exclusive lock unless it is a limit within its bounds. -/
theorem excess?_eq_none_iff {name : TimeoutName} {maximum : Duration} :
    timeout.excess? name maximum = none ↔ timeout.Within maximum := by
  cases timeout <;> simp [excess?, Within]

/-- Something is said of a timeout for an index operation if it is a limit and below its bound. -/
theorem shortfall?_eq_none_iff {minimum : Duration} :
    timeout.shortfall? minimum = none ↔ timeout.Suffices minimum := by
  cases timeout <;> simp [shortfall?, Suffices]

end Timeout

namespace TimeoutPolicy

variable {timeouts : EffectiveTimeouts} {config : TimeoutConfig} {instructions : List Instruction}

theorem underStrictLock_eq (name : TimeoutName) (timeout : Timeout) (maximum : Duration) :
    underStrictLock name timeout maximum = (timeout.excess? name maximum).toList := by
  cases timeout with
  | disabled => rfl
  | limit d => by_cases above : maximum.nanoseconds < d.nanoseconds <;> simp [underStrictLock, Timeout.excess?, above]

theorem evaluate_accessExclusive_eq :
    evaluate .accessExclusive timeouts config =
      (timeouts.lock.excess? .lock config.maxLock).toList ++
        (timeouts.statement.excess? .statement config.maxStatement).toList := by
  rw [evaluate, underStrictLock_eq, underStrictLock_eq]

theorem evaluate_concurrent_eq :
    evaluate .concurrent timeouts config =
      (timeouts.statement.shortfall? config.minConcurrentStatement).toList := by
  cases statement : timeouts.statement with
  | disabled => simp [evaluate, statement, Timeout.shortfall?]
  | limit d =>
    by_cases below : d.nanoseconds < config.minConcurrentStatement.nanoseconds <;>
      simp [evaluate, statement, Timeout.shortfall?, below]

theorem contains_accessExclusive :
    (instructions.map ofInstruction).contains .accessExclusive =
      instructions.any (·.lock? = some .accessExclusive) := by
  rw [Bool.eq_iff_iff]
  simp [← ofInstruction_eq_accessExclusive_iff]

theorem contains_concurrent :
    (instructions.map ofInstruction).contains .concurrent = instructions.any (·.IsIndexOperation) := by
  rw [Bool.eq_iff_iff]
  simp [← Instruction.isConcurrent_iff, ← ofInstruction_eq_concurrent_iff]

/-- However many instructions bring a policy, it is checked once, and the policies are checked in their order. -/
theorem check_eq {set : InstructionSet} :
    check set timeouts config =
      (if set.instructions.any (·.lock? = some .accessExclusive) then evaluate .accessExclusive timeouts config else []) ++
      (if set.instructions.any (·.IsIndexOperation) then evaluate .concurrent timeouts config else []) := by
  rw [check, ofInstructions, all, List.filter_cons, List.filter_cons, List.filter_cons, contains_accessExclusive,
    contains_concurrent]
  split_ifs <;> simp [evaluate]

end TimeoutPolicy

theorem InstructionSet.isolationViolations_eq {set : InstructionSet} :
    set.isolationViolations =
      if 2 ≤ set.instructions.length then
        (set.instructions.filter (·.IsIndexOperation)).map (.crowded set.instructions.length) else [] := by
  have same : set.instructions.filter Instruction.isConcurrent = set.instructions.filter (·.IsIndexOperation) :=
    List.filter_congr fun i _ => by rw [Bool.eq_iff_iff, decide_eq_true_iff, i.isConcurrent_iff]
  rw [isolationViolations, same]
  by_cases short : set.instructions.length < 2
  · rw [if_pos short, if_neg (Nat.not_le.mpr short)]
  · rw [if_neg short, if_pos (Nat.not_lt.mp short)]
    rfl

namespace Migration

variable {migration : Migration} {config : TimeoutConfig} {session : Session} {direction : Direction}

theorem setVerdict_eq (set : InstructionSet) :
    migration.setVerdict config set = .ofList (migration.setViolations config set) := by
  have single : Verdict.mergeAll (set.instructions.map Instruction.verdict) =
      .ofList (set.instructions.flatMap Instruction.violations) := Verdict.mergeAll_ofList ..
  simp only [setVerdict, setViolations, single, InstructionSet.isolationVerdict, TimeoutPolicy.verdict,
    TimeoutPolicy.check, Verdict.mergeAll_ofList, Verdict.merge_ofList, Verdict.inDirection_ofList]

theorem directionVerdict_eq (recorded : Except MigrationError InstructionSet) :
    migration.directionVerdict config direction recorded =
      .ofList (migration.directionViolations config direction recorded) := by
  cases recorded with
  | ok set => exact setVerdict_eq set
  | error e => rfl

/-- The verdict on a migration is told by the violations that are reported of it. -/
theorem verdict_eq : migration.verdict config session =
    (.ofList (migration.validate config session).1, (migration.validate config session).2) := by
  simp only [verdict, validate, Direction.both, List.foldl_cons, List.foldl_nil, directionVerdict_eq,
    Verdict.valid_merge, Verdict.merge_ofList]

/-- A migration is refused by its verdict as it is refused by the violations that are reported of it. -/
theorem require_verdict (name : String) :
    (migration.verdict config session).1.require name = requireSafe name (migration.validate config session).1 := by
  rw [verdict_eq, Verdict.require_ofList]

/-- What there is to say of the timeouts of a direction: at most one thing of each bound. -/
def untimely (migration : Migration) (config : TimeoutConfig) (instructions : List Instruction) : List Violation :=
  let exclusive := instructions.any (·.lock? = some .accessExclusive)
  let lock := migration.lockTimeout.getD (if exclusive then config.defaultLock else .disabled)
  let statement := migration.statementTimeout.getD (if exclusive then config.defaultStatement else .disabled)
  (if exclusive then
    (lock.excess? .lock config.maxLock).toList ++ (statement.excess? .statement config.maxStatement).toList else []) ++
  (if instructions.any (·.IsIndexOperation) then (statement.shortfall? config.minConcurrentStatement).toList else [])

/-- What there is to say of a direction with some instructions. -/
def due (migration : Migration) (config : TimeoutConfig) (direction : Direction) (instructions : List Instruction) :
    List Violation :=
  let crowd :=
    if 2 ≤ instructions.length then
      (instructions.filter (·.IsIndexOperation)).map (.crowded instructions.length) else []
  (instructions.flatMap Instruction.violations ++ crowd ++ migration.untimely config instructions).map
    (.inDirection direction)

variable {set : InstructionSet}

theorem timeouts_eq :
    migration.timeouts config set =
      let exclusive := set.instructions.any (·.lock? = some .accessExclusive)
      ⟨migration.lockTimeout.getD (if exclusive then config.defaultLock else .disabled),
        migration.statementTimeout.getD (if exclusive then config.defaultStatement else .disabled)⟩ := by
  by_cases exclusive : ∃ i ∈ set.instructions, i.lock? = some .accessExclusive
  · simp only [timeouts_of_exclusive exclusive]
    simp [exclusive]
  · simp only [timeouts_of_shared exclusive]
    simp [exclusive]

theorem check_eq_untimely :
    TimeoutPolicy.check set (migration.timeouts config set) config = migration.untimely config set.instructions := by
  simp only [TimeoutPolicy.check_eq, TimeoutPolicy.evaluate_accessExclusive_eq, TimeoutPolicy.evaluate_concurrent_eq,
    timeouts_eq, untimely]

theorem setViolations_eq_due :
    migration.setViolations config set = migration.due config set.direction set.instructions := by
  rw [setViolations, InstructionSet.isolationViolations_eq, check_eq_untimely, due]

/-- What is recorded for a direction is tied to it. -/
theorem direction_of_instructions (recorded : (migration.instructions direction session).1 = .ok set) :
    set.direction = direction :=
  (recorded_of_instructions (Prod.ext recorded rfl)).1

/-- What is reported of a direction that was recorded is all there is to say of its instructions, and nothing else. -/
theorem filter_direction_verdict (recorded : (migration.instructions direction session).1 = .ok set) :
    (migration.verdict config session).1.violations.filter (·.direction = some direction) =
      migration.due config direction set.instructions := by
  rw [verdict_eq, Verdict.violations_ofList, report_of_recorded recorded, setViolations_eq_due,
    direction_of_instructions recorded]

/-- If both directions are recorded, then the verdict on a migration says what there is to say of the one, and after that
what there is to say of the other. It is told by its faults, so that it is no list of none, and they are the violations
that are reported. What it says of a direction is the same for every migration with these timeouts that records the same
in it, whatever is or is not recorded in the other. -/
theorem verdict_says_due (config : TimeoutConfig) (migration : Migration) {session : Session} {up down : InstructionSet}
    (recordedUp : (migration.instructions .up session).1 = .ok up)
    (recordedDown : (migration.instructions .down session).1 = .ok down) :
    let verdict := (migration.verdict config session).1
    verdict.violations =
        migration.due config .up up.instructions ++ migration.due config .down down.instructions ∧
      verdict ≠ .invalid [] ∧
      (migration.validate config session).1 = verdict.violations ∧
      ∀ direction (other : Migration) (otherSession : Session), other.lockTimeout = migration.lockTimeout →
        other.statementTimeout = migration.statementTimeout →
        (other.instructions direction otherSession).1 = (migration.instructions direction session).1 →
          (other.verdict config otherSession).1.violations.filter (·.direction = some direction) =
            verdict.violations.filter (·.direction = some direction) := by
  intro verdict
  have told : verdict = .ofList (migration.validate config session).1 := congrArg Prod.fst verdict_eq
  have reported : (migration.validate config session).1 = verdict.violations := by
    rw [told, Verdict.violations_ofList]
  refine ⟨?_, told ▸ Verdict.ofList_ne_invalid_nil _, reported, ?_⟩
  · rw [← reported, validate_eq, recordedUp, recordedDown, directionViolations, directionViolations,
      setViolations_eq_due, setViolations_eq_due, direction_of_instructions recordedUp,
      direction_of_instructions recordedDown]
  · intro direction other otherSession lock statement same
    -- Both reports say of the direction what is due to its instructions, and that hangs on the timeouts asked for alone.
    obtain ⟨set, recorded⟩ : ∃ set, (migration.instructions direction session).1 = .ok set := by
      cases direction with
      | up => exact ⟨up, recordedUp⟩
      | down => exact ⟨down, recordedDown⟩
    rw [filter_direction_verdict recorded, filter_direction_verdict (same.trans recorded), due, due, untimely, untimely,
      lock, statement]

/-- A direction with faults of all kinds, and one that only has too much time. -/
def manyFaults : Migration :=
  { name := "rebuild_users"
    statementTimeout := some (.ofSeconds 120)
    up := some fun _ => .ok
      [.change "users" (.addColumn "email" .text { nullable := false, unique := true }) [],
       .change "users" (.addIndex ["email"] "by_email" { method := .hash }) [],
       .change "users" .dropTable [],
       .change "users" (.removeIndex {}) []]
    down := some fun _ => .ok [.change "users" (.removeColumn "email") []] }

/-- Each fault is reported once and in its place, and those of the first direction do not hang on the second. -/
theorem verdict_says_due_manyFaults :
    let verdict := (manyFaults.verdict {} {}).1
    let other : Migration := { manyFaults with down := none }
    (∃ up, (manyFaults.instructions .up {}).1 = .ok up) ∧
      (∃ down, (manyFaults.instructions .down {}).1 = .ok down) ∧
      verdict.violations.map Violation.text =
        ["[up] add_column users.email: a NOT NULL column needs a default value",
         "[up] add_column users.email: a new column cannot be UNIQUE; add a unique index in a separate migration",
         "[up] add_index by_email on users: hash indexes are not allowed; use btree",
         "[up] remove_index users: either `name` or `column` is required",
         "[up] add_index by_email on users must be the only instruction in its direction (4 found); " ++
           "move it to its own migration",
         "[up] remove_index users must be the only instruction in its direction (4 found); " ++
           "move it to its own migration",
         "[up] statement timeout 120s exceeds the maximum of 60s for ACCESS EXCLUSIVE operations",
         "[up] statement timeout 120s is below the minimum of 3600s for concurrent index operations",
         "[down] statement timeout 120s exceeds the maximum of 60s for ACCESS EXCLUSIVE operations"] ∧
      (other.verdict {} {}).1.violations.filter (·.direction = some .up) =
        verdict.violations.filter (·.direction = some .up) := by
  intro verdict other
  obtain ⟨up, recordedUp⟩ : ∃ up, (manyFaults.instructions .up {}).1 = .ok up := ⟨_, rfl⟩
  obtain ⟨down, recordedDown⟩ : ∃ down, (manyFaults.instructions .down {}).1 = .ok down := ⟨_, rfl⟩
  obtain ⟨told, -, -, apart⟩ := verdict_says_due {} manyFaults recordedUp recordedDown
  refine ⟨⟨up, recordedUp⟩, ⟨down, recordedDown⟩, ?_, apart .up other {} rfl rfl rfl⟩
  cases recordedUp
  cases recordedDown
  rw [told]
  decide +kernel

end Migration

end SafeMigration
