import SafeMigration.Config
import SafeMigration.Proofs.Failure
import SafeMigration.Proofs.Validation.Report

/-!
Whether the timeouts that settings give by default can be used.

Settings are refused when a default is above its maximum, and a direction is judged by its timeouts when the
migration is. Between the two lies the rule that the defaults stand in under an exclusive lock only. Put together, a
migration that leaves its timeouts to the settings can fail for them in two ways: where a default is switched off, and
where an index operation goes with work under an exclusive lock and the default is too short for the index. The second
is a fault of the direction already, so with both defaults switched on there is no need to give timeouts in a
migration.
-/

namespace SafeMigration

/-- What settings give by default is no limit or one within its bound. -/
structure TimeoutConfig.Bounded (config : TimeoutConfig) : Prop where
  lock : config.defaultLock = .disabled ∨ config.defaultLock.Within config.maxLock
  statement : config.defaultStatement = .disabled ∨ config.defaultStatement.Within config.maxStatement

namespace Config

variable {config : Config} {bytes : ByteArray} {path : String}

theorem checkDefault_eq_ok_iff {name : TimeoutName} {default : Timeout} {maximum : Duration} :
    checkDefault name default maximum = .ok () ↔ default = .disabled ∨ default.Within maximum := by
  cases default <;> simp [checkDefault, Timeout.Within]

/-- Settings that pass the check have a place for everything, and their defaults are bounded. -/
theorem bounded_of_check (passed : config.check = .ok ()) : config.timeouts.Bounded := by
  unfold check at passed
  cases directory : config.outputDirectory.isEmpty with
  | true => simp [directory, bind, Except.bind, throw, throwThe, MonadExceptOf.throw] at passed
  | false =>
    cases lockfile : config.lockfile.isEmpty with
    | true => simp [directory, lockfile, bind, Except.bind, throw, throwThe, MonadExceptOf.throw] at passed
    | false =>
      simp only [directory, lockfile, Bool.false_eq_true, if_false] at passed
      obtain ⟨_, lock, passed⟩ := bind_eq_ok_iff.mp passed
      obtain ⟨_, statement, -⟩ := bind_eq_ok_iff.mp passed
      exact ⟨checkDefault_eq_ok_iff.mp lock, checkDefault_eq_ok_iff.mp statement⟩

/-- Settings that were read have passed their check. -/
theorem check_of_ofBytes (accepted : ofBytes bytes path = .ok config) : config.check = .ok () := by
  obtain ⟨read, -, accepted⟩ := bind_eq_ok_iff.mp accepted
  split at accepted
  next passed =>
    cases accepted
    exact passed
  · cases accepted

theorem bounded_of_ofBytes (accepted : ofBytes bytes path = .ok config) : config.timeouts.Bounded :=
  bounded_of_check (check_of_ofBytes accepted)

end Config

theorem Timeout.suffices_disabled (minimum : Duration) : disabled.Suffices minimum := nofun

theorem Timeout.not_suffices_iff {minimum : Duration} {timeout : Timeout} :
    ¬ timeout.Suffices minimum ↔ ∃ d, timeout = .limit d ∧ d.nanoseconds < minimum.nanoseconds := by
  simp [Suffices]

/-- A default within its bound, if it is a limit, is out of bounds only if it is none. -/
theorem Timeout.within_iff {maximum : Duration} {timeout : Timeout}
    (bounded : timeout = .disabled ∨ timeout.Within maximum) : timeout.Within maximum ↔ timeout ≠ .disabled := by
  constructor
  · rintro ⟨d, rfl, -⟩
    exact nofun
  · intro limited
    exact bounded.resolve_left limited

theorem Violation.kind_inDirection (direction : Direction) (violation : Violation) :
    (violation.inDirection direction).kind = violation.kind := rfl

namespace Migration

variable {migration : Migration} {config : TimeoutConfig} {session : Session} {direction : Direction}
  {set : InstructionSet} {violation : Violation}

/-- What is reported of a direction that was recorded is what is wrong with what it recorded. -/
theorem report_of_recorded (recorded : (migration.instructions direction session).1 = .ok set) :
    (migration.validate config session).1.filter (·.direction = some direction) =
      migration.setViolations config set := by
  have own : ∀ asked, ∀ v ∈ migration.directionViolations config asked (migration.instructions asked session).1,
      v.direction = some asked := fun asked v member =>
    direction_of_mem_directionViolations (fun _ same => (recorded_of_instructions (Prod.ext same rfl)).1) member
  have all : (migration.directionViolations config direction (migration.instructions direction session).1).filter
      (·.direction = some direction) = migration.setViolations config set := by
    rw [List.filter_eq_self.mpr fun v member => decide_eq_true (own direction v member), recorded, directionViolations]
  have none : ∀ asked, asked ≠ direction →
      (migration.directionViolations config asked (migration.instructions asked session).1).filter
        (·.direction = some direction) = [] := by
    intro asked different
    refine List.filter_eq_nil_iff.mpr fun v member => ?_
    simp [own asked v member, different]
  rw [validate_eq, List.filter_append]
  cases direction with
  | up => rw [all, none .down (by decide), List.append_nil]
  | down => rw [all, none .up (by decide), List.nil_append]

/-- Each rule reports violations of a kind of its own. -/
theorem exists_mem_setViolations_iff (kind : ViolationKind) :
    (∃ v ∈ migration.setViolations config set, v.kind = kind) ↔
      (kind = .structural ∧ ∃ i ∈ set.instructions, i.violations ≠ []) ∨
        (kind = .crossInstruction ∧ set.isolationViolations ≠ []) ∨
          (kind = .timeoutPolicy ∧ TimeoutPolicy.check set (migration.timeouts config set) config ≠ []) := by
  simp only [setViolations, List.mem_map, exists_exists_and_eq_and, Violation.kind_inDirection, List.mem_append,
    List.mem_flatMap]
  constructor
  · rintro ⟨v, (⟨i, member, single⟩ | isolated) | checked, rfl⟩
    · exact .inl ⟨Instruction.kind_of_mem_violations single, i, member, List.ne_nil_of_mem single⟩
    · exact .inr (.inl ⟨InstructionSet.kind_of_mem_isolationViolations isolated, List.ne_nil_of_mem isolated⟩)
    · exact .inr (.inr ⟨TimeoutPolicy.kind_of_mem_check checked, List.ne_nil_of_mem checked⟩)
  · rintro (⟨rfl, i, member, wrong⟩ | ⟨rfl, wrong⟩ | ⟨rfl, wrong⟩)
    · obtain ⟨v, single⟩ := List.exists_mem_of_ne_nil _ wrong
      exact ⟨v, .inl (.inl ⟨i, member, single⟩), Instruction.kind_of_mem_violations single⟩
    · obtain ⟨v, isolated⟩ := List.exists_mem_of_ne_nil _ wrong
      exact ⟨v, .inl (.inr isolated), InstructionSet.kind_of_mem_isolationViolations isolated⟩
    · obtain ⟨v, checked⟩ := List.exists_mem_of_ne_nil _ wrong
      exact ⟨v, .inr checked, TimeoutPolicy.kind_of_mem_check checked⟩

theorem exists_timeoutPolicy_iff :
    (∃ v ∈ migration.setViolations config set, v.kind = .timeoutPolicy) ↔
      TimeoutPolicy.check set (migration.timeouts config set) config ≠ [] := by
  simp [exists_mem_setViolations_iff]

theorem exists_crossInstruction_iff :
    (∃ v ∈ migration.setViolations config set, v.kind = .crossInstruction) ↔ set.isolationViolations ≠ [] := by
  simp [exists_mem_setViolations_iff]

/-- What is wrong with the timeouts of a direction when a migration leaves them to settings with bounded defaults. -/
theorem check_ne_nil_iff (bounded : config.Bounded) (lock : migration.lockTimeout = none)
    (statement : migration.statementTimeout = none) :
    TimeoutPolicy.check set (migration.timeouts config set) config ≠ [] ↔
      ((∃ i ∈ set.instructions, i.lock? = some .accessExclusive) ∧
          (config.defaultLock = .disabled ∨ config.defaultStatement = .disabled)) ∨
        ((∃ i ∈ set.instructions, i.lock? = some .accessExclusive) ∧
          (∃ i ∈ set.instructions, i.IsIndexOperation) ∧
            ∃ d, config.defaultStatement = .limit d ∧ d.nanoseconds < config.minConcurrentStatement.nanoseconds) := by
  by_cases exclusive : ∃ i ∈ set.instructions, i.lock? = some .accessExclusive
  · rw [timeouts_of_exclusive exclusive, lock, statement]
    simp only [ne_eq, TimeoutPolicy.check_eq_nil_iff, Option.getD_none, exclusive, true_imp_iff, true_and,
      Timeout.within_iff bounded.lock, Timeout.within_iff bounded.statement, Instruction.isConcurrent_iff,
      ← Timeout.not_suffices_iff, not_and_or, not_not, Classical.not_imp]
  · rw [timeouts_of_shared exclusive, lock, statement]
    simp [TimeoutPolicy.check_eq_nil_iff, Timeout.suffices_disabled, exclusive]

/-- An exclusive lock and an index operation do not go together in a direction whose instructions go together. -/
theorem no_exclusive_of_isolated (isolated : set.isolationViolations = [])
    (index : ∃ i ∈ set.instructions, i.IsIndexOperation) :
    ¬ ∃ i ∈ set.instructions, i.lock? = some .accessExclusive := by
  obtain ⟨i, member, operation⟩ := index
  have concurrent := i.isConcurrent_iff.mpr operation
  exact shared_of_alone (InstructionSet.isolationViolations_eq_nil_iff.mp isolated i member concurrent) concurrent

/-- A migration that leaves its timeouts to settings that were read fails for them in two cases, both under an exclusive
lock: a default is switched off, or there is an index operation too and the default for statements is too short for it.
With both defaults switched on the second is left. It is a fault of the instructions together, so that nothing is
reported of a direction whose instructions are in order. -/
theorem defaults_adequate {bytes : ByteArray} {path : String} {config : Config}
    (accepted : Config.ofBytes bytes path = .ok config) {migration : Migration}
    (lock : migration.lockTimeout = none) (statement : migration.statementTimeout = none) {session : Session}
    {direction : Direction} {set : InstructionSet}
    (recorded : (migration.instructions direction session).1 = .ok set) :
    let report := (migration.validate config.timeouts session).1.filter (·.direction = some direction)
    ((∃ v ∈ report, v.kind = .timeoutPolicy) ↔
        ((∃ i ∈ set.instructions, i.lock? = some .accessExclusive) ∧
            (config.timeouts.defaultLock = .disabled ∨ config.timeouts.defaultStatement = .disabled)) ∨
          ((∃ i ∈ set.instructions, i.lock? = some .accessExclusive) ∧
            (∃ i ∈ set.instructions, i.IsIndexOperation) ∧ ∃ d, config.timeouts.defaultStatement = .limit d ∧
              d.nanoseconds < config.timeouts.minConcurrentStatement.nanoseconds)) ∧
      (config.timeouts.defaultLock ≠ .disabled → config.timeouts.defaultStatement ≠ .disabled →
        (∀ v ∈ report, v.kind ≠ .structural ∧ v.kind ≠ .crossInstruction) → report = []) := by
  intro report
  have same : report = migration.setViolations config.timeouts set := report_of_recorded recorded
  have bounded := Config.bounded_of_ofBytes accepted
  rw [same]
  have policies : (∃ v ∈ migration.setViolations config.timeouts set, v.kind = .timeoutPolicy) ↔ _ :=
    exists_timeoutPolicy_iff.trans (check_ne_nil_iff bounded lock statement)
  refine ⟨policies, fun lockLimited statementLimited inOrder => ?_⟩
  by_contra wrong
  obtain ⟨v, member⟩ := List.exists_mem_of_ne_nil _ wrong
  -- What remains to be reported is about the timeouts, and there is an index operation under an exclusive lock.
  have kind : v.kind = .timeoutPolicy := by
    rcases (exists_mem_setViolations_iff v.kind).mp ⟨v, member, rfl⟩ with ⟨same, -⟩ | ⟨same, -⟩ | ⟨same, -⟩
    · exact absurd same (inOrder v member).1
    · exact absurd same (inOrder v member).2
    · exact same
  rcases policies.mp ⟨v, member, kind⟩ with ⟨-, disabled⟩ | ⟨exclusive, index, -⟩
  · exact disabled.elim lockLimited statementLimited
  · have isolated : set.isolationViolations = [] := by
      by_contra crossed
      obtain ⟨c, crossing, crosses⟩ := exists_crossInstruction_iff.mpr crossed
      exact (inOrder c crossing).2 crosses
    exact no_exclusive_of_isolated isolated index exclusive

/-- Settings whose default for statements is as long as it may be. -/
def shortStatements : Config :=
  { timeouts := { defaultStatement := .ofSeconds 45, maxStatement := .ofSeconds 45 } }

/-- A column that gets an index in the direction that adds it. -/
def indexedColumn : Migration :=
  { name := "add_email_to_users"
    up := some fun _ => .ok
      [.change "users" (.addColumn "email" .text {}) [],
       .change "users" (.addIndex ["email"] "index_users_on_email" {}) []]
    down := some fun _ => .ok [.change "users" (.removeColumn "email") []] }

/-- The direction with the index fails for its timeouts, and nothing is reported of the other. -/
theorem defaults_adequate_indexedColumn :
    let text := "timeouts:\n  default_statement_timeout: 45\n  max_statement_timeout: 45\n"
    let report := fun direction =>
      (indexedColumn.validate shortStatements.timeouts {}).1.filter (·.direction = some direction)
    Config.ofBytes text.toUTF8 "oxide-guard.yml" = .ok shortStatements ∧
      indexedColumn.lockTimeout = none ∧ indexedColumn.statementTimeout = none ∧
      (∃ up, (indexedColumn.instructions .up {}).1 = .ok up) ∧
      (∃ down, (indexedColumn.instructions .down {}).1 = .ok down) ∧
      (∃ v ∈ report .up, v.kind = .timeoutPolicy) ∧ report .down = [] := by
  intro text report
  have accepted : Config.ofBytes text.toUTF8 "oxide-guard.yml" = .ok shortStatements := by decide +kernel
  have lock : indexedColumn.lockTimeout = none := rfl
  have statement : indexedColumn.statementTimeout = none := rfl
  obtain ⟨up, recordedUp⟩ : ∃ up, (indexedColumn.instructions .up {}).1 = .ok up := ⟨_, rfl⟩
  obtain ⟨down, recordedDown⟩ : ∃ down, (indexedColumn.instructions .down {}).1 = .ok down := ⟨_, rfl⟩
  obtain ⟨policies, -⟩ := defaults_adequate accepted lock statement recordedUp
  obtain ⟨-, inOrder⟩ := defaults_adequate accepted lock statement recordedDown
  cases recordedUp
  refine ⟨accepted, lock, statement, ⟨_, rfl⟩, ⟨_, recordedDown⟩,
    policies.mpr (.inr ⟨⟨_, .head _, by decide⟩, ?_, ?_⟩), ?_⟩
  · exact ⟨_, .tail _ (.head _), .inl (by decide)⟩
  · exact ⟨.ofSeconds 45, by decide, by decide⟩
  · exact inOrder (by decide) (by decide) (by decide +kernel)

end Migration

end SafeMigration
