import SafeMigration.Migration
import SafeMigration.Timeout.Policy
import SafeMigration.Validation.Rules

/-!
Judging a migration: all violations of both directions, or the validated migration.

The rules on single instructions come first, then the rule on the direction as a whole, then the timeouts. No
violation keeps another from being reported.
-/

namespace SafeMigration

/-- A violation that stands for a direction that could not be recorded. -/
def Violation.ofError (error : MigrationError) : Violation :=
  let kind := match error with
    | .notImplemented .. => .unimplemented
    | .unknownOperation _ => .unknownOperation
    | .invalidArgument .. => .invalidArgument
    | _ => .procedure
  .new kind error.message

namespace Migration

/-- The timeouts that the instructions of a direction run with. -/
def timeouts (migration : Migration) (config : TimeoutConfig) (set : InstructionSet) :
    EffectiveTimeouts :=
  .resolve migration.lockTimeout migration.statementTimeout set.strictestLock config

/-- The violations of a recorded direction. -/
def setViolations (migration : Migration) (config : TimeoutConfig) (set : InstructionSet) :
    List Violation :=
  (set.instructions.flatMap Instruction.violations ++ set.isolationViolations ++
    TimeoutPolicy.check set (migration.timeouts config set) config).map
      (Violation.inDirection set.direction)

/-- The violations of a direction, recorded or not. -/
def directionViolations (migration : Migration) (config : TimeoutConfig) (direction : Direction)
    (recorded : Except MigrationError InstructionSet) : List Violation :=
  match recorded with
  | .ok set => migration.setViolations config set
  | .error e => [(Violation.ofError e).inDirection direction]

/-- The violations of both directions. -/
def validate (migration : Migration) (config : TimeoutConfig) (session : Session) :
    List Violation × Session :=
  let (up, session) := migration.instructions .up session
  let (down, session) := migration.instructions .down session
  (migration.directionViolations config .up up ++ migration.directionViolations config .down down,
    session)

end Migration

/-- Fails for a migration with violations. -/
def requireSafe (migration : String) (violations : List Violation) : Except MigrationError Unit :=
  if violations.isEmpty then .ok () else .error (.rejected migration violations)

/-- A migration without violations, ready to be written out. -/
structure ValidatedMigration where
  name : String
  up : InstructionSet
  down : InstructionSet
  upTimeouts : EffectiveTimeouts
  downTimeouts : EffectiveTimeouts

namespace ValidatedMigration

/-- The instructions of a direction. -/
def instructions (migration : ValidatedMigration) : Direction → InstructionSet
  | .up => migration.up
  | .down => migration.down

/-- The timeouts of a direction. -/
def timeouts (migration : ValidatedMigration) : Direction → EffectiveTimeouts
  | .up => migration.upTimeouts
  | .down => migration.downTimeouts

/-- What the migration needs from whoever runs it. -/
def capabilities (migration : ValidatedMigration) : List Capability :=
  Capability.ofSets [migration.up, migration.down]

/-- Whether a direction can run inside a transaction. -/
def isTransactional (migration : ValidatedMigration) (direction : Direction) : Bool :=
  !(migration.instructions direction).hasConcurrent

end ValidatedMigration

namespace Migration

/-- The migration with its instructions and timeouts, if nothing is wrong with it. -/
def validated (migration : Migration) (config : TimeoutConfig) (session : Session) :
    Except MigrationError ValidatedMigration × Session :=
  let (violations, session) := migration.validate config session
  match requireSafe migration.name violations with
  | .error e => (.error e, session)
  | .ok () =>
    match migration.instructions .up session with
    | (.error e, session) => (.error e, session)
    | (.ok up, session) =>
      match migration.instructions .down session with
      | (.error e, session) => (.error e, session)
      | (.ok down, session) =>
        (.ok
          { name := migration.name
            up := up
            down := down
            upTimeouts := migration.timeouts config up
            downTimeouts := migration.timeouts config down }, session)

end Migration

end SafeMigration
