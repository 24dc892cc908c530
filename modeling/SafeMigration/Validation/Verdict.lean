import SafeMigration.Validation.Validator

/-!
Verdicts, and how they are put together.

Each rule comes to a verdict of its own. The verdicts of the single instructions are merged first, then that on the
direction as a whole and that on its timeouts are added, and the verdicts on both directions make the one on the
migration.
-/

namespace SafeMigration

/-- What a rule comes to. -/
inductive Verdict where
  /-- Nothing is wrong. -/
  | valid
  /-- Something is wrong. No rule comes to this without saying what. -/
  | invalid (violations : List Violation)
  deriving DecidableEq, Repr

namespace Verdict

/-- The verdict on what has a single fault. -/
def failure (violation : Violation) : Verdict := invalid [violation]

/-- The verdict on what has some faults, or none. -/
def ofList : List Violation → Verdict
  | [] => valid
  | violations => invalid violations

/-- What is wrong by a verdict. -/
def violations : Verdict → List Violation
  | valid => []
  | invalid violations => violations

/-- Whether nothing is wrong. -/
def isValid : Verdict → Bool
  | valid => true
  | invalid _ => false

/-- Both verdicts together, with the faults of the first before those of the second. -/
def merge : Verdict → Verdict → Verdict
  | valid, other => other
  | verdict, valid => verdict
  | invalid first, invalid second => invalid (first ++ second)

/-- Some verdicts together, in their order. -/
def mergeAll (verdicts : List Verdict) : Verdict := verdicts.foldl merge valid

/-- The same verdict, with its faults tied to a direction. -/
def inDirection (direction : Direction) : Verdict → Verdict
  | valid => valid
  | invalid violations => invalid (violations.map (Violation.inDirection direction))

/-- Fails for a migration on which the verdict is that something is wrong. -/
def require (migration : String) : Verdict → Except MigrationError Unit
  | valid => .ok ()
  | invalid violations => .error (.rejected migration violations)

end Verdict

/-- The verdict on one instruction by itself. -/
def Instruction.verdict (instruction : Instruction) : Verdict := .ofList instruction.violations

/-- The verdict on the instructions of a direction together. -/
def InstructionSet.isolationVerdict (set : InstructionSet) : Verdict := .ofList set.isolationViolations

/-- The verdict on the timeouts of a direction: each of its policies is asked once. -/
def TimeoutPolicy.verdict (set : InstructionSet) (timeouts : EffectiveTimeouts) (config : TimeoutConfig) : Verdict :=
  .mergeAll ((ofInstructions set.instructions).map fun policy => .ofList (policy.evaluate timeouts config))

namespace Migration

/-- The verdict on a recorded direction. -/
def setVerdict (migration : Migration) (config : TimeoutConfig) (set : InstructionSet) : Verdict :=
  let single := Verdict.mergeAll (set.instructions.map Instruction.verdict)
  let together := single.merge set.isolationVerdict
  (together.merge (TimeoutPolicy.verdict set (migration.timeouts config set) config)).inDirection set.direction

/-- The verdict on a direction, recorded or not. -/
def directionVerdict (migration : Migration) (config : TimeoutConfig) (direction : Direction)
    (recorded : Except MigrationError InstructionSet) : Verdict :=
  match recorded with
  | .ok set => migration.setVerdict config set
  | .error e => .failure ((Violation.ofError e).inDirection direction)

/-- The verdict on a migration: its directions are asked for one after the other. -/
def verdict (migration : Migration) (config : TimeoutConfig) (session : Session) : Verdict × Session :=
  Direction.both.foldl (fun (verdict, session) direction =>
    let (recorded, session) := migration.instructions direction session
    (verdict.merge (migration.directionVerdict config direction recorded), session)) (.valid, session)

end Migration

end SafeMigration
