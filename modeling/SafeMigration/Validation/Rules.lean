import SafeMigration.InstructionSet

/-!
Rules about instructions: those that one instruction has to meet by itself, and the rule that a concurrent index
operation stands alone in its direction.
-/

namespace SafeMigration

/-- A violation by one instruction of its own rules. -/
def Violation.structural (instruction : Instruction) (text : String) : Violation :=
  .new .structural (instruction.description ++ ": " ++ text)

/-- What a change is reproached with, when a condition holds. -/
def Change.faults : Change → List String
  | .addColumn _ _ options =>
    (if !options.nullable && options.default.isNone then
      ["a NOT NULL column needs a default value"] else []) ++
    (if options.unique then
      ["a new column cannot be UNIQUE; add a unique index in a separate migration"] else [])
  | .addReference _ options =>
    (if options.index then
      ["`index: true` is not allowed; add the index in a separate migration"] else []) ++
    (if options.foreignKey then
      ["`foreign_key: true` is not allowed; add the foreign key in a separate migration"] else [])
  | .addIndex _ _ options =>
    if options.method = .hash then ["hash indexes are not allowed; use btree"] else []
  | .removeIndex choice =>
    if choice.name.isNone && choice.columns.isNone then
      ["either `name` or `column` is required"] else []
  | .createTable columns => if columns.isEmpty then ["at least one column is required"] else []
  | _ => []

/-- The violations of one instruction by itself. -/
def Instruction.violations (instruction : Instruction) : List Violation :=
  match instruction with
  | .change _ c _ => c.faults.map (Violation.structural instruction)
  | .custom _ => []

/-- The violations of the rule that a concurrent index operation is the only instruction of its direction. -/
def InstructionSet.isolationViolations (set : InstructionSet) : List Violation :=
  if set.instructions.length < 2 then []
  else
    (set.instructions.filter Instruction.isConcurrent).map fun instruction =>
      .new .crossInstruction
        (instruction.description ++ " must be the only instruction in its direction (" ++
          toString set.instructions.length ++ " found); move it to its own migration")

end SafeMigration
