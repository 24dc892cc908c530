import SafeMigration.Instruction.Basic

/-!
The instructions of one direction, in the order in which they were recorded.
-/

namespace SafeMigration

/-- What one direction of a migration does. -/
structure InstructionSet where
  direction : Direction
  instructions : List Instruction

namespace InstructionSet

/-- The strictest lock that an instruction takes. Instructions that are not classified do not count. -/
def strictestLock (set : InstructionSet) : LockWeight :=
  LockWeight.strictest (set.instructions.filterMap Instruction.lock?)

/-- Whether some instruction builds or drops an index while the table stays in use. -/
def hasConcurrent (set : InstructionSet) : Bool := set.instructions.any Instruction.isConcurrent

end InstructionSet

/-- What a compiled migration needs from whoever runs it. -/
inductive Capability where
  /-- A direction cannot run inside a transaction. -/
  | nonTransactional
  | customOperation (name : String)
  deriving DecidableEq, Repr

namespace Capability

/-- The text of a capability. -/
def text : Capability → String
  | nonTransactional => "non-transactional"
  | customOperation name => "custom operation '" ++ name ++ "'"

/-- The names of the custom operations among some instructions, sorted and each once. -/
def customNames (instructions : List Instruction) : List String :=
  (Entries.ofPairs (instructions.filterMap fun
    | .custom c => some (c.name, ())
    | .change .. => none)).keys

/-- What some directions need together: first whether they need to run outside a transaction, then the custom
operations by name. -/
def ofSets (sets : List InstructionSet) : List Capability :=
  (if sets.any InstructionSet.hasConcurrent then [nonTransactional] else []) ++
    (customNames (sets.flatMap InstructionSet.instructions)).map customOperation

end Capability

end SafeMigration
