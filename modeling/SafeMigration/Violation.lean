import SafeMigration.Direction

/-!
What is wrong with a migration, in words for its author.

A migration is safe when the list of its violations is empty. Lists of violations are joined in the order in which
the rules are checked, and nothing is left out.
-/

namespace SafeMigration

/-- The rule that a violation breaks. -/
inductive ViolationKind where
  /-- A direction has no procedure. -/
  | unimplemented
  | unknownOperation
  | invalidArgument
  /-- A procedure failed for another reason. -/
  | procedure
  /-- One instruction breaks a rule of its own. -/
  | structural
  /-- Instructions of one direction do not go together. -/
  | crossInstruction
  | timeoutPolicy
  deriving DecidableEq, Repr

/-- One thing that is wrong with a migration. -/
structure Violation where
  kind : ViolationKind
  /-- The direction it was found in, once that is settled. -/
  direction : Option Direction
  message : String
  deriving DecidableEq, Repr

namespace Violation

/-- A violation not yet tied to a direction. -/
def new (kind : ViolationKind) (message : String) : Violation := ⟨kind, none, message⟩

/-- The same violation in a direction. -/
def inDirection (direction : Direction) (violation : Violation) : Violation :=
  { violation with direction := some direction }

/-- The text of a violation, after its direction. -/
def text (violation : Violation) : String :=
  match violation.direction with
  | some direction => "[" ++ direction.name ++ "] " ++ violation.message
  | none => violation.message

end Violation

/-- The text of several violations, one in a line. -/
def reportText (violations : List Violation) : String :=
  String.intercalate "\n" (violations.map fun violation => "  - " ++ violation.text)

end SafeMigration
