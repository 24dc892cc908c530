/-!
The two directions of a migration.
-/

namespace SafeMigration

/-- One half of a migration: making the change, or taking it back. -/
inductive Direction where
  | up
  | down
  deriving DecidableEq, Repr

namespace Direction

/-- The name of a direction. -/
def name : Direction → String
  | up => "up"
  | down => "down"

/-- Both directions, in the order in which they are treated. -/
def both : List Direction := [up, down]

end Direction

end SafeMigration
