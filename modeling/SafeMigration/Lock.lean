import SafeMigration.Json.Value

/-!
How much a schema change locks a table.
-/

namespace SafeMigration

/-- The lock that a schema change takes, in order of strictness. -/
inductive LockWeight where
  /-- Reads and writes go on. -/
  | share
  /-- Nothing else touches the table. -/
  | accessExclusive
  deriving DecidableEq, Repr

namespace LockWeight

/-- The name of a lock mode in PostgreSQL. -/
def postgresName : LockWeight → String
  | share => "SHARE"
  | accessExclusive => "ACCESS EXCLUSIVE"

/-- The name of a lock in documents. -/
def name : LockWeight → String
  | share => "share"
  | accessExclusive => "access_exclusive"

/-- Every lock, from least to most strict. -/
def all : List LockWeight := [share, accessExclusive]

/-- The stricter of two locks. -/
def stricter : LockWeight → LockWeight → LockWeight
  | share, other => other
  | accessExclusive, _ => accessExclusive

/-- The strictest of some locks; of none it is the least strict. -/
def strictest (weights : List LockWeight) : LockWeight := weights.foldr stricter share

/-- Reads a lock from a document. -/
def ofJson (value : Json) : Except Mismatch LockWeight :=
  value.asChoice (all.map fun weight => (weight.name, weight))

end LockWeight

end SafeMigration
