import SafeMigration.Text.Chars
import SafeMigration.Json.Value

/-!
Default values of columns and their text in SQL.
-/

namespace SafeMigration

/-- The value a column has when none is given. -/
inductive DefaultValue where
  | bool (value : Bool)
  | integer (value : Int)
  | float (value : Binary64)
  | string (value : String)
  /-- An expression of SQL, evaluated by the database. -/
  | expression (sql : String)
  deriving DecidableEq, Repr

namespace DefaultValue

/-- Whether an integer fits 64 bits with a sign. -/
def fits (n : Int) : Bool := decide (-Int.ofNat (Nat.pow 2 63) ≤ n ∧ n < Int.ofNat (Nat.pow 2 63))

/-- Reads a default from a document. An integer that does not fit is read as a floating point number. -/
def ofJson : Json → Except Mismatch DefaultValue
  | .bool b => .ok (.bool b)
  | .int n => .ok (if fits n then .integer n else .float (.ofInt n))
  | .float x => .ok (.float x)
  | .string s => .ok (.string s)
  | .object fields =>
    match Entries.get? fields "sql" with
    | some (.string sql) => .ok (.expression sql)
    | _ => .error (.noAlternative "DefaultValue")
  | _ => .error (.noAlternative "DefaultValue")

/-- A default as it is written in SQL. A string stands in single quotes. -/
def sql : DefaultValue → String
  | bool true => "TRUE"
  | bool false => "FALSE"
  | integer n => toString n
  | float x => FloatLayout.plain.text x
  | string s => Text.enclose '\'' s
  | expression sql => sql

/-- The kind of a default, in one word. -/
def kind : DefaultValue → String
  | bool _ => "bool"
  | integer _ => "integer"
  | float _ => "float"
  | string _ => "string"
  | expression _ => "expression"

end DefaultValue

end SafeMigration
