import SafeMigration.Text.Order
import SafeMigration.Reading

/-!
Values of the data format JSON.

Whole numbers between `-2 ^ 63` and `2 ^ 64 - 1` are integers, all other numbers are floating point numbers.
The fields of an object that was read are in the order of their keys.
-/

namespace SafeMigration

/-- A value of the data format JSON. -/
inductive Json where
  | null
  | bool (value : Bool)
  | int (value : Int)
  | float (value : Binary64)
  | string (value : String)
  | array (items : List Json)
  | object (fields : List (String × Json))
  deriving Inhabited

/-- Named values: the fields of an object, and the arguments of an operation. -/
abbrev Fields := Entries Json

namespace Json

/-- The words for values in messages about this format. -/
def vocabulary : Vocabulary := ⟨"JSON", "null", .scientific⟩

/-- The shape of a value. -/
def found : Json → Found
  | null => .null
  | bool b => .bool b
  | int n => .integer n
  | float x => .float x
  | string s => .string s
  | array _ => .sequence
  | object _ => .map

/-- Reports a value that is not of the expected type. -/
def mismatch {α : Type} (json : Json) (expected : String) : Except Mismatch α :=
  .error (.wrongType json.found expected)

/-- Reads a string. -/
def asString : Json → Except Mismatch String
  | string s => .ok s
  | json => json.mismatch "a string"

/-- Reads a truth value. -/
def asBool : Json → Except Mismatch Bool
  | bool b => .ok b
  | json => json.mismatch "a boolean"

/-- Reads a sequence, element by element. -/
def asList {α : Type} (element : Json → Except Mismatch α) : Json → Except Mismatch (List α)
  | array items => items.mapM element
  | json => json.mismatch "a sequence"

/-- Reads a value that may be absent; the null value stands for absence. -/
def asOption {α : Type} (some? : Json → Except Mismatch α) : Json → Except Mismatch (Option α)
  | null => .ok none
  | json => (some? json).map some

/-- Reads one of several named alternatives: its name, or an object whose only key is the name and whose
value is null. The name is looked at before the value. -/
def asChoice {α : Type} (choices : List (String × α)) : Json → Except Mismatch α
  | string name => choose name
  | object [(name, value)] =>
    match choose name with
    | .error e => .error e
    | .ok choice =>
      match value with
      | null => .ok choice
      | other => other.mismatch "unit"
  | object _ => .error (.wrongValue .map "map with a single key")
  | json => json.mismatch "string or map"
where
  /-- Looks a name up among the choices. -/
  choose (name : String) : Except Mismatch α :=
    match choices.lookup name with
    | some choice => .ok choice
    | none => .error (.unknownVariant name (choices.map (·.1)))

/-- The text of a string value, if it is one. -/
def string? : Json → Option String
  | string s => some s
  | _ => none

end Json

end SafeMigration
