import SafeMigration.Text.Blank
import SafeMigration.Text.Chars
import SafeMigration.Json.Value

/-!
Column types: reading a type name, its short name, and its name in PostgreSQL.

A name is compared without regard to the case of ASCII letters. Parameters stand in parentheses after it. A name that
is not known is carried along as it was written.
-/

namespace SafeMigration

/-- The data type of a column. -/
inductive ColumnType where
  | varchar (length : Option UInt32)
  | text
  | smallint
  | integer
  | bigint
  | boolean
  | date
  | time
  | timestamp
  | timestamptz
  | decimal (precision scale : Option UInt8)
  | real
  | double
  | json
  | jsonb
  | uuid
  | binary
  /-- A name carried along unchanged. -/
  | custom (name : String)
  deriving DecidableEq, Repr

/-- Why a text names no type. -/
inductive TypeNameFault where
  | empty
  /-- A parameter that is not a number of 32 bits. -/
  | parameter (parameter written : String)
  /-- A precision or scale above 255. -/
  | precision (written : String)
  deriving DecidableEq, Repr

namespace TypeNameFault

/-- The text of a fault. -/
def message : TypeNameFault → String
  | empty => "column type must not be empty"
  | parameter p written => "invalid type parameter '" ++ p ++ "' in '" ++ written ++ "'"
  | precision written => "precision out of range in '" ++ written ++ "'"

end TypeNameFault

namespace ColumnType

/-- The short name of a type, as it is written in sources. -/
def shortName : ColumnType → String
  | varchar (some n) => "string(" ++ toString n.toNat ++ ")"
  | varchar none => "string"
  | text => "text"
  | smallint => "smallint"
  | integer => "integer"
  | bigint => "bigint"
  | boolean => "boolean"
  | date => "date"
  | time => "time"
  | timestamp => "timestamp"
  | timestamptz => "timestamptz"
  | decimal (some p) (some s) => "decimal(" ++ toString p.toNat ++ ", " ++ toString s.toNat ++ ")"
  | decimal (some p) none => "decimal(" ++ toString p.toNat ++ ")"
  | decimal none _ => "decimal"
  | real => "float"
  | double => "double"
  | json => "json"
  | jsonb => "jsonb"
  | uuid => "uuid"
  | binary => "binary"
  | custom name => name

/-- The name of a type in PostgreSQL. -/
def postgresName : ColumnType → String
  | varchar (some n) => "VARCHAR(" ++ toString n.toNat ++ ")"
  | varchar none => "VARCHAR"
  | text => "TEXT"
  | smallint => "SMALLINT"
  | integer => "INTEGER"
  | bigint => "BIGINT"
  | boolean => "BOOLEAN"
  | date => "DATE"
  | time => "TIME"
  | timestamp => "TIMESTAMP"
  | timestamptz => "TIMESTAMPTZ"
  | decimal (some p) (some s) => "DECIMAL(" ++ toString p.toNat ++ ", " ++ toString s.toNat ++ ")"
  | decimal (some p) none => "DECIMAL(" ++ toString p.toNat ++ ")"
  | decimal none _ => "DECIMAL"
  | real => "REAL"
  | double => "DOUBLE PRECISION"
  | json => "JSON"
  | jsonb => "JSONB"
  | uuid => "UUID"
  | binary => "BYTEA"
  | custom name => name

/-- The types whose names take no parameters, under each of their names. -/
def plainNames : List (String × ColumnType) :=
  [("text", text), ("smallint", smallint), ("integer", integer), ("int", integer), ("bigint", bigint),
   ("boolean", boolean), ("bool", boolean), ("date", date), ("time", time), ("datetime", timestamp),
   ("timestamp", timestamp), ("timestamptz", timestamptz), ("float", real), ("real", real),
   ("double", double), ("json", json), ("jsonb", jsonb), ("uuid", uuid), ("binary", binary),
   ("bytea", binary)]

/-- Cuts a list at every comma. -/
def splitCommas : List Char → List (List Char)
  | [] => [[]]
  | c :: cs =>
    match splitCommas cs with
    | [] => [[c]]
    | piece :: pieces => if c == ',' then [] :: piece :: pieces else (c :: piece) :: pieces

/-- Takes `name(a, b)` apart into the name and the parameters that are not blank. Without an opening parenthesis,
or without a closing one at the end, all is name. -/
def splitParameters (cs : List Char) : List Char × List (List Char) :=
  match Text.stripEnding? [')'] cs with
  | some inner =>
    if cs.contains '(' then
      (Text.trimChars (cs.takeWhile (· != '(')),
        ((splitCommas ((inner.dropWhile (· != '(')).drop 1)).map Text.trimChars).filter (!·.isEmpty))
    else (cs, [])
  | none => (cs, [])

/-- A numeric parameter at a position, if it is there. -/
def parameterAt (parameters : List (List Char)) (position : Nat) (written : String) :
    Except TypeNameFault (Option UInt32) :=
  match parameters[position]? with
  | none => .ok none
  | some p =>
    match Text.readBounded? (Nat.pow 2 32 - 1) p with
    | some n => .ok (some (UInt32.ofNat n))
    | none => .error (.parameter (String.ofList p) written)

/-- A parameter as a precision or a scale. -/
def narrow (parameter : Option UInt32) (written : String) : Except TypeNameFault (Option UInt8) :=
  match parameter with
  | none => .ok none
  | some n => if n.toNat ≤ 255 then .ok (some (UInt8.ofNat n.toNat)) else .error (.precision written)

/-- Reads the name of a type. -/
def read (s : String) : Except TypeNameFault ColumnType :=
  let trimmed := Text.trimChars s.toList
  let written := String.ofList trimmed
  if trimmed.isEmpty then .error .empty
  else
    let (nameChars, parameters) := splitParameters (trimmed.map Text.lowerAscii)
    let name := String.ofList nameChars
    if name = "string" ∨ name = "varchar" then
      (parameterAt parameters 0 written).map varchar
    else if name = "decimal" ∨ name = "numeric" then do
      let precision ← narrow (← parameterAt parameters 0 written) written
      let scale ← narrow (← parameterAt parameters 1 written) written
      return decimal precision scale
    else
      match plainNames.lookup name with
      | some type => .ok type
      | none => .ok (custom written)

/-- The type of a name given by a program: a name that cannot be read is carried along unchanged. -/
def ofName (s : String) : ColumnType :=
  match read s with
  | .ok type => type
  | .error _ => custom s

/-- Whether a type is carried along by its name. -/
def isCustom : ColumnType → Bool
  | custom _ => true
  | _ => false

/-- Reads a type from a document. -/
def ofJson (value : Json) : Except Mismatch ColumnType := do
  match read (← value.asString) with
  | .ok type => .ok type
  | .error fault => .error (.rule fault.message)

end ColumnType

end SafeMigration
