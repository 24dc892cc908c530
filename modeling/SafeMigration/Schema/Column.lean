import SafeMigration.Json.Shape
import SafeMigration.Schema.ColumnType
import SafeMigration.Schema.DefaultValue

/-!
Columns of a new table, the ways an index is organised, and what a foreign key does when the row it refers to goes.
-/

namespace SafeMigration

/-- A column of a new table. -/
structure Column where
  name : String
  type : ColumnType
  nullable : Bool
  default : Option DefaultValue
  primaryKey : Bool
  deriving DecidableEq, Repr

namespace Column

/-- A nullable column without default. -/
def plain (name : String) (type : ColumnType) : Column := ⟨name, type, true, none, false⟩

/-- The same column, refusing nulls. -/
def notNull (column : Column) : Column := { column with nullable := false }

/-- The same column with a default. -/
def withDefault (column : Column) (value : DefaultValue) : Column :=
  { column with default := some value }

/-- The same column as primary key, which refuses nulls. -/
def asPrimaryKey (column : Column) : Column := { column with primaryKey := true, nullable := false }

/-- The fields of a column in a document. -/
def shape : Json.Shape Column :=
  .mk <$> .required "name" Json.asString <*> .required "type" ColumnType.ofJson
    <*> .optional "null" Json.asBool true <*> .maybe "default" DefaultValue.ofJson
    <*> .optional "primary_key" Json.asBool false

/-- Reads a column from a document. -/
def ofJson (value : Json) : Except Mismatch Column := shape.ofJson "struct ColumnDefinition" value

end Column

/-- How an index is organised. -/
inductive IndexMethod where
  | btree
  | hash
  | gin
  | gist
  | brin
  | spgist
  deriving DecidableEq, Repr

namespace IndexMethod

/-- The name of a method, in SQL and in documents. -/
def name : IndexMethod → String
  | btree => "btree"
  | hash => "hash"
  | gin => "gin"
  | gist => "gist"
  | brin => "brin"
  | spgist => "spgist"

/-- Every method. -/
def all : List IndexMethod := [btree, hash, gin, gist, brin, spgist]

/-- Reads a method from a document. -/
def ofJson (value : Json) : Except Mismatch IndexMethod :=
  value.asChoice (all.map fun method => (method.name, method))

end IndexMethod

/-- What happens to rows that refer to a row that is deleted or changes its key. -/
inductive ReferentialAction where
  | noAction
  | restrict
  | cascade
  | setNull
  | setDefault
  deriving DecidableEq, Repr

namespace ReferentialAction

/-- An action in SQL. -/
def sql : ReferentialAction → String
  | noAction => "NO ACTION"
  | restrict => "RESTRICT"
  | cascade => "CASCADE"
  | setNull => "SET NULL"
  | setDefault => "SET DEFAULT"

/-- The name of an action in documents. -/
def name : ReferentialAction → String
  | noAction => "no_action"
  | restrict => "restrict"
  | cascade => "cascade"
  | setNull => "set_null"
  | setDefault => "set_default"

/-- Every action. -/
def all : List ReferentialAction := [noAction, restrict, cascade, setNull, setDefault]

/-- Reads an action from a document. -/
def ofJson (value : Json) : Except Mismatch ReferentialAction :=
  value.asChoice (all.map fun action => (action.name, action))

end ReferentialAction

end SafeMigration
