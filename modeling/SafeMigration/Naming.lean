import SafeMigration.Digest.Basic

/-!
Names derived for indexes and constraints that are given none.

The same table and columns always give the same name, so that a later migration can name what an earlier one made.
-/

namespace SafeMigration.Naming

/-- The name of an index on columns of a table. -/
def index (table : String) (columns : List String) : String :=
  "index_" ++ table ++ "_on_" ++ String.intercalate "_and_" columns

/-- The letters counted as vowels. -/
def vowels : List Char := ['a', 'e', 'i', 'o', 'u']

/-- The stem of a word in `-ies` whose `-ies` stands for a `-y` after a consonant. -/
def stemOfIes? (word : List Char) : Option (List Char) :=
  (Text.stripEnding? ['i', 'e', 's'] word).filter fun stem =>
    match stem.getLast? with
    | some c => !vowels.contains c
    | none => false

/-- The endings before which a plural is made by `-es`. -/
def hissing : List (List Char) :=
  [['s', 's', 'e', 's'], ['s', 'h', 'e', 's'], ['c', 'h', 'e', 's'], ['x', 'e', 's']]

/-- The singular of a regular plural; other words stay as they are. -/
def singularChars (word : List Char) : List Char :=
  match stemOfIes? word with
  | some stem => stem ++ ['y']
  | none =>
    if hissing.any fun ending => ending.isSuffixOf word then word.take (word.length - 2)
    else if ['s', 's'].isSuffixOf word then word
    else (Text.stripEnding? ['s'] word).getD word

/-- The singular of a regular plural. -/
def singular (word : String) : String := String.ofList (singularChars word.toList)

/-- The column that refers to a table. -/
def foreignKeyColumn (table : String) : String := singular table ++ "_id"

/-- The name of a foreign key from one table to another. -/
def foreignKey (table target : String) : String := "fk_" ++ table ++ "_" ++ target

/-- The name of a check constraint, by the digest of its expression. -/
def checkConstraint (table expression : String) : String :=
  "chk_" ++ table ++ "_" ++ (Digest.ofText expression).short 10

end SafeMigration.Naming
