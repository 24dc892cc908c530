import SafeMigration.Decimal.Shortest
import SafeMigration.Text.Chars
import SafeMigration.Text.Hidden

/-!
What can be wrong with a value that was read from a document, and how it is reported.

A document has more shapes than the domain has types. When a value does not have the shape that is
asked for, the `Mismatch` says what was found and what was expected.
-/

namespace SafeMigration

/-- The shape of a value found in a document. -/
inductive Found where
  | null
  | bool (value : Bool)
  | integer (value : Int)
  | float (value : Binary64)
  | string (value : String)
  | sequence
  | map
  deriving DecidableEq, Repr

/-- Why a value cannot be read as what is asked for. -/
inductive Mismatch where
  /-- Another type of value. -/
  | wrongType (found : Found) (expected : String)
  /-- The right type with a value that cannot stand here. -/
  | wrongValue (found : Found) (expected : String)
  /-- A sequence with too few or too many elements. -/
  | wrongLength (count : Nat) (expected : String)
  | missingField (name : String)
  | unknownField (name : String) (known : List String)
  | duplicateField (name : String)
  | unknownVariant (name : String) (known : List String)
  /-- None of the alternatives of a type fits. -/
  | noAlternative (type : String)
  /-- A tagged value where a plain one is needed. -/
  | tagged
  /-- A rule of the domain, in its own words. -/
  | rule (text : String)
  deriving DecidableEq, Repr

/-- The words in which a document format speaks of its values. -/
structure Vocabulary where
  /-- The name of the format. -/
  format : String
  /-- The name of the value that stands for nothing. -/
  null : String
  /-- How floating point numbers are written. -/
  float : FloatLayout

namespace Found

/-- A character in a quoted text: some have an escape of their own, and what cannot be seen is written by its number. -/
def escape (c : Char) : List Char :=
  if c == '"' then ['\\', '"']
  else if c == '\\' then ['\\', '\\']
  else if c == '\n' then ['\\', 'n']
  else if c == '\r' then ['\\', 'r']
  else if c == '\t' then ['\\', 't']
  else if c.toNat == 0 then ['\\', '0']
  else if Text.isHidden c then '\\' :: 'u' :: '\x7b' :: (Text.hex c.toNat ++ ['\x7d'])
  else [c]

/-- A text in double quotes. -/
def quoted (s : String) : String :=
  String.ofList ('"' :: s.toList.flatMap escape ++ ['"'])

/-- What was found, in the words of a document format. -/
def describe (words : Vocabulary) : Found → String
  | null => words.null
  | bool true => "boolean `true`"
  | bool false => "boolean `false`"
  | integer n => "integer `" ++ toString n ++ "`"
  | float x => "floating point `" ++ words.float.text x ++ "`"
  | string s => "string " ++ quoted s
  | sequence => "sequence"
  | map => "map"

end Found

namespace Mismatch

/-- A name between grave accents. -/
def ticked (name : String) : String := "`" ++ name ++ "`"

/-- The alternatives of which one was expected. -/
def oneOf : List String → String
  | [a] => ticked a
  | [a, b] => ticked a ++ " or " ++ ticked b
  | names => "one of " ++ String.intercalate ", " (names.map ticked)

/-- The text of a mismatch in the words of a document format. -/
def message (words : Vocabulary) : Mismatch → String
  | wrongType found expected =>
    "invalid type: " ++ found.describe words ++ ", expected " ++ expected
  | wrongValue found expected =>
    "invalid value: " ++ found.describe words ++ ", expected " ++ expected
  | wrongLength count expected =>
    "invalid length " ++ toString count ++ ", expected " ++ expected
  | missingField name => "missing field " ++ ticked name
  | unknownField name known => "unknown field " ++ ticked name ++ ", expected " ++ oneOf known
  | duplicateField name => "duplicate field " ++ ticked name
  | unknownVariant name known =>
    "unknown variant " ++ ticked name ++ ", expected " ++ oneOf known
  | noAlternative type => "data did not match any variant of untagged enum " ++ type
  | tagged => "untagged and internally tagged enums do not support enum input"
  | rule text => text

end Mismatch

/-- One step from a collection in a document to what it holds. -/
inductive Step where
  | item (index : Nat)
  | key (name : String)
  /-- The value under a key that has no text. -/
  | nameless
  deriving DecidableEq, Repr

/-- Where in a document something is: the steps from the whole document. -/
abbrev Place := List Step

namespace Place

/-- Writes further steps behind the text of a place. -/
def extend (outer : String) : Place → String
  | [] => outer
  | .item index :: inner => extend (outer ++ "[" ++ toString index ++ "]") inner
  | .key name :: inner => extend (outer ++ "." ++ name) inner
  | .nameless :: inner => extend (outer ++ ".?") inner

/-- The text of a place, such as `up[0].op`; the whole document is a point. -/
def text : Place → String
  | .key name :: inner => extend name inner
  | .nameless :: inner => extend "?" inner
  | steps => extend "." steps

end Place

/-- Why a document cannot be read as what is asked for. -/
inductive DocumentFault where
  /-- It does not hold a value at all. -/
  | malformed
  /-- A part of it is not what is asked for. -/
  | mismatch (place : Place) (mismatch : Mismatch)
  deriving DecidableEq, Repr

/-- The text of a fault in a format. A mismatch in the document as a whole names no place. -/
def DocumentFault.message (words : Vocabulary) : DocumentFault → String
  | malformed => "malformed " ++ words.format
  | mismatch place m =>
    if place.text = "." then m.message words else place.text ++ ": " ++ m.message words

end SafeMigration
