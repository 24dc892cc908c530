import SafeMigration.Text.Chars
import SafeMigration.Json.Value

/-!
Writing values as JSON text, on one line or indented by two spaces a level.
-/

namespace SafeMigration.Json

/-- A character inside a quoted string: quotes, backslashes and control characters are escaped. -/
def escape (c : Char) : List Char :=
  if c == '"' then ['\\', '"']
  else if c == '\\' then ['\\', '\\']
  else if c.toNat == 8 then ['\\', 'b']
  else if c.toNat == 9 then ['\\', 't']
  else if c.toNat == 10 then ['\\', 'n']
  else if c.toNat == 12 then ['\\', 'f']
  else if c.toNat == 13 then ['\\', 'r']
  else if c.toNat < 32 then
    ['\\', 'u', '0', '0', Text.hexDigit (c.toNat / 16), Text.hexDigit (c.toNat % 16)]
  else [c]

/-- A quoted string. -/
def quoted (s : String) : List Char :=
  '"' :: (s.toList.flatMap escape ++ ['"'])

mutual

/-- A value on one line, without spaces. -/
def compact : Json → List Char
  | null => "null".toList
  | bool true => "true".toList
  | bool false => "false".toList
  | int n => (toString n).toList
  | float x => if x.isFinite then FloatLayout.scientific.chars x else "null".toList
  | string s => quoted s
  | array items => '[' :: compactItems items
  | object fields => '\x7b' :: compactFields fields

/-- The elements of a sequence and its closing bracket. -/
def compactItems : List Json → List Char
  | [] => [']']
  | [item] => compact item ++ [']']
  | item :: items => compact item ++ ',' :: compactItems items

/-- The fields of an object and its closing brace. -/
def compactFields : List (String × Json) → List Char
  | [] => ['\x7d']
  | [(key, value)] => quoted key ++ ':' :: (compact value ++ ['\x7d'])
  | (key, value) :: fields => quoted key ++ ':' :: (compact value ++ ',' :: compactFields fields)

end

/-- The text of a value on one line. -/
def text (json : Json) : String := String.ofList json.compact

/-- A line break and the indentation of a level. -/
def newline (level : Nat) : List Char := '\n' :: List.replicate (2 * level) ' '

mutual

/-- A value over several lines, at a level of indentation. -/
def pretty (level : Nat) : Json → List Char
  | array [] => ['[', ']']
  | array (item :: items) => '[' :: prettyItems (level + 1) (item :: items)
  | object [] => ['\x7b', '\x7d']
  | object (field :: fields) => '\x7b' :: prettyFields (level + 1) (field :: fields)
  | json => compact json

/-- The elements of a sequence, each on its own line, and the closing bracket. -/
def prettyItems (level : Nat) : List Json → List Char
  | [] => newline (level - 1) ++ [']']
  | [item] => newline level ++ pretty level item ++ (newline (level - 1) ++ [']'])
  | item :: items => newline level ++ pretty level item ++ ',' :: prettyItems level items

/-- The fields of an object, each on its own line, and the closing brace. -/
def prettyFields (level : Nat) : List (String × Json) → List Char
  | [] => newline (level - 1) ++ ['\x7d']
  | [(key, value)] =>
    newline level ++ quoted key ++ ':' :: ' ' :: (pretty level value ++ (newline (level - 1) ++ ['\x7d']))
  | (key, value) :: fields =>
    newline level ++ quoted key ++ ':' :: ' ' :: (pretty level value ++ ',' :: prettyFields level fields)

end

end SafeMigration.Json
