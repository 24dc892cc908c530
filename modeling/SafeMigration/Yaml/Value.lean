import SafeMigration.Json.Value
import SafeMigration.Yaml.Meaning

/-!
Values that YAML documents hold when nothing particular is asked of them.

A document is well formed when all of it can be read as a value: no key occurs twice in a mapping, no integer is too
large, and every tag of a standard type fits its text. Free-form parts of a document become JSON values.
-/

namespace SafeMigration.Yaml

/-- A value of a document. -/
inductive Value where
  | null
  | bool (value : Bool)
  | integer (value : Int)
  | float (value : Binary64)
  | string (value : String)
  | sequence (items : List Value)
  | mapping (entries : List (Value × Value))
  | tagged (tag : String) (value : Value)

namespace Value

mutual

/-- Whether two values are the same. Mappings are compared without regard to the order of their entries. -/
def same : Value → Value → Bool
  | null, null => true
  | bool a, bool b => a == b
  | integer a, integer b => a == b
  | float a, float b => a.sameValue b
  | string a, string b => a == b
  | sequence as, sequence bs => sameItems as bs
  | mapping as, mapping bs => as.length == bs.length && within as bs
  | tagged s a, tagged t b => s == t && same a b
  | _, _ => false

/-- Whether two sequences have the same items. -/
def sameItems : List Value → List Value → Bool
  | [], [] => true
  | a :: as, b :: bs => same a b && sameItems as bs
  | _, _ => false

/-- Whether every entry of a mapping is also in another. -/
def within : List (Value × Value) → List (Value × Value) → Bool
  | [], _ => true
  | (key, value) :: entries, others =>
    (others.any fun other => same key other.1 && same value other.2) && within entries others

end

/-- Whether no key occurs twice. -/
def keysDistinct : List (Value × Value) → Bool
  | [] => true
  | (key, _) :: entries => !(entries.any fun other => same key other.1) && keysDistinct entries

/-- The value of a meaning. -/
def ofMeaning? : Meaning → Option Value
  | .null => some null
  | .bool b => some (bool b)
  | .integer n => some (integer n)
  | .float x => some (float x)
  | .string s => some (string s)
  | .wideInteger => none
  | .mistagged _ _ => none

/-- Puts a tag of the document's own before a value. -/
def withTag (tag : Option Tag) (value : Value) : Value :=
  match tag.bind Tag.name? with
  | some name => tagged (Tag.bareName name) value
  | none => value

/-- The shape of a value. -/
def found : Value → Found
  | null => .null
  | bool b => .bool b
  | integer n => .integer n
  | float x => .float x
  | string s => .string s
  | sequence _ => .sequence
  | mapping _ => .map
  | tagged _ value => value.found

end Value

namespace Tree

mutual

/-- The value of a tree, if all of it has one. -/
def value? : Tree → Option Value
  | scalar s => (Value.ofMeaning? s.meaning).map (Value.withTag s.tag)
  | sequence tag items => (values? items).map fun values => Value.withTag tag (.sequence values)
  | mapping tag entries =>
    ((entryValues? entries).filter Value.keysDistinct).map fun entries => Value.withTag tag (.mapping entries)
  | unresolved => none

/-- The values of the items of a sequence. -/
def values? : List Tree → Option (List Value)
  | [] => some []
  | item :: items =>
    match value? item, values? items with
    | some v, some vs => some (v :: vs)
    | _, _ => none

/-- The values of the entries of a mapping. -/
def entryValues? : List (Option String × Tree × Tree) → Option (List (Value × Value))
  | [] => some []
  | (_, key, value) :: entries =>
    match value? key, value? value, entryValues? entries with
    | some k, some v, some vs => some ((k, v) :: vs)
    | _, _, _ => none

end

/-- Whether all of a tree can be read as a value. -/
def isWellFormed (tree : Tree) : Bool := tree.value?.isSome

/-- The step to the value of an entry. -/
def stepTo : Option String → Step
  | some label => .key label
  | none => .nameless

/-- Fails for a value with a tag of the document's own. -/
def refuseTag (place : Place) (tag : Option Tag) : Except DocumentFault Unit :=
  if (tag.bind Tag.name?).isSome then .error (.mismatch place .tagged) else .ok ()

mutual

/-- The value of a free-form part of a document, in which tags of the document's own have no place and a key may
occur again. -/
def content (place : Place) : Tree → Except DocumentFault Value
  | scalar s => do
    refuseTag place s.tag
    match Value.ofMeaning? s.meaning with
    | some value => .ok value
    | none => .error .malformed
  | sequence tag items => do
    refuseTag place tag
    return .sequence (← contents place 0 items)
  | mapping tag entries => do
    refuseTag place tag
    return .mapping (← entryContents place entries)
  | unresolved => .error .malformed

/-- The values of the items of a sequence, from a position on. -/
def contents (place : Place) (position : Nat) : List Tree → Except DocumentFault (List Value)
  | [] => .ok []
  | item :: items => do
    let value ← content (place ++ [.item position]) item
    return value :: (← contents place (position + 1) items)

/-- The values of the entries of a mapping. A key is reported at the place of the mapping. -/
def entryContents (place : Place) :
    List (Option String × Tree × Tree) → Except DocumentFault (List (Value × Value))
  | [] => .ok []
  | (label, key, value) :: entries => do
    let k ← content place key
    let v ← content (place ++ [stepTo label]) value
    return (k, v) :: (← entryContents place entries)

end

end Tree

namespace Value

/-- Reads a key as a string. -/
def keyText (first : Bool) : Value → Except Mismatch String
  | string s => .ok s
  | other => .error (.wrongType other.found (if first then "a string key" else "a string"))

mutual

/-- The JSON value of a value, whose keys have to be strings. What is no number becomes null, and of two entries
with one key the later stays. -/
def json : Value → Except Mismatch Json
  | null => .ok .null
  | bool b => .ok (.bool b)
  | integer n => .ok (.int n)
  | float x => .ok (if x.isFinite then .float x else .null)
  | string s => .ok (.string s)
  | sequence items => do return .array (← jsonItems items)
  | mapping entries => do return .object (Entries.ofPairs (← jsonFields true entries))
  | tagged _ _ => .error .tagged

/-- The JSON values of the items of a sequence. -/
def jsonItems : List Value → Except Mismatch (List Json)
  | [] => .ok []
  | item :: items => do
    let value ← json item
    return value :: (← jsonItems items)

/-- The JSON values of the entries of a mapping. -/
def jsonFields (first : Bool) : List (Value × Value) → Except Mismatch (List (String × Json))
  | [] => .ok []
  | (key, value) :: entries => do
    let k ← keyText first key
    let v ← json value
    return (k, v) :: (← jsonFields false entries)

end

end Value

end SafeMigration.Yaml
