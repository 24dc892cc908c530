import SafeMigration.Yaml.Part
import SafeMigration.Yaml.Value

/-!
Reading typed values out of YAML documents.

A part of a document is read in the order in which it is written, and the first mismatch is reported with
its place. What is not written, or written as an empty plain scalar, is an empty collection where one is asked
for.
-/

namespace SafeMigration.Yaml

/-- A reader of a part of a document at a place. -/
abbrev Reader (α : Type) := Place → Part → Reading α

/-- What is reported of a layer that is not what is expected. -/
def Layer.refused (expected : String) : Layer → Mismatch
  | .scalar s => s.meaning.refused expected
  | .sequence _ _ => .wrongType .sequence expected
  | .mapping _ _ => .wrongType .map expected

/-- Reads the text of a scalar, however it is written. -/
def text (expected : String) : Reader String := fun place part => do
  match ← part.layer with
  | .scalar s => return s.text
  | other => .refuse place (other.refused expected)

/-- Whether a scalar is written as an empty plain one. -/
def Scalar.isAbsent (s : Scalar) : Bool := s.style == .plain && s.text.isEmpty

/-- Whether the text of a scalar counts as a number of a type: if it is plain, or a literal block with the tag. -/
def Scalar.countsAs (s : Scalar) (tag : Tag) : Bool :=
  s.style == .plain || (s.style == .literal && s.tag == some tag)

/-- The whole number of 64 bits without a minus sign that a scalar stands for. -/
def Scalar.whole? (s : Scalar) : Option Nat :=
  let unsigned := match s.text.toList with
    | '+' :: cs => cs
    | cs => cs
  (if s.countsAs (.standard "int") then Meaning.unsigned? unsigned else none).filter (· < Nat.pow 2 64)

/-- Reads a whole number of 64 bits without a minus sign. -/
def whole : Reader Nat := fun place part => do
  let layer ← part.layer
  match layer with
  | .scalar s =>
    match s.whole? with
    | some n => return n
    | none => .refuse place (layer.refused "u64")
  | _ => .refuse place (layer.refused "u64")

/-- Whether a scalar stands for nothing. In quotes nothing is null, and a tag other than that of null makes a value. -/
def Scalar.isNothing (s : Scalar) : Except Mismatch Bool :=
  if s.style != .plain then .ok false
  else
    match s.tag with
    | some tag =>
      if tag != .standard "null" then .ok false
      else if Meaning.isNull s.text then .ok true
      else .error (.wrongValue (.string s.text) "null")
    | none => .ok (s.text.isEmpty || Meaning.isNull s.text)

/-- Reads a part that may be left out or null. -/
def maybe {α : Type} (read : Reader α) : Reader (Option α) := fun place part => do
  let part ← part.resolve
  match part.node with
  | .scalar _ s =>
    match s.isNothing with
    | .ok true => return none
    | .ok false => some <$> read place part
    | .error mismatch => .refuse place mismatch
  | _ => some <$> read place part

/-- Reads the items of a list, from a position on. -/
def items {α : Type} (read : Reader α) (place : Place) : Nat → List Part → Reading (List α)
  | _, [] => return []
  | position, item :: rest => do
    let a ← read (place ++ [.item position]) item
    return a :: (← items read place (position + 1) rest)

/-- Reads a sequence. -/
def list {α : Type} (read : Reader α) : Reader (List α) := fun place part => do
  let layer ← part.layer
  match layer with
  | .sequence _ parts => items read place 0 parts
  | .scalar s => if s.isAbsent then return [] else .refuse place (layer.refused "a sequence")
  | .mapping _ _ => .refuse place (layer.refused "a sequence")

/-- What is made of one entry of a mapping, given what was made of the entries before it. The place is that of the
mapping; the value is reported at its own place, which is given last. -/
abbrev EntryReader (σ : Type) := σ → Place → Part → Place → Part → Reading σ

/-- Reads the entries of a mapping one after another. -/
def foldEntries {σ : Type} (read : EntryReader σ) (place : Place) :
    σ → List (Option String × Part × Part) → Reading σ
  | state, [] => return state
  | state, (label, key, value) :: rest => do
    let next ← read state place key (place ++ [Tree.stepTo label]) value
    foldEntries read place next rest

/-- Reads a mapping. -/
def mapping {σ : Type} (expected : String) (start : σ) (read : EntryReader σ) : Reader σ := fun place part => do
  let layer ← part.layer
  match layer with
  | .mapping _ entries => foldEntries read place start entries
  | .scalar s => if s.isAbsent then return start else .refuse place (layer.refused expected)
  | .sequence _ _ => .refuse place (layer.refused expected)

/-- Reads a free-form part, all of which counts. -/
def freeForm : Reader Value := fun place part => do
  match (← part.tree).content place with
  | .ok value => return value
  | .error fault => .fail fault

/-- A field of a record: its name, and how its value changes what has been read. -/
structure Field (σ : Type) where
  name : String
  read : σ → Reader σ

/-- A field with a value that is put into the record. -/
def Field.of {σ α : Type} (name : String) (read : Reader α) (put : σ → α → σ) : Field σ :=
  ⟨name, fun state place part => put state <$> read place part⟩

/-- Reads an entry of a record. A field may be given once; a field that is not known is refused, or passed over. -/
def recordEntry {σ : Type} (fields : List (Field σ)) (strict : Bool) : EntryReader (σ × List String) :=
  fun (state, seen) place key valuePlace value => do
    let name ← text "field identifier" place key
    match fields.find? (·.name = name) with
    | some field =>
      if seen.contains name then .refuse place (.duplicateField name)
      else return (← field.read state valuePlace value, name :: seen)
    | none =>
      if strict then .refuse place (.unknownField name (fields.map (·.name)))
      else return (state, seen)

/-- Reads a record from a mapping with its fields. -/
def record {σ : Type} (expected : String) (fields : List (Field σ)) (strict : Bool) (start : σ) : Reader σ :=
  fun place part => (·.1) <$> mapping expected (start, []) (recordEntry fields strict) place part

/-- The tag of a layer. -/
def Layer.tag? : Layer → Option Tag
  | .scalar s => s.tag
  | .sequence tag _ => tag
  | .mapping tag _ => tag

/-- The alternative with a name. -/
def choose {α : Type} (choices : List (String × α)) (place : Place) (name : String) : Reading α :=
  match choices.lookup name with
  | some a => return a
  | none => .refuse place (.unknownVariant name (choices.map (·.1)))

/-- Checks that nothing follows the tag that names an alternative. -/
def nothingAfterTag (place : Place) : Layer → Reading Unit
  | .scalar s =>
    if s.style == .plain && (s.text.isEmpty || Meaning.isNull s.text) then return ()
    else .refuse place (.wrongValue (.string s.text) "null")
  | other => .refuse place (other.refused "unit")

/-- Reads one of several named alternatives: its name, or its name as a tag before nothing. A tag that names none of
them is reported at the place of the collection around it. -/
def choice {α : Type} (choices : List (String × α)) : Reader α := fun place part => do
  let layer ← part.layer
  match layer.tag?.bind Tag.name?, layer with
  | some name, _ => do
    let a ← choose choices place.dropLast name
    nothingAfterTag place layer
    return a
  | none, .scalar s => choose choices place s.text
  | none, _ => .refuse place (layer.refused "a YAML tag starting with '!'")

/-- Reads a whole document. A mismatch is only reported of a document that is well formed. -/
def ofBytes {α : Type} (read : Reader α) (bytes : ByteArray) : Except DocumentFault α :=
  match Document.ofBytes? bytes with
  | none => .error .malformed
  | some document =>
    match (read [] document.whole).run document.jumpLimit with
    | .ok (a, _) => .ok a
    | .error fault => .error (if (Tree.ofDocument document).isWellFormed then fault else .malformed)

end SafeMigration.Yaml
