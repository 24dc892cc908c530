import SafeMigration.Json.Value

/-!
Reading typed fields out of an object.

A `Shape` names the fields it wants. The faults of the values that are given come first, in the order in which the
object holds them; a field that is wanted and not there is reported after that, in the order of the shape.
Fields that a shape does not name have no influence on what it reads.
-/

namespace SafeMigration.Json

/-- A typed field: its key, and what is wrong with a value given under it. -/
structure Slot where
  key : String
  fault? : Fields → Json → Option Mismatch

/-- The typed fields of an object and the value made of them. -/
structure Shape (α : Type) where
  slots : List Slot
  read : Fields → Except Mismatch α

/-- What is wrong with a value, if it cannot be read. -/
def faultOf {α : Type} (read : Json → Except Mismatch α) (value : Json) : Option Mismatch :=
  match read value with
  | .error mismatch => some mismatch
  | .ok _ => none

namespace Shape

variable {α β : Type}

/-- The shape without fields. -/
def constant (a : α) : Shape α := ⟨[], fun _ => .ok a⟩

/-- Applies one shape's value to another's; the fields of the first come first. -/
def apply (f : Shape (α → β)) (x : Unit → Shape α) : Shape β :=
  { slots := f.slots ++ (x ()).slots
    read := fun fields => do
      let g ← f.read fields
      let a ← (x ()).read fields
      return g a }

instance : Applicative Shape where
  pure := constant
  seq := apply

/-- A field that has to be given. -/
def required (key : String) (read : Json → Except Mismatch α) : Shape α :=
  { slots := [⟨key, fun _ => faultOf read⟩]
    read := fun fields =>
      match Entries.get? fields key with
      | some value => read value
      | none => .error (.missingField key) }

/-- A field with a value for when it is not given. -/
def optional (key : String) (read : Json → Except Mismatch α) (otherwise : α) : Shape α :=
  { slots := [⟨key, fun _ => faultOf read⟩]
    read := fun fields =>
      match Entries.get? fields key with
      | some value => read value
      | none => .ok otherwise }

/-- A field that may be left out or null. -/
def maybe (key : String) (read : Json → Except Mismatch α) : Shape (Option α) :=
  optional key (asOption read) none

/-- A field that has to be given under one of two keys; both together are one field given twice. -/
def eitherKey (key other : String) (read : Json → Except Mismatch α) : Shape α :=
  { slots :=
      [⟨key, fun _ => faultOf read⟩,
       ⟨other, fun fields value =>
        if Entries.has fields key then some (.duplicateField key) else faultOf read value⟩]
    read := fun fields =>
      match Entries.get? fields key with
      | some value => read value
      | none =>
        match Entries.get? fields other with
        | some value => read value
        | none => .error (.missingField key) }

/-- The keys of the typed fields, in the order of the shape. -/
def keys (shape : Shape α) : List String := shape.slots.map (·.key)

/-- What is wrong with one given field. -/
def faultAt? (slots : List Slot) (all : Fields) (field : String × Json) : Option Mismatch :=
  slots.findSome? fun slot => if slot.key = field.1 then slot.fault? all field.2 else none

/-- Reads the fields of an object. -/
def ofFields (shape : Shape α) (fields : Fields) : Except Mismatch α :=
  match fields.findSome? (faultAt? shape.slots fields) with
  | some mismatch => .error mismatch
  | none => shape.read fields

/-- Reads the fields from a sequence that holds them in the order of the shape. -/
def ofItems (shape : Shape α) (expected : String) (items : List Json) : Except Mismatch α :=
  let fields := shape.keys.zip items
  match fields.findSome? (faultAt? shape.slots fields) with
  | some mismatch => .error mismatch
  | none =>
    match shape.read fields with
    | .error (.missingField key) =>
      .error (.wrongLength (shape.keys.idxOf key)
        (expected ++ " with " ++ toString shape.slots.length ++ " elements"))
    | .error mismatch => .error mismatch
    | .ok a =>
      if shape.slots.length < items.length then
        .error (.wrongLength items.length "fewer elements in array")
      else .ok a

/-- Reads a value that is an object or a sequence of the typed fields. -/
def ofJson (shape : Shape α) (expected : String) : Json → Except Mismatch α
  | object fields => shape.ofFields fields
  | array items => shape.ofItems expected items
  | json => json.mismatch expected

end Shape

end SafeMigration.Json
