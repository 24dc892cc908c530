import SafeMigration.Reading
import SafeMigration.Yaml.Tree

/-!
The parts of a YAML document as they are looked into one after another.

Only what is looked into counts: an alias that is passed over is not followed, and what is nested too deep in
a part that is passed over does no harm.
-/

namespace SafeMigration.Yaml

/-- What is read of a document, with the number of aliases that may still be followed. -/
abbrev Reading (α : Type) := StateT Nat (Except DocumentFault) α

/-- Ends a reading. -/
def Reading.fail {α : Type} (fault : DocumentFault) : Reading α := fun _ => .error fault

/-- Reports a mismatch at a place. -/
def Reading.refuse {α : Type} (place : Place) (mismatch : Mismatch) : Reading α := fail (.mismatch place mismatch)

/-- A part of a document: a node, what aliases stand for, and how many collections may still be nested. -/
structure Part where
  targets : List (Nat × Node Nat)
  depth : Nat
  node : Node Nat

/-- The outermost layer of a part. -/
inductive Layer where
  | scalar (scalar : Scalar)
  | sequence (tag : Option Tag) (items : List Part)
  /-- The entries, each with the text of its key if the key is written as a scalar. -/
  | mapping (tag : Option Tag) (entries : List (Option String × Part × Part))

/-- The whole of a document. -/
def Document.whole (document : Document) : Part := ⟨document.targets, depthLimit, document.root⟩

namespace Part

/-- What an alias stands for; any other part is itself. -/
def resolve (part : Part) : Reading Part := fun jumps =>
  match Tree.follow part.targets jumps part.node with
  | (some node, jumps) => .ok ({ part with node := node }, jumps)
  | (none, _) => .error .malformed

/-- The parts of a collection, unless it is nested too deep. -/
def inside {α : Type} (part : Part) (parts : (Node Nat → Part) → α) : Reading α :=
  match part.depth with
  | 0 => .fail .malformed
  | depth + 1 => return parts (Part.mk part.targets depth)

/-- Looks into a part. -/
def layer (part : Part) : Reading Layer := do
  let part ← part.resolve
  match part.node with
  | .scalar _ s => return .scalar s
  | .sequence _ tag items => part.inside fun inner => .sequence tag (items.map inner)
  | .mapping _ tag entries =>
    part.inside fun inner =>
      .mapping tag (entries.map fun (key, value) => (Tree.label key, inner key, inner value))
  | .link _ => .fail .malformed

/-- All of a part. -/
def tree (part : Part) : Reading Tree := fun jumps => .ok (Tree.expand part.targets part.depth jumps part.node)

end Part

end SafeMigration.Yaml
