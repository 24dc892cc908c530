import SafeMigration.Yaml.Lexer
import SafeMigration.Yaml.Node

/-!
YAML documents, and their content as a tree, with every alias replaced by what it stands for.

An anchor is known by a number, which is the number of names in use before it. A name that is given to a second node
keeps its place among the names, so the next new name gets the same number, and the later node is meant by it.
-/

namespace SafeMigration.Yaml

namespace Node

/-- The numbers of the names in use. -/
abbrev Names := List (String × Nat)

/-- Gives a name a number. -/
def Names.give (names : Names) (name : String) : Names × Nat :=
  match names.lookup name with
  | some _ => ((name, names.length) :: names.filter (·.1 != name), names.length)
  | none => ((name, names.length) :: names, names.length)

/-- Gives the name of an anchor a number, if there is one. -/
def Names.giveIf (names : Names) : Option String → Names × Option Nat
  | some name =>
    let (names, number) := names.give name
    (names, some number)
  | none => (names, none)

mutual

/-- Replaces names by numbers. An alias has to come after the name it uses. -/
def number? (names : Names) : Node String → Option (Node Nat × Names)
  | link name => (names.lookup name).map fun target => (link target, names)
  | scalar anchor s =>
    let (names, anchor) := names.giveIf anchor
    some (scalar anchor s, names)
  | sequence anchor tag items =>
    let (names, anchor) := names.giveIf anchor
    (numberItems? names items).map fun (items, names) => (sequence anchor tag items, names)
  | mapping anchor tag entries =>
    let (names, anchor) := names.giveIf anchor
    (numberEntries? names entries).map fun (entries, names) => (mapping anchor tag entries, names)

/-- Replaces names by numbers in the items of a sequence. -/
def numberItems? (names : Names) : List (Node String) → Option (List (Node Nat) × Names)
  | [] => some ([], names)
  | item :: items =>
    match number? names item with
    | none => none
    | some (item, names) =>
      (numberItems? names items).map fun (items, names) => (item :: items, names)

/-- Replaces names by numbers in the entries of a mapping. -/
def numberEntries? (names : Names) :
    List (Node String × Node String) → Option (List (Node Nat × Node Nat) × Names)
  | [] => some ([], names)
  | (key, value) :: entries =>
    match number? names key with
    | none => none
    | some (key, names) =>
      match number? names value with
      | none => none
      | some (value, names) =>
        (numberEntries? names entries).map fun (entries, names) => ((key, value) :: entries, names)

end

mutual

/-- The anchored nodes in a node, in the order in which they begin. -/
def anchored : Node Nat → List (Nat × Node Nat)
  | link _ => []
  | scalar anchor s => (anchor.map fun n => (n, scalar anchor s)).toList
  | sequence anchor tag items =>
    (anchor.map fun n => (n, sequence anchor tag items)).toList ++ anchoredItems items
  | mapping anchor tag entries =>
    (anchor.map fun n => (n, mapping anchor tag entries)).toList ++ anchoredEntries entries

/-- The anchored nodes in the items of a sequence. -/
def anchoredItems : List (Node Nat) → List (Nat × Node Nat)
  | [] => []
  | item :: items => anchored item ++ anchoredItems items

/-- The anchored nodes in the entries of a mapping. -/
def anchoredEntries : List (Node Nat × Node Nat) → List (Nat × Node Nat)
  | [] => []
  | (key, value) :: entries => anchored key ++ anchored value ++ anchoredEntries entries

end

mutual

/-- How many marks a document has for a node: one for a scalar or an alias, and two around a collection. -/
def size {ν : Type} : Node ν → Nat
  | link _ => 1
  | scalar _ _ => 1
  | sequence _ _ items => 2 + sizeItems items
  | mapping _ _ entries => 2 + sizeEntries entries

/-- The size of the items of a sequence. -/
def sizeItems {ν : Type} : List (Node ν) → Nat
  | [] => 0
  | item :: items => size item + sizeItems items

/-- The size of the entries of a mapping. -/
def sizeEntries {ν : Type} : List (Node ν × Node ν) → Nat
  | [] => 0
  | (key, value) :: entries => size key + size value + sizeEntries entries

end

end Node

/-- The nodes of a document, and the one that each number stands for in an alias. -/
structure Document where
  root : Node Nat
  targets : List (Nat × Node Nat)

namespace Document

/-- How deep collections may be nested. -/
def depthLimit : Nat := 128

/-- How often aliases may be followed in one reading, for each mark of the document. -/
def jumpsPerMark : Nat := 100

/-- How often aliases may be followed in one reading. -/
def jumpLimit (document : Document) : Nat := jumpsPerMark * document.root.size

/-- The document with a node. What is anchored later is meant before what is anchored earlier. -/
def ofNode? (node : Node String) : Option Document :=
  (node.number? []).map fun (root, _) => ⟨root, root.anchored.reverse⟩

/-- Reads a document. One without content holds a node that is not written. -/
def ofBytes? (bytes : ByteArray) : Option Document :=
  match (characters? bytes).bind tokens? with
  | none => none
  | some tokens =>
    match Node.ofTokens? tokens with
    | none => none
    | some none => some ⟨.absent, []⟩
    | some (some node) => ofNode? node

end Document

/-- The content of a document, or of a part of it. -/
inductive Tree where
  | scalar (scalar : Scalar)
  | sequence (tag : Option Tag) (items : List Tree)
  /-- The entries, each with the text of its key if the key is written as a scalar. -/
  | mapping (tag : Option Tag) (entries : List (Option String × Tree × Tree))
  /-- A part that is nested too deep, or repeated too often. -/
  | unresolved

namespace Tree

/-- The text of a key that is written as a scalar. -/
def label : Node Nat → Option String
  | .scalar _ s => some s.text
  | _ => none

/-- Expands the nodes of a list, with the number of aliases that may still be followed. -/
def expandEach {α β : Type} (expand : Nat → α → β × Nat) : Nat → List α → List β × Nat
  | jumps, [] => ([], jumps)
  | jumps, a :: rest =>
    let (b, jumps) := expand jumps a
    let (bs, jumps) := expandEach expand jumps rest
    (b :: bs, jumps)

/-- Follows an alias, as long as that is allowed. -/
def follow (targets : List (Nat × Node Nat)) (jumps : Nat) (node : Node Nat) : Option (Node Nat) × Nat :=
  match node with
  | .link target =>
    match jumps with
    | 0 => (none, 0)
    | jumps + 1 => (targets.lookup target, jumps)
  | node => (some node, jumps)

/-- Expands a node to a depth of collections. -/
def expand (targets : List (Nat × Node Nat)) : Nat → Nat → Node Nat → Tree × Nat
  | 0, jumps, node =>
    match follow targets jumps node with
    | (some (.scalar _ s), jumps) => (scalar s, jumps)
    | (_, jumps) => (unresolved, jumps)
  | depth + 1, jumps, node =>
    match follow targets jumps node with
    | (some (.scalar _ s), jumps) => (scalar s, jumps)
    | (some (.sequence _ tag items), jumps) =>
      let (items, jumps) := expandEach (expand targets depth) jumps items
      (sequence tag items, jumps)
    | (some (.mapping _ tag entries), jumps) =>
      let (entries, jumps) := expandEach
        (fun jumps (entry : Node Nat × Node Nat) =>
          let (key, jumps) := expand targets depth jumps entry.1
          let (value, jumps) := expand targets depth jumps entry.2
          ((label entry.1, key, value), jumps))
        jumps entries
      (mapping tag entries, jumps)
    | (_, jumps) => (unresolved, jumps)

/-- All of a document. -/
def ofDocument (document : Document) : Tree :=
  (expand document.targets Document.depthLimit document.jumpLimit document.root).1

end Tree

end SafeMigration.Yaml
