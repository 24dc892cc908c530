import SafeMigration.Text.Order

/-!
A disk: files and directories in one tree, and the place in the tree where paths start.

The tree is kept flat, as a list of locations with what is there. What counts of a disk is `Disk.node?`, the look-up
at a location.
-/

namespace SafeMigration

/-- Where something is on a disk: its name, then the names of the directories around it up to the root. -/
abbrev Location := List String

/-- What is at a location. -/
inductive Node where
  | file (content : ByteArray)
  | directory

/-- Files and directories, as a process that works on them sees them. -/
structure Disk where
  nodes : List (Location × Node)
  /-- The directory that relative paths start from. -/
  home : Location
  /-- A text that no other process on the disk goes by. -/
  process : String

namespace Disk

/-- A disk with nothing but an empty directory, from which relative paths start. -/
def empty (process : String) : Disk := ⟨[(["home"], .directory)], ["home"], process⟩

/-- What is at a location. The root is always there. -/
def node? (disk : Disk) (location : Location) : Option Node :=
  match location with
  | [] => some .directory
  | _ => disk.nodes.lookup location

/-- Puts a node at a location in place of what was there. -/
def put (disk : Disk) (location : Location) (node : Node) : Disk :=
  { disk with nodes := (location, node) :: disk.nodes.filter fun entry => entry.1 != location }

/-- Takes away what is at a location and below it. -/
def erase (disk : Disk) (location : Location) : Disk :=
  { disk with nodes := disk.nodes.filter fun entry => !location.isSuffixOf entry.1 }

/-- Texts in order, each once. -/
def sorted (texts : List String) : List String := (Entries.ofPairs (texts.map fun text => (text, ()))).keys

/-- The names that a directory holds, in order. -/
def names (disk : Disk) (location : Location) : List String :=
  sorted (disk.nodes.filterMap fun entry =>
    match entry.1 with
    | [] => none
    | name :: around => if around = location then some name else none)

/-- The path of a node below the directory that relative paths start from; that of a directory ends with a slash. -/
def relative? (disk : Disk) (entry : Location × Node) : Option String :=
  if disk.home.isSuffixOf entry.1 && entry.1 != disk.home then
    let path := "/".intercalate (entry.1.take (entry.1.length - disk.home.length)).reverse
    match entry.2 with
    | .file _ => some path
    | .directory => some (path ++ "/")
  else none

/-- The paths of all nodes below the directory that relative paths start from, in order. -/
def paths (disk : Disk) : List String := sorted (disk.nodes.filterMap disk.relative?)

end Disk

end SafeMigration
