import SafeMigration.Disk.Basic
import SafeMigration.Error
import SafeMigration.Path

/-!
Reading and changing a disk by paths.

A path is followed name by name; every directory on the way has to be there, also those that the path leaves again. An
access that fails changes nothing, except that directories made on the way to one that cannot be made stay.
-/

namespace SafeMigration

/-- Goes from a location to a name: a dot or nothing stays, two dots go to the directory around. -/
def Location.step (here : Location) (name : String) : Location :=
  if name = "" ∨ name = "." then here
  else if name = ".." then here.tail
  else name :: here

namespace Disk

/-- The most bytes a name can have. -/
def maxName : Nat := 255

/-- The most bytes a path can have. -/
def maxPath : Nat := 4095

/-- Follows names from a location. What the last name leads to does not have to be there. -/
def follow (disk : Disk) (here : Location) : List String → Except AccessFault Location
  | [] => .ok here
  | name :: names =>
    match disk.node? here with
    | none => .error .notFound
    | some (.file _) => .error .notDirectory
    | some .directory =>
      if maxName < name.utf8ByteSize then .error .nameTooLong
      else disk.follow (here.step name) names

/-- The location that a path leads to. -/
def locate (disk : Disk) (path : String) : Except AccessFault Location :=
  if path.toList.contains '\x00' then .error .zeroInPath
  else if path.isEmpty then .error .notFound
  else if maxPath < path.utf8ByteSize then .error .nameTooLong
  else disk.follow (if Path.isAbsolute path then [] else disk.home) (Path.segments path)

/-- What a path leads to, if it leads to something. -/
def find? (disk : Disk) (path : String) : Option Node :=
  match disk.locate path with
  | .ok location => disk.node? location
  | .error _ => none

/-- Whether a path leads to something. -/
def holds (disk : Disk) (path : String) : Bool := (disk.find? path).isSome

/-- Whether a path leads to a directory. -/
def isDirectory (disk : Disk) (path : String) : Bool :=
  match disk.find? path with
  | some .directory => true
  | _ => false

/-- Whether a path leads to a file. -/
def isFile (disk : Disk) (path : String) : Bool :=
  match disk.find? path with
  | some (.file _) => true
  | _ => false

/-- The content of a file. -/
def read (disk : Disk) (path : String) : Except AccessFault ByteArray :=
  match disk.locate path with
  | .error fault => .error fault
  | .ok location =>
    match disk.node? location with
    | none => .error .notFound
    | some .directory => .error .isDirectory
    | some (.file content) => .ok content

/-- The content of a file that is text. -/
def readText (disk : Disk) (path : String) : Except AccessFault String :=
  match disk.read path with
  | .error fault => .error fault
  | .ok content =>
    match String.fromUTF8? content with
    | some text => .ok text
    | none => .error .notText

/-- The names in a directory. -/
def list (disk : Disk) (path : String) : Except AccessFault (List String) :=
  match disk.locate path with
  | .error fault => .error fault
  | .ok location =>
    match disk.node? location with
    | none => .error .notFound
    | some (.file _) => .error .notDirectory
    | some .directory => .ok (disk.names location)

/-- Gives a file a content; a file that is not there is made. -/
def write (disk : Disk) (path : String) (content : ByteArray) : Except AccessFault Disk :=
  match disk.locate path with
  | .error fault => .error fault
  | .ok location =>
    match disk.node? location with
    | some .directory => .error .isDirectory
    | _ => .ok (disk.put location (.file content))

/-- Makes a directory where nothing is. -/
def makeDirectory (disk : Disk) (path : String) : Except AccessFault Disk :=
  match disk.locate (Path.withoutEndingSlashes path) with
  | .error fault => .error fault
  | .ok location =>
    match disk.node? location with
    | some _ => .error .alreadyExists
    | none => .ok (disk.put location .directory)

/-- Sees to it that there is a directory at the first of some paths. The others are the directories on the way to it,
the nearest first, and are made if they are missing. -/
def ensureDirectory (disk : Disk) : List String → Except AccessFault Unit × Disk
  | [] => (.ok (), disk)
  | path :: around =>
    if path.isEmpty then (.ok (), disk)
    else
      match disk.makeDirectory path with
      | .ok disk => (.ok (), disk)
      | .error .notFound =>
        match disk.ensureDirectory around with
        | (.error fault, disk) => (.error fault, disk)
        | (.ok (), disk) =>
          match disk.makeDirectory path with
          | .ok disk => (.ok (), disk)
          | .error fault => (if disk.isDirectory path then .ok () else .error fault, disk)
      | .error fault => (if disk.isDirectory path then .ok () else .error fault, disk)

/-- Makes a directory and those on the way to it, as far as they are missing. -/
def makeDirectories (disk : Disk) (path : String) : Except AccessFault Unit × Disk :=
  disk.ensureDirectory (path :: Path.parents path)

/-- Takes away a file, or a directory with all it holds. A path that does not end with a name is refused. -/
def remove (disk : Disk) (path : String) : Except AccessFault Disk :=
  match disk.locate path with
  | .error fault => .error fault
  | .ok location =>
    match disk.node? location with
    | none => .error .notFound
    | some _ =>
      if ["", ".", ".."].contains (Path.lastSegment (Path.withoutEndingSlashes path)) then
        .error .invalidPath
      else .ok (disk.erase location)

/-- Moves a file to another path, in place of a file that is there. -/
def moveFile (disk : Disk) (source target : String) : Except AccessFault Disk :=
  let place := Path.withoutEndingSlashes target
  match disk.locate source, disk.locate place with
  | .error fault, _ => .error fault
  | .ok _, .error fault => .error fault
  | .ok start, .ok location =>
    match disk.node? start with
    | some (.file content) =>
      if ["", ".", ".."].contains (Path.lastSegment place) then .error .busy
      else if place ≠ target then .error .notDirectory
      else
        match disk.node? location with
        | some .directory => .error .isDirectory
        | _ => .ok ((disk.erase start).put location (.file content))
    | some .directory => .error .isDirectory
    | none => .error .notFound

/-- Writes a file and makes the directories on the way to it, as far as they are missing. -/
def deposit (disk : Disk) (path : String) (content : ByteArray) : Except MigrationError Unit × Disk :=
  match Path.parent? path with
  | none => finish disk
  | some parent =>
    match disk.makeDirectories parent with
    | (.error fault, disk) => (.error (.access parent fault), disk)
    | (.ok (), disk) => finish disk
where
  /-- Writes the file itself. -/
  finish (disk : Disk) : Except MigrationError Unit × Disk :=
    match disk.write path content with
    | .ok disk => (.ok (), disk)
    | .error fault => (.error (.access path fault), disk)

end Disk

end SafeMigration
