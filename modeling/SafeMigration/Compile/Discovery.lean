import SafeMigration.Disk.Access

/-!
Finding sources.

A path that is no directory stands for itself, whether there is a file or not. A directory stands for the sources that
lie directly in it, in the order of their names.
-/

namespace SafeMigration.Discovery

/-- The endings of the names of sources. -/
def endings : List String := ["yml", "yaml"]

/-- Whether a path has the name of a source. -/
def isSource (path : String) : Bool := (Path.extension? path).any endings.contains

/-- The sources in a directory. -/
def sourcesIn (disk : Disk) (path : String) : Except MigrationError (List String) :=
  match disk.list path with
  | .error fault => .error (.access path fault)
  | .ok names =>
    .ok ((names.map (Path.join path)).filter fun candidate => disk.isFile candidate && isSource candidate)

/-- The sources that a path stands for. -/
def sourcesAt (disk : Disk) (path : String) : Except MigrationError (List String) :=
  if disk.isDirectory path then sourcesIn disk path else .ok [path]

/-- The sources that some paths stand for. -/
def discover (disk : Disk) (paths : List String) : Except MigrationError (List String) :=
  (paths.mapM (sourcesAt disk)).map List.flatten

end SafeMigration.Discovery
