import SafeMigration.Cli.Run

/-!
The program. What a run looks at is read from the disk first; then the command runs, and what it has changed is written
back.
-/

namespace SafeMigration.Cli

/-- The path of a location. -/
def pathOf (location : Location) : String := "/" ++ "/".intercalate location.reverse

/-- Notes what is at a location. -/
def note (disk : Disk) (location : Location) : IO Disk := do
  let path := (← IO.currentDir) / pathOf location
  if ← path.isDir then return disk.put location .directory
  else if ← path.pathExists then return disk.put location (.file (← IO.FS.readBinFile path))
  else return disk

/-- Notes what is at a path and on the way to it. -/
def notePath (disk : Disk) (path : String) : IO Disk := do
  let mut here := if Path.isAbsolute path then [] else disk.home
  let mut disk := disk
  for name in Path.segments path do
    here := Location.step here name
    disk ← note disk here
  return disk

/-- Notes what a directory holds. -/
def noteEntries (disk : Disk) (path : String) : IO Disk := do
  let mut disk := disk
  for entry in ← ((← IO.currentDir) / path).readDir do
    disk ← notePath disk (Path.join path entry.fileName)
  return disk

/-- Notes all that a run looks at. -/
def survey (invocation : Invocation) (disk : Disk) : IO Disk := do
  let mut disk ← notePath disk invocation.config
  match Config.load invocation.config disk with
  | .error _ => return disk
  | .ok loaded =>
    let config := Run.settings invocation loaded
    disk ← notePath disk config.lockfile
    for path in invocation.command.paths do
      disk ← notePath disk path
      if disk.isDirectory path then disk ← noteEntries disk path
    match Discovery.discover disk invocation.command.paths with
    | .error _ => return disk
    | .ok sources =>
      for source in sources do
        disk ← notePath disk
          (({ config := config } : Compiler).outputPath source invocation.command.database)
      return disk

/-- Whether a node has come to be what it was not before. -/
def hasChanged : Option Node → Node → Bool
  | some .directory, .directory => false
  | some (.file old), .file new => old.data != new.data
  | _, _ => true

/-- Writes back what has changed. A file is written beside its place first. -/
def writeBack (before after : Disk) : IO Unit := do
  for (location, node) in after.nodes.reverse do
    if hasChanged (before.node? location) node then
      match node with
      | .directory => IO.FS.createDirAll (pathOf location)
      | .file content =>
        let beside := pathOf location ++ "." ++ after.process ++ ".new"
        IO.FS.writeBinFile beside content
        IO.FS.rename beside (pathOf location)
  for (location, node) in before.nodes do
    match node, after.node? location with
    | .file _, none => IO.FS.removeFile (pathOf location)
    | _, _ => pure ()

/-- The environment variables that count. -/
def environment : IO (List (String × String)) := do
  let names := ["config", "output-dir", "lockfile", "database"].filterMap Invocation.environmentName?
  let found ← names.mapM fun name => do return (← IO.getEnv name).map fun value => (name, value)
  return found.filterMap id

/-- The disk with the way to the working directory. -/
def start : IO Disk := do
  let home := ((Path.segments (toString (← IO.currentDir))).filter (· ≠ "")).reverse
  let process := toString (← IO.monoNanosNow)
  let ways := (List.range home.length).map fun n => home.drop n
  return ⟨ways.map fun location => (location, .directory), home, process⟩

end SafeMigration.Cli

/-- Runs the command line. -/
def main (arguments : List String) : IO UInt32 := do
  let environment ← SafeMigration.Cli.environment
  let empty ← SafeMigration.Cli.start
  let disk ← match SafeMigration.Cli.Invocation.read arguments environment with
    | .error _ => pure empty
    | .ok invocation => SafeMigration.Cli.survey invocation empty
  let (output, changed) := SafeMigration.Cli.run arguments environment disk
  SafeMigration.Cli.writeBack disk changed
  IO.print output.stdout
  IO.eprint output.stderr
  return output.status.toUInt32
