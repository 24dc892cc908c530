import SafeMigration.Compile.Compiler

/-!
Writing the compiled files of a report to the disk, and remembering their digests.

Outputs are written one by one; the lockfile is saved once, after the last of them. When a step fails the files
written before stay, and so do the records in memory.
-/

namespace SafeMigration

namespace CompiledFile

/-- What is remembered of a compiled file. -/
def record (file : CompiledFile) : DigestRecord := ⟨file.sourceDigest, file.compiledDigest, file.database⟩

/-- Writes the output of a file if it is new. -/
def write (file : CompiledFile) (disk : Disk) : Except MigrationError Unit × Disk :=
  match file.outcome with
  | .compiled => disk.deposit file.outputPath file.body.toUTF8
  | .unchanged => (.ok (), disk)

end CompiledFile

/-- What a commit changes. -/
structure Commit where
  disk : Disk
  lockfile : Lockfile
  /-- How many outputs have been written. -/
  written : Nat := 0

namespace Commit

/-- Writes one file and remembers it. -/
def add (state : Commit) (file : CompiledFile) : Except MigrationError Unit × Commit :=
  match file.write state.disk with
  | (.error e, disk) => (.error e, { state with disk := disk })
  | (.ok (), disk) =>
    let written := match file.outcome with
      | .compiled => state.written + 1
      | .unchanged => state.written
    match state.lockfile.record disk file.key file.record with
    | .error e => (.error e, { state with disk := disk, written := written })
    | .ok lockfile => (.ok (), ⟨disk, lockfile, written⟩)

/-- Writes and remembers files in order, up to the first that fails. -/
def addAll (state : Commit) : List CompiledFile → Except MigrationError Unit × Commit
  | [] => (.ok (), state)
  | file :: files =>
    match state.add file with
    | (.error e, state) => (.error e, state)
    | (.ok (), state) => state.addAll files

/-- Saves the lockfile. -/
def save (state : Commit) : Except MigrationError Unit × Commit :=
  match state.lockfile.save state.disk with
  | (.error e, disk) => (.error e, { state with disk := disk, lockfile := state.lockfile.asked state.disk })
  | (.ok (), disk) => (.ok (), { state with disk := disk, lockfile := state.lockfile.asked state.disk })

/-- Writes all compiled files of a report and saves the lockfile. -/
def ofReport (report : Report) (lockfile : Lockfile) (disk : Disk) : Except MigrationError Unit × Commit :=
  match ({ disk := disk, lockfile := lockfile } : Commit).addAll report.compiled with
  | (.error e, state) => (.error e, state)
  | (.ok (), state) => state.save

end Commit

end SafeMigration
