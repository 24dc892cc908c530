import SafeMigration.Disk.Access
import SafeMigration.Lockfile.Ledger

/-!
The file that remembers compiled files.

Its ledger is read when it is first asked for, and known from then on; a reading that fails is not kept. Saving writes
the ledger to another file beside it, which then takes its place.
-/

namespace SafeMigration

/-- A lockfile: where it is, and what it holds as far as that is known. -/
structure Lockfile where
  path : String
  known : Option Ledger := none

namespace Lockfile

/-- Reads the ledger at a path; without a file it is empty. -/
def read (path : String) (disk : Disk) : Except MigrationError Ledger :=
  if disk.holds path then
    match disk.readText path with
    | .error fault => .error (.access path fault)
    | .ok text => (Ledger.ofText text).mapError (MigrationError.lockfile path)
  else .ok []

/-- The ledger, read now unless it is known. -/
def entries (lockfile : Lockfile) (disk : Disk) : Except MigrationError Ledger :=
  match lockfile.known with
  | some ledger => .ok ledger
  | none => read lockfile.path disk

/-- The lockfile with its ledger known, if that can be read. -/
def asked (lockfile : Lockfile) (disk : Disk) : Lockfile :=
  { lockfile with known := (lockfile.entries disk).toOption }

/-- The record under a key. -/
def get? (lockfile : Lockfile) (disk : Disk) (key : String) : Except MigrationError (Option DigestRecord) :=
  (lockfile.entries disk).map fun ledger => Entries.get? ledger key

/-- Puts a record under a key, in place of one that is there. -/
def record (lockfile : Lockfile) (disk : Disk) (key : String) (record : DigestRecord) :
    Except MigrationError Lockfile :=
  (lockfile.entries disk).map fun ledger =>
    { lockfile with known := some (Entries.put ledger key record) }

/-- The file beside the lockfile that is written first. -/
def temporaryPath (lockfile : Lockfile) (process : String) : String :=
  Path.withFileName lockfile.path
    ((Path.fileName? lockfile.path).getD "" ++ "." ++ process ++ ".tmp")

/-- Writes a ledger to a temporary file. -/
def writeTemporary (lockfile : Lockfile) (ledger : Ledger) (disk : Disk) :
    Except MigrationError Unit × Disk :=
  let temporary := lockfile.temporaryPath disk.process
  match disk.makeDirectories ((Path.parent? lockfile.path).getD "") with
  | (.error fault, disk) => (.error (.access ((Path.parent? lockfile.path).getD "") fault), disk)
  | (.ok (), disk) =>
    match disk.write temporary ledger.text.toUTF8 with
    | .error fault => (.error (.access temporary fault), disk)
    | .ok disk => (.ok (), disk)

/-- Moves the temporary file to the place of the lockfile, or takes it away if that fails. -/
def replace (lockfile : Lockfile) (disk : Disk) : Except MigrationError Unit × Disk :=
  let temporary := lockfile.temporaryPath disk.process
  match disk.moveFile temporary lockfile.path with
  | .ok disk => (.ok (), disk)
  | .error fault =>
    (.error (.access lockfile.path fault), (disk.remove temporary).toOption.getD disk)

/-- Writes the ledger to the disk. -/
def save (lockfile : Lockfile) (disk : Disk) : Except MigrationError Unit × Disk :=
  match lockfile.entries disk with
  | .error e => (.error e, disk)
  | .ok ledger =>
    match lockfile.writeTemporary ledger disk with
    | (.error e, disk) => (.error e, disk)
    | (.ok (), disk) => lockfile.replace disk

end Lockfile

end SafeMigration
