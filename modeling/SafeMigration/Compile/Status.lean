import SafeMigration.Lockfile.Basic

/-!
What is known of a source by comparing digests: whether its output has to be compiled again.

An output that is not what was written is never compiled again over, unless its source has changed too.
-/

namespace SafeMigration

/-- What is known of a source. -/
inductive FileStatus where
  /-- Source and output are as they were; the output is given. -/
  | upToDate (body : String)
  /-- The source has changed. -/
  | stale
  | neverCompiled
  /-- The output is gone. -/
  | missingOutput
  /-- The output has changed and the source has not. -/
  | tampered (expected actual : Digest)
  deriving DecidableEq, Repr

namespace FileStatus

/-- The text of a status. -/
def text : FileStatus → String
  | upToDate _ => "up to date"
  | stale => "stale"
  | neverCompiled => "never compiled"
  | missingOutput => "missing output"
  | tampered .. => "tampered"

/-- Whether the source has to be compiled again. -/
def needsCompile : FileStatus → Bool
  | stale | neverCompiled | missingOutput => true
  | upToDate _ | tampered .. => false

/-- The status of an output that is there while its source is as recorded. Bytes that are no text were not written
here, whatever their digest. -/
def ofOutput (expected : Digest) (content : ByteArray) : FileStatus :=
  let actual := Digest.of content
  match String.fromUTF8? content with
  | some body => if expected = actual then upToDate body else tampered expected actual
  | none => tampered expected actual

/-- The status of a source with a digest, by its record and its output. -/
def detect (record : Option DigestRecord) (source : Digest) (output : String) (disk : Disk) :
    Except MigrationError FileStatus :=
  match record with
  | none => .ok neverCompiled
  | some record =>
    if !disk.holds output then .ok missingOutput
    else if record.source ≠ source then .ok stale
    else
      match disk.read output with
      | .error fault => .error (.access output fault)
      | .ok content => .ok (ofOutput record.compiled content)

end FileStatus

end SafeMigration
