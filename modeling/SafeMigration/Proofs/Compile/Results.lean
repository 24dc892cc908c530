import SafeMigration.Compile.Compiler
import SafeMigration.Proofs.Failure
import SafeMigration.Proofs.Lockfile.ReadBack
import SafeMigration.Proofs.Migration
import SafeMigration.Proofs.Path

/-!
What compiling gives for each source of a list.

A source is written out anew unless it is remembered with its present digest and has an output. What it is then written
out to depends on its content, on the database and on what it is called in reports. Of the sources with one output none
is compiled, so the compiled files of a list differ in their outputs, and with them in their keys.
-/

namespace SafeMigration

namespace FileStatus

/-- A source that is to be written out: it is not remembered, its output is not there, or it has changed. -/
def Due (record : Option DigestRecord) (source : Digest) (output : String) (disk : Disk) : Prop :=
  ∀ known, record = some known → disk.holds output = true → known.source ≠ source

theorem detect_of_due {record : Option DigestRecord} {source : Digest} {output : String} {disk : Disk}
    (due : Due record source output disk) :
    ∃ status, detect record source output disk = .ok status ∧ status.needsCompile = true := by
  cases record with
  | none => exact ⟨neverCompiled, rfl, rfl⟩
  | some known =>
    cases held : disk.holds output with
    | false => exact ⟨missingOutput, by simp [detect, held], rfl⟩
    | true => exact ⟨stale, by simp [detect, held, due known rfl held], rfl⟩

/-- The output of a source that is not due is looked at. -/
theorem detect_of_known {known : DigestRecord} {source : Digest} {output : String} {disk : Disk}
    (held : disk.holds output = true) (same : known.source = source) :
    detect (some known) source output disk =
      match disk.read output with
      | .error fault => .error (.access output fault)
      | .ok content => .ok (ofOutput known.compiled content) := by
  cases read : disk.read output <;> simp [detect, held, same, read]

theorem ofOutput_toUTF8 (expected : Digest) (body : String) : ofOutput expected body.toUTF8 =
    if expected = Digest.ofText body then upToDate body else tampered expected (Digest.ofText body) := by
  simp only [ofOutput, Text.fromUTF8?_toUTF8]
  rfl

/-- An output is what was written, or it counts as changed. -/
theorem ofOutput_cases (expected : Digest) (content : ByteArray) :
    (∃ body : String, content = body.toUTF8 ∧ expected = Digest.ofText body) ∨
      ofOutput expected content = tampered expected (Digest.of content) := by
  unfold ofOutput
  cases decoded : String.fromUTF8? content with
  | none => exact .inr rfl
  | some body =>
    have bytes := Text.toUTF8_of_fromUTF8? decoded
    by_cases same : expected = Digest.of content
    · exact .inl ⟨body, bytes.symm, by rw [same, ← bytes, Digest.ofText]⟩
    · exact .inr (by simp [same])

end FileStatus

namespace Ledger

theorem key_injective {database other : Option String} {file file' : String} (plain : '/' ∉ file.toList)
    (plain' : '/' ∉ file'.toList) (same : key file database = key file' other) : file = file' ∧ database = other := by
  -- A file behind a slash is where the key has its last slash.
  have last : ∀ (before before' cs cs' : List Char), '/' ∉ cs → '/' ∉ cs' →
      before ++ '/' :: cs = before' ++ '/' :: cs' → before = before' ∧ cs = cs' := by
    intro before before' cs cs' none none' same
    rcases List.append_eq_append_iff.mp same with ⟨more, rfl, tail⟩ | ⟨more, rfl, tail⟩
    · cases more with
      | nil => simpa using tail
      | cons c more => exact absurd (by simp_all) none
    · cases more with
      | nil => simpa [eq_comm] using tail
      | cons c more => exact absurd (by simp_all) none'
  cases database with
  | none =>
    cases other with
    | none => exact ⟨same, rfl⟩
    | some other =>
      have inside : '/' ∈ file.toList := by
        rw [show file = _ from same]
        simp [key]
      exact absurd inside plain
  | some database =>
    cases other with
    | none =>
      have inside : '/' ∈ file'.toList := by
        rw [show file' = _ from same.symm]
        simp [key]
      exact absurd inside plain'
    | some other =>
      have texts := congrArg String.toList same
      simp only [key, String.toList_append] at texts
      obtain ⟨databases, files⟩ := last database.toList other.toList file.toList file'.toList plain plain'
        (by simpa using texts)
      exact ⟨String.toList_inj.mp files, by rw [String.toList_inj.mp databases]⟩

theorem key_left_cancel {database : Option String} {file file' : String}
    (same : key file database = key file' database) : file = file' := by
  cases database with
  | none => exact same
  | some database =>
    have texts := congrArg String.toList same
    simp only [key, String.toList_append] at texts
    exact String.toList_inj.mp (List.append_cancel_left texts)

end Ledger

namespace Compiler

variable {compiler : Compiler} {path other : String} {database : Option String} {content : ByteArray}
  {ledger : Ledger} {disk : Disk} {file : CompiledFile}

theorem outputPath_of_label (same : Path.label path = Path.label other) :
    compiler.outputPath path database = compiler.outputPath other database := by
  simp only [outputPath, Path.stem_of_label same]

theorem readSource_of_read (success : disk.read path = .ok content) : readSource path disk = .ok content := by
  rw [readSource, success]
  rfl

/-- A source that cannot be read is reported as such, whatever is remembered. -/
theorem compileFile_of_unread {fault : AccessFault} (failed : disk.read path = .error fault) :
    compiler.compileFile path database ledger disk = .error (.access path fault) := by
  have unread : readSource path disk = .error (.access path fault) := by
    rw [readSource, failed]
    rfl
  simp only [compileFile, inspect, unread]
  rfl

/-- A source that was read is compiled by its status. -/
theorem compileFile_of_read (success : disk.read path = .ok content) :
    compiler.compileFile path database ledger disk =
      match FileStatus.detect (Entries.get? ledger (Ledger.key (Path.label path) database)) (Digest.of content)
        (compiler.outputPath path database) disk with
      | .error e => .error e
      | .ok (.upToDate body) => compiler.reuse path database content body
      | .ok (.tampered expected actual) =>
        .error (.integrity (Path.label path) (compiler.outputPath path database) expected actual)
      | .ok _ => compiler.rebuild path database content := by
  simp only [compileFile, inspect, readSource_of_read success, bind, Except.bind]
  generalize FileStatus.detect _ _ _ _ = found
  rcases found with e | status
  · rfl
  · cases status <;> rfl

theorem compileFile_of_due (success : disk.read path = .ok content)
    (due : FileStatus.Due (Entries.get? ledger (Ledger.key (Path.label path) database)) (Digest.of content)
      (compiler.outputPath path database) disk) :
    compiler.compileFile path database ledger disk = compiler.rebuild path database content := by
  obtain ⟨status, detected, needs⟩ := FileStatus.detect_of_due due
  rw [compileFile_of_read success, detected]
  cases status <;> first | rfl | cases needs

/-- A source that is remembered as it is and has an output. -/
structure Known (compiler : Compiler) (path : String) (database : Option String) (ledger : Ledger) (disk : Disk)
    (content : ByteArray) (known : DigestRecord) : Prop where
  source : disk.read path = .ok content
  remembered : Entries.get? ledger (Ledger.key (Path.label path) database) = some known
  held : disk.holds (compiler.outputPath path database) = true
  same : known.source = Digest.of content

theorem due_or_known (compiler : Compiler) (database : Option String) (ledger : Ledger)
    (success : disk.read path = .ok content) :
    FileStatus.Due (Entries.get? ledger (Ledger.key (Path.label path) database)) (Digest.of content)
        (compiler.outputPath path database) disk ∨
      ∃ known, Known compiler path database ledger disk content known := by
  by_cases due : FileStatus.Due (Entries.get? ledger (Ledger.key (Path.label path) database)) (Digest.of content)
      (compiler.outputPath path database) disk
  · exact .inl due
  · simp only [FileStatus.Due, not_forall, not_not] at due
    obtain ⟨known, remembered, held, same⟩ := due
    exact .inr ⟨known, success, remembered, held, same⟩

namespace Known

variable {known : DigestRecord} {output : ByteArray} {body : String}

theorem detect (isKnown : Known compiler path database ledger disk content known) :
    FileStatus.detect (Entries.get? ledger (Ledger.key (Path.label path) database)) (Digest.of content)
        (compiler.outputPath path database) disk =
      match disk.read (compiler.outputPath path database) with
      | .error fault => .error (.access (compiler.outputPath path database) fault)
      | .ok output => .ok (FileStatus.ofOutput known.compiled output) := by
  rw [isKnown.remembered, FileStatus.detect_of_known isKnown.held isKnown.same]

/-- An output that cannot be read is reported. -/
theorem blocked (isKnown : Known compiler path database ledger disk content known) {fault : AccessFault}
    (failed : disk.read (compiler.outputPath path database) = .error fault) :
    compiler.compileFile path database ledger disk = .error (.access (compiler.outputPath path database) fault) := by
  rw [compileFile_of_read isKnown.source, isKnown.detect, failed]

/-- An output that is as it was written is kept. -/
theorem kept (isKnown : Known compiler path database ledger disk content known)
    (read : disk.read (compiler.outputPath path database) = .ok body.toUTF8)
    (written : known.compiled = Digest.ofText body) :
    compiler.compileFile path database ledger disk = compiler.reuse path database content body := by
  rw [compileFile_of_read isKnown.source, isKnown.detect, read]
  simp only [written, FileStatus.ofOutput_toUTF8, if_true]

/-- An output that is not as it was written is reported, and left alone. -/
theorem changed (isKnown : Known compiler path database ledger disk content known)
    (read : disk.read (compiler.outputPath path database) = .ok output)
    (tampered : FileStatus.ofOutput known.compiled output = .tampered known.compiled (Digest.of output)) :
    compiler.compileFile path database ledger disk =
      .error (.integrity (Path.label path) (compiler.outputPath path database) known.compiled (Digest.of output)) := by
  rw [compileFile_of_read isKnown.source, isKnown.detect, read]
  simp only [tampered]

end Known

/-- A source is written out when it is a migration for the database, nothing is wrong with it, and it can be
rendered. -/
theorem rebuild_eq_ok_iff :
    compiler.rebuild path database content = .ok file ↔ ∃ migration valid body,
      Migration.ofBytes content path compiler.registry = .ok migration ∧
        requireDatabase migration (Path.label path) database = .ok () ∧
        (migration.validated compiler.config.timeouts {}).1 = .ok valid ∧ compiler.renderer.render valid = .ok body ∧
        file = compiler.fileWith path database content body valid.capabilities .compiled := by
  simp only [rebuild, bind_eq_ok_iff, pure, Except.pure, Except.ok.injEq]
  constructor
  · rintro ⟨migration, parsed, _, allowed, valid, validated, body, rendered, rfl⟩
    exact ⟨migration, valid, body, parsed, allowed, validated, rendered, rfl⟩
  · rintro ⟨migration, valid, body, parsed, allowed, validated, rendered, rfl⟩
    exact ⟨migration, parsed, (), allowed, valid, validated, body, rendered, rfl⟩

theorem reuse_eq_ok_iff {body : String} :
    compiler.reuse path database content body = .ok file ↔ ∃ migration capabilities,
      Migration.ofBytes content path compiler.registry = .ok migration ∧
        (migration.capabilities {}).1 = .ok capabilities ∧
        file = compiler.fileWith path database content body capabilities .unchanged := by
  simp only [reuse, bind_eq_ok_iff, pure, Except.pure, Except.ok.injEq]
  constructor
  · rintro ⟨migration, parsed, capabilities, recorded, rfl⟩
    exact ⟨migration, capabilities, parsed, recorded, rfl⟩
  · rintro ⟨migration, capabilities, parsed, recorded, rfl⟩
    exact ⟨migration, parsed, capabilities, recorded, rfl⟩

/-- The migration in a file depends on the path by what the file is called alone. -/
theorem ofBytes_of_label (same : Path.label path = Path.label other) {migration : Migration} {registry : Registry}
    (parsed : Migration.ofBytes content path registry = .ok migration) :
    Migration.ofBytes content other registry = .ok migration := by
  simp only [Migration.ofBytes, MigrationSource.ofBytes, Path.stem_of_label same] at parsed ⊢
  cases read : Yaml.ofBytes MigrationSource.read content with
  | error fault =>
    rw [read] at parsed
    cases parsed
  | ok source =>
    rw [read] at parsed
    exact parsed

/-- What a source is written out to depends on its content, on the database and on what it is called. -/
theorem rebuild_of_label (same : Path.label path = Path.label other)
    (success : compiler.rebuild path database content = .ok file) :
    compiler.rebuild other database content =
      .ok (compiler.fileWith other database content file.body file.capabilities .compiled) := by
  obtain ⟨migration, valid, body, parsed, allowed, validated, rendered, rfl⟩ := rebuild_eq_ok_iff.mp success
  rw [same] at allowed
  exact rebuild_eq_ok_iff.mpr
    ⟨migration, valid, body, ofBytes_of_label same parsed, allowed, validated, rendered, rfl⟩

theorem eq_of_rebuild (success : compiler.rebuild path database content = .ok file) :
    file = compiler.fileWith path database content file.body file.capabilities .compiled := by
  obtain ⟨_, _, _, _, _, _, _, rfl⟩ := rebuild_eq_ok_iff.mp success
  rfl

theorem eq_of_reuse {body : String} (success : compiler.reuse path database content body = .ok file) :
    file = compiler.fileWith path database content body file.capabilities .unchanged := by
  obtain ⟨_, _, _, _, rfl⟩ := reuse_eq_ok_iff.mp success
  rfl

/-- A source that was written out needs the same when its output is kept. -/
theorem reuse_of_rebuild (success : compiler.rebuild path database content = .ok file) (body : String) :
    compiler.reuse path database content body =
      .ok (compiler.fileWith path database content body file.capabilities .unchanged) := by
  obtain ⟨migration, valid, _, parsed, _, validated, _, rfl⟩ := rebuild_eq_ok_iff.mp success
  exact reuse_eq_ok_iff.mpr ⟨migration, _, parsed, Migration.capabilities_of_validated validated, rfl⟩

end Compiler

end SafeMigration
