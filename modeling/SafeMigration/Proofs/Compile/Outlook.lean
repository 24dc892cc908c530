import SafeMigration.Proofs.Compile.Claimants
import SafeMigration.Proofs.Compile.Prediction
import SafeMigration.Proofs.Requests
import SafeMigration.Proofs.Validation.Report

/-!
What the status of a source tells of its compilation.

The status of a source and its compilation go by the same digests. So the status says which of three things compiling
the source does: it refuses an output that was changed, it keeps the output that is there, or it goes about the source
as if nothing were remembered of it. The output is kept without anything being written out, and whoever gets a file with
its output kept, or sees a direction fail that could be read but not be recorded, can tell that the source was up to
date.
-/

namespace SafeMigration

namespace FileStatus

variable {expected : Digest} {content : ByteArray} {body : String}

/-- An output counts as it was written if it is a text with the digest that is remembered. -/
theorem ofOutput_eq_upToDate_iff :
    ofOutput expected content = upToDate body ↔ content = body.toUTF8 ∧ expected = Digest.ofText body := by
  constructor
  · intro same
    rcases ofOutput_cases expected content with ⟨written, rfl, digest⟩ | changed
    · rw [ofOutput_toUTF8, if_pos digest] at same
      cases same
      exact ⟨rfl, digest⟩
    · cases changed.symm.trans same
  · rintro ⟨rfl, digest⟩
    rw [ofOutput_toUTF8, if_pos digest]

end FileStatus

namespace MigrationSource

variable {source : MigrationSource} {defaultName : String} {registry : Registry} {session : Session} {e : MigrationError}

/-- A direction of a document fails when it has no calls, or by one of them. -/
theorem isOfRecording_of_outcome (asked : (source.migration defaultName registry).Asked session) {direction : Direction}
    (failed : (source.migration defaultName registry).outcome session direction = .error e) :
    e.isOfRecording = true := by
  unfold Migration.outcome at failed
  cases given : source.calls? direction with
  | none =>
    rw [instructions_of_no_calls asked given] at failed
    cases failed
    rfl
  | some calls =>
    rw [instructions_of_calls asked given, Recorder.ofCalls_eq_mapM] at failed
    cases recorded : calls.mapM (Call.instruction registry) with
    | ok instructions =>
      rw [recorded] at failed
      cases failed
    | error fault =>
      rw [recorded] at failed
      cases failed
      obtain ⟨_, call, _, _, -, -, culprit⟩ := mapM_eq_error_iff.mp recorded
      exact Call.isOfRecording_of_instruction culprit

theorem isOfRecording_of_capabilities (asked : (source.migration defaultName registry).Asked session)
    (failed : ((source.migration defaultName registry).capabilities session).1 = .error e) :
    e.isOfRecording = true := by
  rw [Migration.capabilities_fst] at failed
  rcases bind_eq_error_iff.mp failed with up | ⟨_, -, later⟩
  · exact isOfRecording_of_outcome asked up
  · rcases bind_eq_error_iff.mp later with down | ⟨_, -, done⟩
    · exact isOfRecording_of_outcome asked down
    · cases done

end MigrationSource

/-- A migration that is not handed on is rejected. -/
theorem Migration.rejected_of_validated {migration : Migration} {config : TimeoutConfig} {session : Session}
    {e : MigrationError} (failed : (migration.validated config session).1 = .error e) :
    e = .rejected migration.name (migration.validate config session).1 := by
  cases required : requireSafe migration.name (migration.validate config session).1 with
  | ok _ =>
    obtain ⟨valid, handed⟩ := exists_validated (requireSafe_eq_ok_iff.mp required)
    cases handed.symm.trans failed
  | error refused =>
    obtain ⟨unhanded, rejected⟩ := validated_of_unsafe required
    cases unhanded.symm.trans failed
    exact rejected

namespace Compiler

variable {compiler : Compiler} {sources : List String} {path : String} {database : Option String} {ledger : Ledger}
  {disk : Disk} {content : ByteArray} {migration : Migration} {lockfile : Lockfile} {index : Nat} {e : MigrationError}

/-- A migration of which a direction cannot be recorded is not written out, and what is reported of that is not the
error of this direction. -/
theorem rebuild_ne_of_unrecorded (parsed : Migration.ofBytes content path compiler.registry = .ok migration)
    (unrecorded : (migration.capabilities {}).1 = .error e) : compiler.rebuild path database content ≠ .error e := by
  obtain ⟨source, -, rfl⟩ := map_eq_ok_iff.mp parsed
  have recording := MigrationSource.isOfRecording_of_capabilities .nothing unrecorded
  intro failed
  simp only [rebuild, parsed, bind_eq_error_iff] at failed
  rcases failed with unparsed | ⟨_, same, refused | ⟨_, -, invalid | ⟨valid, handed, -⟩⟩⟩
  · cases unparsed
  · cases same
    unfold requireDatabase at refused
    split at refused
    · split at refused
      · cases refused
      · cases refused
        cases recording
    · cases refused
  · cases same
    rw [Migration.rejected_of_validated invalid] at recording
    cases recording
  · cases same
    cases (Migration.capabilities_of_validated handed).symm.trans unrecorded

/-- A list of sources is compiled, and the source at an index has this result. -/
def Gives (compiler : Compiler) (sources : List String) (database : Option String) (lockfile : Lockfile) (disk : Disk)
    (index : Nat) (path : String) (result : Except MigrationError CompiledFile) : Prop :=
  ∃ report, compiler.compile sources database lockfile disk = .ok report ∧
    report.files[index]? = some (result.mapError (FileFailure.mk (Path.label path) path))

theorem gives_of_alone (compiler : Compiler) (entries : lockfile.entries disk = .ok ledger)
    (listed : sources[index]? = some path) (alone : compiler.Alone sources database path) :
    compiler.Gives sources database lockfile disk index path (compiler.compileFile path database ledger disk) :=
  ⟨_, compile_eq_ok_iff.mpr ⟨ledger, entries, rfl⟩, getElem?_files_of_alone ledger disk listed alone⟩

/-- A source is compiled by keeping its output: it is remembered with the digests of its content and of its output, and
is read and recorded, while nothing is written out anew. -/
structure Keeps (compiler : Compiler) (sources : List String) (database : Option String) (lockfile : Lockfile)
    (ledger : Ledger) (disk : Disk) (index : Nat) (path body : String) (content : ByteArray) (record : DigestRecord) :
    Prop where
  known : Known compiler path database ledger disk content record
  output : disk.read (compiler.outputPath path database) = .ok body.toUTF8
  written : record.compiled = Digest.ofText body
  /-- With whatever renderer, the result has the output that is there and the digest that is remembered, or is the error
  of reading the migration or of recording it. -/
  result : ∀ render, (compiler.rendering render).Gives sources database lockfile disk index path do
    let migration ← compiler.migrationAt path disk
    let capabilities ← (migration.capabilities {}).1
    return { compiler.fileWith path database content body capabilities .unchanged with
      compiledDigest := record.compiled }

/-- What the status of a source tells of what compiling the source gives. -/
structure Foreseen (compiler : Compiler) (sources : List String) (database : Option String) (lockfile : Lockfile)
    (ledger : Ledger) (disk : Disk) (index : Nat) (path : String) (status : FileStatus)
    (result : Except MigrationError CompiledFile) : Prop where
  /-- A source that is tampered with fails for that, with whatever renderer. -/
  tampered : ∀ expected actual, status = .tampered expected actual → ∀ render,
    (compiler.rendering render).Gives sources database lockfile disk index path
      (.error (.integrity (Path.label path) (compiler.outputPath path database) expected actual))
  /-- No other source fails for that, unless this is what the renderer reports. -/
  blamed : ∀ file output expected actual, result = .error (.integrity file output expected actual) →
    (status = .tampered expected actual ∧ file = Path.label path ∧ output = compiler.outputPath path database) ∨
      ∃ valid, compiler.renderer.render valid = .error (.integrity file output expected actual)
  /-- A source is up to date exactly if its output is kept. -/
  upToDate : ∀ body, status = .upToDate body ↔
    ∃ content record, compiler.Keeps sources database lockfile ledger disk index path body content record
  /-- This can be told from a file whose output is kept. -/
  unchanged : ∀ file, result = .ok file → file.outcome = .unchanged → status = .upToDate file.body
  /-- It can be told as well from the error of a direction, where the migration can be read. -/
  unrecorded : ∀ migration e, compiler.migrationAt path disk = .ok migration →
    (migration.capabilities {}).1 = .error e → result = .error e → ∃ body, status = .upToDate body
  /-- Any other source is compiled as if nothing were remembered. -/
  anew : status.needsCompile = true → ∀ empty : Lockfile, empty.entries disk = .ok [] →
    compiler.Gives sources database empty disk index path result

/-- A source that is up to date is known, and so is its output. -/
theorem detect_eq_upToDate_iff {body : String} (read : disk.read path = .ok content) :
    FileStatus.detect (Entries.get? ledger (Ledger.key (Path.label path) database)) (Digest.of content)
        (compiler.outputPath path database) disk = .ok (.upToDate body) ↔
      ∃ record, Known compiler path database ledger disk content record ∧
        disk.read (compiler.outputPath path database) = .ok body.toUTF8 ∧ record.compiled = Digest.ofText body := by
  constructor
  · intro detected
    rcases due_or_known compiler database ledger read with due | ⟨record, known⟩
    · obtain ⟨status, found, needs⟩ := FileStatus.detect_of_due due
      cases found.symm.trans detected
      cases needs
    · rw [known.detect] at detected
      cases output : disk.read (compiler.outputPath path database) with
      | error fault =>
        rw [output] at detected
        cases detected
      | ok bytes =>
        rw [output] at detected
        obtain ⟨rfl, written⟩ := FileStatus.ofOutput_eq_upToDate_iff.mp (Except.ok.inj detected)
        exact ⟨record, known, rfl, written⟩
  · rintro ⟨record, known, output, written⟩
    rw [known.detect, output]
    exact congrArg Except.ok (FileStatus.ofOutput_eq_upToDate_iff.mpr ⟨rfl, written⟩)

/-- A file with an output that is kept has the digest that is remembered. -/
theorem reuse_eq {body : String} {record : DigestRecord} (read : disk.read path = .ok content)
    (written : record.compiled = Digest.ofText body) :
    compiler.reuse path database content body = do
      let migration ← compiler.migrationAt path disk
      let capabilities ← (migration.capabilities {}).1
      return { compiler.fileWith path database content body capabilities .unchanged with
        compiledDigest := record.compiled } := by
  rw [reuse, migrationAt_of_read read, written]
  rfl

theorem keeps_of_upToDate {body : String} (entries : lockfile.entries disk = .ok ledger)
    (listed : sources[index]? = some path) (alone : compiler.Alone sources database path)
    (read : disk.read path = .ok content)
    (detected : FileStatus.detect (Entries.get? ledger (Ledger.key (Path.label path) database)) (Digest.of content)
      (compiler.outputPath path database) disk = .ok (.upToDate body)) :
    ∃ record, compiler.Keeps sources database lockfile ledger disk index path body content record := by
  obtain ⟨record, known, output, written⟩ := (detect_eq_upToDate_iff read).mp detected
  refine ⟨record, known, output, written, fun render => ?_⟩
  have gives := gives_of_alone (compiler.rendering render) entries listed alone
  rw [(known.rendering render).kept output written, reuse_eq read written] at gives
  exact gives

theorem foreseen_of_detect {status : FileStatus} (entries : lockfile.entries disk = .ok ledger)
    (listed : sources[index]? = some path) (alone : compiler.Alone sources database path)
    (read : disk.read path = .ok content)
    (detected : FileStatus.detect (Entries.get? ledger (Ledger.key (Path.label path) database)) (Digest.of content)
      (compiler.outputPath path database) disk = .ok status) :
    compiler.Foreseen sources database lockfile ledger disk index path status
      (compiler.compileFile path database ledger disk) := by
  have compiled : compiler.compileFile path database ledger disk = _ := compileFile_of_read read
  rw [detected] at compiled
  constructor
  case tampered =>
    rintro expected actual rfl render
    have gives := gives_of_alone (compiler.rendering render) entries listed alone
    have refused : (compiler.rendering render).compileFile path database ledger disk = _ := compileFile_of_read read
    have sameFound : FileStatus.detect (Entries.get? ledger (Ledger.key (Path.label path) database)) (Digest.of content)
        ((compiler.rendering render).outputPath path database) disk = .ok (.tampered expected actual) := detected
    rw [refused, sameFound] at gives
    exact gives
  case blamed =>
    intro file output expected actual failed
    rw [compiled] at failed
    cases status with
    | tampered expected' actual' =>
      cases failed
      exact .inl ⟨rfl, rfl, rfl⟩
    | upToDate body => cases (benign_reuse ..).other _ failed
    | _ =>
      rcases error_of_rebuild failed with benign | rendered
      · cases benign
      · exact .inr rendered
  case upToDate =>
    intro body
    constructor
    · rintro rfl
      exact ⟨content, keeps_of_upToDate entries listed alone read detected⟩
    · rintro ⟨content', record, keeps⟩
      cases read.symm.trans keeps.known.source
      have found := (detect_eq_upToDate_iff read).mpr ⟨record, keeps.known, keeps.output, keeps.written⟩
      exact Except.ok.inj (detected.symm.trans found)
  case unchanged =>
    intro file success kept
    rw [compiled] at success
    cases status with
    | tampered expected actual => cases success
    | upToDate body =>
      rw [eq_of_reuse success]
      rfl
    | _ =>
      rw [eq_of_rebuild success] at kept
      cases kept
  case unrecorded =>
    intro migration e held unrecorded failed
    rw [migrationAt_of_read read] at held
    rw [compiled] at failed
    cases status with
    | tampered expected actual =>
      cases failed
      cases ((benign_of_ofBytes held).capabilities {}).other _ unrecorded
    | upToDate body => exact ⟨body, rfl⟩
    | _ => exact absurd failed (rebuild_ne_of_unrecorded held unrecorded)
  case anew =>
    intro needs empty nothing
    have gives := gives_of_alone compiler nothing listed alone
    rw [compileFile_of_empty read] at gives
    rw [compiled]
    cases status with
    | tampered expected actual => cases needs
    | upToDate body => cases needs
    | _ => exact gives

/-- The status of a source is what its digests say. -/
theorem fileStatus_of_read (entries : lockfile.entries disk = .ok ledger) (read : disk.read path = .ok content) :
    compiler.fileStatus path database lockfile disk =
      (FileStatus.detect (Entries.get? ledger (Ledger.key (Path.label path) database)) (Digest.of content)
        (compiler.outputPath path database) disk).map
          (StatusEntry.mk (Path.label path) (Ledger.key (Path.label path) database)) := by
  have remembered : lockfile.get? disk (Ledger.key (Path.label path) database) =
      .ok (Entries.get? ledger (Ledger.key (Path.label path) database)) := by
    rw [Lockfile.get?, entries]
    rfl
  rw [fileStatus, readSource_of_read read]
  simp only [bind, Except.bind, remembered]
  cases FileStatus.detect _ _ _ _ <;> rfl

theorem exists_detect_of_fileStatus {entry : StatusEntry} (entries : lockfile.entries disk = .ok ledger)
    (found : compiler.fileStatus path database lockfile disk = .ok entry) :
    ∃ content status, disk.read path = .ok content ∧
      FileStatus.detect (Entries.get? ledger (Ledger.key (Path.label path) database)) (Digest.of content)
        (compiler.outputPath path database) disk = .ok status ∧
      entry = ⟨Path.label path, Ledger.key (Path.label path) database, status⟩ := by
  cases read : disk.read path with
  | error fault =>
    rw [fileStatus, readSource, read] at found
    cases found
  | ok content =>
    rw [fileStatus_of_read entries read] at found
    obtain ⟨status, detected, rfl⟩ := map_eq_ok_iff.mp found
    exact ⟨content, status, rfl, detected, rfl⟩

/-- A known source whose output is a text is up to date or tampered with. -/
theorem Known.fileStatus {record : DigestRecord} {body : String}
    (known : Known compiler path database ledger disk content record) (entries : lockfile.entries disk = .ok ledger)
    (output : disk.read (compiler.outputPath path database) = .ok body.toUTF8) :
    compiler.fileStatus path database lockfile disk =
      .ok ⟨Path.label path, Ledger.key (Path.label path) database,
        if record.compiled = Digest.ofText body then .upToDate body
        else .tampered record.compiled (Digest.ofText body)⟩ := by
  rw [fileStatus_of_read entries known.source, known.detect, output]
  simp only [FileStatus.ofOutput_toUTF8]
  rfl

/-- If the status of each source of a list can be told by a lockfile, it tells what compiling the list with this lockfile
gives for each source that claims its output alone. Scripts for PostgreSQL are written without complaint of an output. -/
theorem status_foretells_compile (compiler : Compiler) {sources : List String} {database : Option String}
    {lockfile : Lockfile} {disk : Disk} {ledger : Ledger} {entries : List StatusEntry}
    (loadable : lockfile.entries disk = .ok ledger)
    (told : compiler.status sources database lockfile disk = .ok entries) :
    entries.length = sources.length ∧
      (∀ (index : Nat) path, sources[index]? = some path →
        (∀ i other, i ≠ index → sources[i]? = some other →
          compiler.outputPath other database ≠ compiler.outputPath path database) →
        ∃ status result,
          entries[index]? = some ⟨Path.label path, Ledger.key (Path.label path) database, status⟩ ∧
            compiler.Gives sources database lockfile disk index path result ∧
            compiler.Foreseen sources database lockfile ledger disk index path status result) ∧
      ∀ valid file output expected actual,
        Renderer.postgres.render valid ≠ .error (.integrity file output expected actual) := by
  have each := mapM_eq_ok_iff.mp told
  refine ⟨each.length_eq.symm, fun index path listed unclaimed => ?_,
    fun valid file output expected actual failed => ?_⟩
  · have alone := (alone_iff_forall listed).mpr unclaimed
    obtain ⟨inside, same⟩ := List.getElem?_eq_some_iff.mp listed
    obtain ⟨entry, there⟩ : ∃ entry, entries[index]? = some entry :=
      ⟨_, List.getElem?_eq_getElem (each.length_eq ▸ inside)⟩
    obtain ⟨inside', same'⟩ := List.getElem?_eq_some_iff.mp there
    have found := each.get inside inside'
    rw [List.get_eq_getElem, List.get_eq_getElem, same, same'] at found
    obtain ⟨content, status, read, detected, rfl⟩ := exists_detect_of_fileStatus loadable found
    exact ⟨status, _, there, gives_of_alone compiler loadable listed alone,
      foreseen_of_detect loadable listed alone read detected⟩
  · cases (benign_render valid).other _ failed

/-- Two migrations and what is said to be their outputs. -/
def twoWritten : Disk :=
  .holding [("m/x.yml", "up: []\ndown: []\n"), ("m/y.yml", "up: []\ndown: []\n"), ("compiled/x.sql", "kept"),
    ("compiled/y.sql", "edited")]

/-- A record of either migration. -/
def recordKept : DigestRecord := ⟨Digest.ofText "up: []\ndown: []\n", Digest.ofText "kept", none⟩

/-- One output is remembered of both. -/
def bothKept : Ledger := [("x.yml", recordKept), ("y.yml", recordKept)]

/-- A lockfile that holds this. -/
def handWritten : Lockfile := { path := "oxide-guard.lock", known := some bothKept }

/-- The output of the first is kept, and the second fails. -/
theorem status_foretells_compile_twoWritten :
    status {} ["m/x.yml", "m/y.yml"] none handWritten twoWritten = .ok [⟨"x.yml", "x.yml", .upToDate "kept"⟩,
        ⟨"y.yml", "y.yml", .tampered (Digest.ofText "kept") (Digest.ofText "edited")⟩] ∧
      (∃ content record,
        Keeps {} ["m/x.yml", "m/y.yml"] none handWritten bothKept twoWritten 0 "m/x.yml" "kept" content record) ∧
      Gives {} ["m/x.yml", "m/y.yml"] none handWritten twoWritten 1 "m/y.yml"
        (.error (.integrity "y.yml" "compiled/y.sql" (Digest.ofText "kept") (Digest.ofText "edited"))) := by
  have loadable : handWritten.entries twoWritten = .ok bothKept := rfl
  have written : recordKept.compiled = Digest.ofText "kept" := rfl
  have first : fileStatus {} "m/x.yml" none handWritten twoWritten = .ok ⟨"x.yml", "x.yml", .upToDate "kept"⟩ := by
    have output : twoWritten.read "compiled/x.sql" = .ok "kept".toUTF8 := by decide +kernel
    have known : Known {} "m/x.yml" none bothKept twoWritten "up: []\ndown: []\n".toUTF8 recordKept :=
      ⟨by decide +kernel, rfl, Disk.holds_of_read output, rfl⟩
    rw [known.fileStatus loadable output, if_pos written]
    rfl
  have second : fileStatus {} "m/y.yml" none handWritten twoWritten =
      .ok ⟨"y.yml", "y.yml", .tampered (Digest.ofText "kept") (Digest.ofText "edited")⟩ := by
    have output : twoWritten.read "compiled/y.sql" = .ok "edited".toUTF8 := by decide +kernel
    have known : Known {} "m/y.yml" none bothKept twoWritten "up: []\ndown: []\n".toUTF8 recordKept :=
      ⟨by decide +kernel, rfl, Disk.holds_of_read output, rfl⟩
    have different : Digest.ofText "kept" ≠ Digest.ofText "edited" := by decide +kernel
    rw [known.fileStatus loadable output, written, if_neg different]
    rfl
  have told : status {} ["m/x.yml", "m/y.yml"] none handWritten twoWritten = .ok [_, _] :=
    mapM_eq_ok_iff.mpr (.cons first (.cons second .nil))
  obtain ⟨-, foreseen, -⟩ := status_foretells_compile {} loadable told
  have alone : ∀ path ∈ ["m/x.yml", "m/y.yml"], Alone {} ["m/x.yml", "m/y.yml"] none path := by decide +kernel
  refine ⟨told, ?_, ?_⟩
  · obtain ⟨_, _, there, -, kept⟩ := foreseen 0 "m/x.yml" rfl ((alone_iff_forall rfl).mp (alone _ (by simp)))
    cases there
    exact (kept.upToDate "kept").mp rfl
  · obtain ⟨_, _, there, -, refused⟩ := foreseen 1 "m/y.yml" rfl ((alone_iff_forall rfl).mp (alone _ (by simp)))
    cases there
    exact refused.tampered _ _ rfl Renderer.postgres.render

end Compiler

end SafeMigration
