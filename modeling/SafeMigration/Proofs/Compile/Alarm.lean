import SafeMigration.Proofs.Compile.Errors
import SafeMigration.Proofs.Compile.History

/-!
When an output counts as changed although nobody has touched it.

Records go by what a source is called, outputs go by its name without the ending. In a history in which only commits
write outputs and the lockfile, the record of a source is that of the last file that was committed under its key, and
its output is that of the last file that was committed to its place. So a source that is as it was remembered counts
as changed exactly when another source was compiled to its place since, to something else.
-/

namespace SafeMigration

/-- What is remembered once some files were committed, the last ones first. -/
def Ledger.ofLog (log : List CompiledFile) : Ledger :=
  log.foldr (fun file ledger => Entries.put ledger file.key file.record) []

/-- The file that was committed last under a key. -/
def lastUnder (log : List CompiledFile) (key : String) : Option CompiledFile := log.find? fun file => file.key = key

/-- The file that was committed last to where a path leads. -/
def lastAt (home : Location) (log : List CompiledFile) (path : String) : Option CompiledFile :=
  log.find? fun file => Path.place home file.outputPath = Path.place home path

/-- A change of a disk that leaves the lockfile and the outputs that were committed as they are. -/
structure Disk.Respects (lockfile : String) (log : List CompiledFile) (before after : Disk) : Prop where
  home : after.home = before.home
  tree : after.IsTree
  lockfile : after.find? lockfile = before.find? lockfile
  outputs : ∀ file ∈ log, after.find? file.outputPath = before.find? file.outputPath

/-- Putting a file at a path that is apart from the lockfile and from the outputs is such a change. -/
theorem Disk.respects_of_deposit {disk : Disk} {lockfile path : String} {log : List CompiledFile} (tree : disk.IsTree)
    (others : ∀ other ∈ lockfile :: log.map CompiledFile.outputPath,
      Path.Apart disk.home path other ∧ disk.holds other = true) (content : ByteArray) :
    disk.Respects lockfile log (disk.deposit path content).2 := by
  have result := Disk.depositResult tree path content
  generalize disk.deposit path content = left at result
  suffices kept : left.2.home = disk.home ∧ left.2.IsTree ∧
      (∀ location, disk.node? location = some .directory → left.2.node? location = some .directory) ∧
      ∀ other, Path.Apart disk.home path other →
        left.2.node? (Path.place disk.home other) = disk.node? (Path.place disk.home other) by
    obtain ⟨home, treeAfter, directory, node⟩ := kept
    have same : ∀ other ∈ lockfile :: log.map CompiledFile.outputPath, left.2.find? other = disk.find? other := by
      intro other member
      obtain ⟨apart, held⟩ := others other member
      obtain ⟨there, found⟩ := Option.isSome_iff_exists.mp held
      obtain ⟨reaches, at_⟩ := (Disk.find?_eq_some_iff ..).mp found
      rw [found, Disk.find?_eq_some_iff, home, node other apart]
      exact ⟨reaches.mono home fun location _ => directory location, at_⟩
    obtain ⟨lockfile, outputs⟩ := List.forall_mem_cons.mp same
    exact ⟨home, treeAfter, lockfile, List.forall_mem_map.mp outputs⟩
  cases result with
  | @done after deposited =>
    refine ⟨deposited.home, deposited.tree, fun location found => ?_, fun other apart =>
      deposited.other _ apart.places.symm apart.under⟩
    by_cases onWay : location ∈ Path.way disk.home path
    · exact deposited.way location onWay
    · rw [deposited.other location (fun here => deposited.accepted.vacant (here ▸ found)) onWay, found]
  | failed _ treeAfter grows =>
    exact ⟨grows.home, treeAfter, fun _ => grows.directory, fun _ apart => grows.elsewhere apart.under⟩

/-- The disks that can come about from one without a lockfile when all commits succeed and nothing else changes outputs
or the lockfile, with the files that have been committed, the last ones first. -/
inductive Undisturbed (compiler : Compiler) (lockfile : String) (initial : Disk) : List CompiledFile → Disk → Prop
  | start (tree : initial.IsTree) (fresh : initial.find? lockfile = none) :
      Undisturbed compiler lockfile initial [] initial
  | edit {log : List CompiledFile} {before after : Disk}
      (undisturbed : Undisturbed compiler lockfile initial log before) (respects : before.Respects lockfile log after) : Undisturbed compiler lockfile initial log after
  | run {log : List CompiledFile} {before : Disk} {sources : List String} {database : Option String} {report : Report}
      {state : Commit} (undisturbed : Undisturbed compiler lockfile initial log before)
      (run : Run compiler sources database lockfile before report (.ok ()) state)
      (temporary : ∀ file ∈ log, Path.place before.home file.outputPath ≠ Lockfile.temporaryPlace lockfile before) :
      Undisturbed compiler lockfile initial (report.compiled.reverse ++ log) state.disk

section

variable {compiler : Compiler} {sources : List String} {database : Option String} {lockfile path key : String}
  {log files : List CompiledFile} {disk initial before after : Disk} {report : Report} {state : Commit}
  {ledger : Ledger} {file : CompiledFile} {content : ByteArray}

theorem Ledger.remember_ofLog (log files : List CompiledFile) :
    (ofLog log).remember files = ofLog (files.reverse ++ log) := by
  rw [remember, ofLog, ofLog, List.foldr_append, List.foldr_reverse]

theorem Ledger.ordered_ofLog (log : List CompiledFile) : Entries.Ordered (ofLog log) := by
  induction log with
  | nil => exact .nil
  | cons file log ih => exact ih.put _ _

/-- The record of a key is that of the file that was committed last under it. -/
theorem Ledger.get?_ofLog (log : List CompiledFile) (key : String) :
    Entries.get? (ofLog log) key = (lastUnder log key).map CompiledFile.record := by
  induction log with
  | nil => rfl
  | cons file log ih =>
    rw [ofLog, List.foldr_cons, ← ofLog, Entries.get?_put, lastUnder, List.find?_cons, ← lastUnder, ih]
    by_cases same : file.key = key <;> simp [same]

/-- A disk on which everything is as it was committed last. -/
structure Accounted (compiler : Compiler) (lockfile : String) (log : List CompiledFile) (disk : Disk) : Prop where
  tree : disk.IsTree
  read : Lockfile.read lockfile disk = .ok (Ledger.ofLog log)
  named : ∀ file ∈ log, ∃ path database, compiler.Named path database file ∧ '/' ∉ (Path.label path).toList
  apart : ∀ file ∈ log, Path.Apart disk.home file.outputPath lockfile
  output : ∀ file ∈ log, ∃ last, lastAt disk.home log file.outputPath = some last ∧
    disk.read file.outputPath = .ok last.body.toUTF8

theorem Accounted.start (tree : disk.IsTree) (fresh : disk.find? lockfile = none) :
    Accounted compiler lockfile [] disk := by
  refine ⟨tree, ?_, by simp, by simp, by simp⟩
  simp [Lockfile.read, Disk.holds, fresh, Ledger.ofLog]

theorem Accounted.edit (accounted : Accounted compiler lockfile log before)
    (respects : before.Respects lockfile log after) : Accounted compiler lockfile log after := by
  refine ⟨respects.tree, ?_, accounted.named, ?_, fun file member => ?_⟩
  · exact Lockfile.read_congr respects.lockfile accounted.read
  · rw [respects.home]
    exact accounted.apart
  · obtain ⟨last, found, output⟩ := accounted.output file member
    exact ⟨last, respects.home ▸ found, Disk.read_congr (respects.outputs file member) output⟩

/-- Of the compiled files of a list at most one is put at each place. -/
theorem Compiler.Separate.eq_of_place (separate : compiler.Separate sources database lockfile disk)
    {other : CompiledFile} (member : file ∈ (compiler.compileAll sources database ledger disk).compiled)
    (member' : other ∈ (compiler.compileAll sources database ledger disk).compiled)
    (same : Path.place disk.home file.outputPath = Path.place disk.home other.outputPath) : file = other := by
  have outputs : file.outputPath = other.outputPath := by
    by_contra different
    exact (separate.amongOutputs _ (Compiler.output_of_compiled member) _ (Compiler.output_of_compiled member')
      different).places same
  exact List.inj_on_of_nodup_map (Compiler.nodup_outputs_compiled compiler sources database ledger disk) member member'
    outputs

/-- A file that has just been committed to a place is the last one there. -/
theorem lastAt_of_mem {home : Location} {made : CompiledFile} (member : made ∈ files)
    (same : Path.place home made.outputPath = Path.place home path)
    (unique : ∀ file ∈ files, Path.place home file.outputPath = Path.place home path → file = made) :
    lastAt home (files.reverse ++ log) path = some made := by
  rw [lastAt, List.find?_append]
  cases found : files.reverse.find? fun file => Path.place home file.outputPath = Path.place home path with
  | none => exact absurd same (by simpa using List.find?_eq_none.mp found made (List.mem_reverse.mpr member))
  | some file =>
    have there : Path.place home file.outputPath = Path.place home path := by simpa using List.find?_some found
    rw [unique file (List.mem_reverse.mp (List.mem_of_find?_eq_some found)) there]
    rfl

theorem lastAt_of_not_mem {home : Location}
    (none : ∀ file ∈ files, Path.place home file.outputPath ≠ Path.place home path) :
    lastAt home (files.reverse ++ log) path = lastAt home log path := by
  have missing :
      (files.reverse.find? fun file => Path.place home file.outputPath = Path.place home path) = Option.none :=
    List.find?_eq_none.mpr fun file member => by simpa using none file (List.mem_reverse.mp member)
  rw [lastAt, List.find?_append, missing]
  rfl

/-- After a run what was committed last to the place of an output is there to be read. -/
theorem Accounted.output_of_run (accounted : Accounted compiler lockfile log before)
    (separate : compiler.Separate sources database lockfile before)
    (result : Commit.Result (compiler.compileAll sources database (Ledger.ofLog log) before).compiled lockfile
      (Ledger.ofLog log) before (.ok (), state))
    (temporary : ∀ file ∈ log, Path.place before.home file.outputPath ≠ Lockfile.temporaryPlace lockfile before)
    (member : file ∈ (compiler.compileAll sources database (Ledger.ofLog log) before).compiled.reverse ++ log) :
    ∃ last, lastAt state.disk.home
        ((compiler.compileAll sources database (Ledger.ofLog log) before).compiled.reverse ++ log) file.outputPath =
          some last ∧ state.disk.read file.outputPath = .ok last.body.toUTF8 := by
  have home := result.home
  rw [home]
  have reaches : file ∈ log → state.disk.Reaches file.outputPath := fun old => by
    obtain ⟨_, _, output⟩ := accounted.output file old
    exact result.reaches ((Disk.read_eq_ok_iff ..).mp output).1
  by_cases new : ∃ made ∈ (compiler.compileAll sources database (Ledger.ofLog log) before).compiled,
      Path.place before.home made.outputPath = Path.place before.home file.outputPath
  · obtain ⟨made, inside, same⟩ := new
    have unique : ∀ other ∈ (compiler.compileAll sources database (Ledger.ofLog log) before).compiled,
        Path.place before.home other.outputPath = Path.place before.home file.outputPath → other = made :=
      fun other inside' same' => separate.eq_of_place inside' inside (same'.trans same.symm)
    refine ⟨made, lastAt_of_mem inside same unique, ?_⟩
    have written := Compiler.read_of_compiled separate result inside
    rcases List.mem_append.mp member with now | old
    · rwa [unique file (List.mem_reverse.mp now) rfl]
    · refine (Disk.read_eq_ok_iff ..).mpr ⟨reaches old, ?_⟩
      rw [home, ← same, ← home]
      exact ((Disk.read_eq_ok_iff ..).mp written).2
  · have none : ∀ made ∈ (compiler.compileAll sources database (Ledger.ofLog log) before).compiled,
        Path.place before.home made.outputPath ≠ Path.place before.home file.outputPath :=
      fun made inside same => new ⟨made, inside, same⟩
    have old : file ∈ log := (List.mem_append.mp member).resolve_left fun now =>
      none file (List.mem_reverse.mp now) rfl
    obtain ⟨last, found, output⟩ := accounted.output file old
    refine ⟨last, (lastAt_of_not_mem none).trans found, (Disk.read_eq_ok_iff ..).mpr ⟨reaches old, ?_⟩⟩
    have there := ((Disk.read_eq_ok_iff ..).mp output).2
    rw [home]
    rcases result.node _ (accounted.apart file old).places (temporary file old) with
      same | ⟨absent, _⟩ | ⟨made, inside, _, here, _⟩
    · rw [same, there]
    · rw [there] at absent
      cases absent
    · exact absurd here.symm (none made inside)

/-- After a run everything is as it was committed last. -/
theorem Accounted.run (accounted : Accounted compiler lockfile log before)
    (run : Run compiler sources database lockfile before report (.ok ()) state)
    (temporary : ∀ file ∈ log, Path.place before.home file.outputPath ≠ Lockfile.temporaryPlace lockfile before) :
    Accounted compiler lockfile (report.compiled.reverse ++ log) state.disk := by
  obtain ⟨rfl, result⟩ := run.result accounted.tree accounted.read
  have separate := run.separate
  have home := result.home
  constructor
  case tree => exact result.tree
  case read =>
    rw [← Ledger.remember_ofLog]
    cases result with
    | done _ _ saved => exact saved.read (Ledger.ordered_remember (Ledger.ordered_ofLog log) _)
  case named =>
    intro file member
    rcases List.mem_append.mp member with new | old
    · obtain ⟨path, named⟩ := Compiler.named_of_mem accounted.tree (List.mem_reverse.mp new)
      exact ⟨path, database, named⟩
    · exact accounted.named file old
  case apart =>
    intro file member
    rw [home]
    rcases List.mem_append.mp member with new | old
    · exact separate.output_lockfile (Compiler.output_of_compiled (List.mem_reverse.mp new))
    · exact accounted.apart file old
  case output => exact fun file member => accounted.output_of_run separate result temporary member

/-- In an undisturbed history everything is as it was committed last. -/
theorem Undisturbed.accounted (undisturbed : Undisturbed compiler lockfile initial log disk) :
    Accounted compiler lockfile log disk := by
  induction undisturbed with
  | start tree fresh => exact .start tree fresh
  | edit _ respects ih => exact ih.edit respects
  | run _ run temporary ih => exact ih.run run temporary

namespace Compiler

/-- A source is as it was committed last, but its output has since been committed for something else. -/
def Overwritten (compiler : Compiler) (log : List CompiledFile) (disk : Disk) (path : String)
    (database : Option String) : Prop :=
  ∃ content mine last, disk.read path = .ok content ∧
    lastUnder log (Ledger.key (Path.label path) database) = some mine ∧ mine.sourceDigest = Digest.of content ∧
    lastAt disk.home log (compiler.outputPath path database) = some last ∧ last.compiledDigest ≠ mine.compiledDigest

instance (compiler : Compiler) (log : List CompiledFile) (disk : Disk) (path : String) (database : Option String) :
    Decidable (compiler.Overwritten log disk path database) :=
  decidable_of_iff
    (∃ mine ∈ lastUnder log (Ledger.key (Path.label path) database),
      (disk.read path).toOption.map Digest.of = some mine.sourceDigest ∧
        ∃ last ∈ lastAt disk.home log (compiler.outputPath path database), last.compiledDigest ≠ mine.compiledDigest)
    (by
      cases source : disk.read path with
      | error fault => simp [Overwritten, source, Except.toOption]
      | ok content => simp [Overwritten, source, Except.toOption, eq_comm])

/-- What is remembered of a source was remembered when its output was committed. -/
theorem output_of_lastUnder (accounted : Accounted compiler lockfile log disk) (source : disk.read path = .ok content)
    (found : lastUnder log (Ledger.key (Path.label path) database) = some file) :
    ∃ last, lastAt disk.home log (compiler.outputPath path database) = some last ∧
      disk.read (compiler.outputPath path database) = .ok last.body.toUTF8 ∧
      last.compiledDigest = Digest.ofText last.body := by
  have member : file ∈ log := List.mem_of_find?_eq_some found
  have key : file.key = Ledger.key (Path.label path) database := by simpa using List.find?_some found
  obtain ⟨other, _, named, plain⟩ := accounted.named file member
  obtain ⟨label, same⟩ :=
    Ledger.key_injective plain (plain_label_of_read accounted.tree source) (named.key.symm.trans key)
  have output : file.outputPath = compiler.outputPath path database := by
    rw [named.outputPath, outputPath_of_label label, same]
  obtain ⟨last, foundLast, read⟩ := accounted.output file member
  obtain ⟨_, _, namedLast, _⟩ := accounted.named last (List.mem_of_find?_eq_some foundLast)
  exact ⟨last, output ▸ foundLast, output ▸ read, namedLast.compiledDigest⟩

theorem tampered_iff (accounted : Accounted compiler lockfile log disk) (source : disk.read path = .ok content) :
    (∃ expected actual, FileStatus.detect (Entries.get? (Ledger.ofLog log) (Ledger.key (Path.label path) database))
      (Digest.of content) (compiler.outputPath path database) disk = .ok (.tampered expected actual)) ↔
      compiler.Overwritten log disk path database := by
  rw [Ledger.get?_ofLog]
  cases found : lastUnder log (Ledger.key (Path.label path) database) with
  | none => simp [FileStatus.detect, Overwritten, found]
  | some mine =>
    obtain ⟨last, foundLast, read, digest⟩ := output_of_lastUnder accounted source found
    have held : disk.holds (compiler.outputPath path database) = true := Disk.holds_of_read read
    have overwritten : compiler.Overwritten log disk path database ↔
        mine.sourceDigest = Digest.of content ∧ last.compiledDigest ≠ mine.compiledDigest := by
      simp [Overwritten, source, found, foundLast]
    rw [overwritten, digest, Option.map_some]
    by_cases same : mine.sourceDigest = Digest.of content
    · have recorded : mine.record.source = Digest.of content := same
      have detected := FileStatus.detect_of_known held recorded
      rw [detected, read]
      simp only [FileStatus.ofOutput_toUTF8, same, true_and]
      by_cases equal : mine.compiledDigest = Digest.ofText last.body
      · simp [CompiledFile.record, equal]
      · simp [CompiledFile.record, equal, Ne.symm equal]
    · have stale : mine.record.source ≠ Digest.of content := same
      simp [FileStatus.detect, held, stale, same]

/-- A source is said to be tampered with exactly if its output has been committed for something else. -/
theorem violation_iff (postgres : compiler.renderer = .postgres) (accounted : Accounted compiler lockfile log disk)
    (path : String) (database : Option String) :
    (∃ error, compiler.compileFile path database (Ledger.ofLog log) disk = .error error ∧
      error.isIntegrityViolation = true) ↔ compiler.Overwritten log disk path database := by
  cases source : disk.read path with
  | error fault => simp [compileFile_of_unread source, Overwritten, source, MigrationError.isIntegrityViolation]
  | ok content =>
    rw [← tampered_iff accounted source, compileFile_of_read source]
    have rendered : ∀ migration, Benign (compiler.renderer.render migration) := fun migration =>
      postgres ▸ benign_render migration
    have rebuilt := benign_rebuild rendered path database content
    have detected := benign_detect (Entries.get? (Ledger.ofLog log) (Ledger.key (Path.label path) database))
      (Digest.of content) (compiler.outputPath path database) disk
    generalize FileStatus.detect _ _ _ _ = found at detected ⊢
    constructor
    · rintro ⟨error, failed, violation⟩
      cases found with
      | error e =>
        cases failed
        rw [detected.unchanged rfl] at violation
        cases violation
      | ok status =>
        cases status with
        | tampered expected actual => exact ⟨expected, actual, rfl⟩
        | upToDate body =>
          rw [(benign_reuse ..).unchanged failed] at violation
          cases violation
        | _ =>
          rw [rebuilt.unchanged failed] at violation
          cases violation
    · rintro ⟨expected, actual, rfl⟩
      exact ⟨_, rfl, rfl⟩

/-- The status of a source says the same. -/
theorem fileStatus_tampered_iff (accounted : Accounted compiler lockfile log disk) (path : String)
    (database : Option String) :
    (∃ entry, compiler.fileStatus path database { path := lockfile } disk = .ok entry ∧
      ∃ expected actual, entry.status = .tampered expected actual) ↔ compiler.Overwritten log disk path database := by
  cases source : disk.read path with
  | error fault => simp [fileStatus, readSource, source, Overwritten, Except.mapError, bind, Except.bind]
  | ok content =>
    rw [← tampered_iff accounted source]
    have known : Lockfile.get? { path := lockfile } disk (Ledger.key (Path.label path) database) =
        .ok (Entries.get? (Ledger.ofLog log) (Ledger.key (Path.label path) database)) := by
      rw [Lockfile.get?, show Lockfile.entries { path := lockfile } disk = Lockfile.read lockfile disk from rfl,
        accounted.read]
      rfl
    simp only [fileStatus, readSource_of_read source, known, bind, Except.bind]
    cases FileStatus.detect _ _ _ disk with
    | error e => simp
    | ok status => simp [pure, Except.pure]

/-- Among the failures of a list the sources with such outputs are those that are said to be tampered with. -/
theorem failures_violation_iff (postgres : compiler.renderer = .postgres)
    (accounted : Accounted compiler lockfile log disk) (sources : List String) (database : Option String)
    (path : String) :
    (∃ failure ∈ (compiler.compileAll sources database (Ledger.ofLog log) disk).failures,
      failure.path = path ∧ failure.error.isIntegrityViolation = true) ↔
      path ∈ sources ∧ compiler.Alone sources database path ∧ compiler.Overwritten log disk path database := by
  rw [← violation_iff postgres accounted path database]
  constructor
  · rintro ⟨failure, member, rfl, violation⟩
    obtain ⟨path, index, listed, failed⟩ := mem_failures_iff.mp member
    rw [path_of_resultAt failed]
    have alone : compiler.Alone sources database path := by
      by_contra rivalled
      obtain ⟨others, collides⟩ := resultAt_of_rivalled _ _ listed rivalled
      rw [collides] at failed
      cases failed
      cases violation
    rw [resultAt_of_alone listed alone] at failed
    cases result : compiler.compileFile path database (Ledger.ofLog log) disk with
    | ok file =>
      rw [result] at failed
      cases failed
    | error error =>
      rw [result] at failed
      cases failed
      exact ⟨List.mem_of_getElem? listed, alone, error, rfl, violation⟩
  · rintro ⟨member, alone, error, failed, violation⟩
    obtain ⟨index, listed⟩ := List.mem_iff_getElem?.mp member
    refine ⟨⟨Path.label path, path, error⟩, mem_failures_iff.mpr ⟨path, index, listed, ?_⟩, rfl, violation⟩
    rw [resultAt_of_alone listed alone, failed]
    rfl

/-- In a history in which nothing but commits writes outputs and the lockfile, and all commits succeed, a source is said
to be tampered with exactly if its output has since been committed for something else. -/
theorem alarm_iff (postgres : compiler.renderer = .postgres)
    (undisturbed : Undisturbed compiler lockfile initial log disk) (sources : List String) (database : Option String) :
    ∃ report, compiler.compile sources database { path := lockfile } disk = .ok report ∧
      (∀ path, (∃ failure ∈ report.failures, failure.path = path ∧ failure.error.isIntegrityViolation = true) ↔
        path ∈ sources ∧ compiler.Alone sources database path ∧ compiler.Overwritten log disk path database) ∧
      ∀ entries, compiler.status sources database { path := lockfile } disk = .ok entries →
        ((∃ entry ∈ entries, ∃ expected actual, entry.status = .tampered expected actual) ↔
          ∃ path ∈ sources, compiler.Overwritten log disk path database) := by
  have accounted := undisturbed.accounted
  refine ⟨_, compile_eq_ok_iff.mpr ⟨_, accounted.read, rfl⟩,
    failures_violation_iff postgres accounted sources database, fun entries success => ?_⟩
  simp only [status] at success
  simp only [mem_of_mapM success, ← fileStatus_tampered_iff accounted]
  constructor
  · rintro ⟨entry, ⟨path, member, found⟩, tampered⟩
    exact ⟨path, member, entry, found, tampered⟩
  · rintro ⟨path, member, entry, found, tampered⟩
    exact ⟨entry, ⟨path, member, found⟩, tampered⟩

/-- A disk with a migration and nothing else. -/
def firstOfTwo : Disk := .holding [("m/x.yml", "up: []\ndown: []\n")]

/-- What compiling the migration leaves. -/
def firstCommit : Commit :=
  (Commit.ofReport (compileAll {} ["m/x.yml"] none [] firstOfTwo) { path := "oxide-guard.lock", known := some [] }
    firstOfTwo).2

/-- What has been compiled. -/
def firstLog : List CompiledFile := (compileAll {} ["m/x.yml"] none [] firstOfTwo).compiled.reverse ++ []

/-- Another migration whose output is the same. -/
def secondOfTwo : Disk := (firstCommit.disk.deposit "m/x.yaml" "name: other\nup: []\ndown: []\n".toUTF8).2

/-- What compiling the other migration leaves. -/
def secondCommit : Commit :=
  (Commit.ofReport (compileAll {} ["m/x.yaml"] none (Ledger.ofLog firstLog) secondOfTwo)
    { path := "oxide-guard.lock", known := some (Ledger.ofLog firstLog) } secondOfTwo).2

/-- What has been compiled by then. -/
def secondLog : List CompiledFile :=
  (compileAll {} ["m/x.yaml"] none (Ledger.ofLog firstLog) secondOfTwo).compiled.reverse ++ firstLog

theorem undisturbed_secondCommit :
    Undisturbed {} "oxide-guard.lock" firstOfTwo secondLog secondCommit.disk := by
  have first : Run {} ["m/x.yml"] none "oxide-guard.lock" firstOfTwo (compileAll {} ["m/x.yml"] none [] firstOfTwo)
      (.ok ()) firstCommit := .of_success (by decide +kernel) (by decide +kernel) (by decide +kernel)
  have ran : Undisturbed {} "oxide-guard.lock" firstOfTwo firstLog firstCommit.disk :=
    .run (.start (Disk.isTree_holding _) (by decide +kernel)) first (by simp)
  have respects : firstCommit.disk.Respects "oxide-guard.lock" firstLog secondOfTwo := by
    rw [secondOfTwo]
    exact Disk.respects_of_deposit ran.accounted.tree (by decide +kernel) _
  have edited := ran.edit respects
  have second : Run {} ["m/x.yaml"] none "oxide-guard.lock" secondOfTwo
      (compileAll {} ["m/x.yaml"] none (Ledger.ofLog firstLog) secondOfTwo) (.ok ()) secondCommit :=
    .of_success (by decide +kernel) edited.accounted.read (by decide +kernel)
  exact .run edited second (by decide +kernel)

theorem overwritten_secondCommit : Overwritten {} secondLog secondCommit.disk "m/x.yml" none := by decide +kernel

/-- After the other migration was compiled, the first counts as tampered with. -/
theorem alarm_iff_secondCommit :
    Undisturbed {} "oxide-guard.lock" firstOfTwo secondLog secondCommit.disk ∧
      ∃ report, compile {} ["m/x.yml"] none { path := "oxide-guard.lock" } secondCommit.disk = .ok report ∧
        ∃ failure ∈ report.failures, failure.path = "m/x.yml" ∧ failure.error.isIntegrityViolation = true := by
  obtain ⟨report, compiled, violations, _⟩ := alarm_iff rfl undisturbed_secondCommit ["m/x.yml"] none
  exact ⟨undisturbed_secondCommit, report, compiled,
    (violations "m/x.yml").mpr ⟨by decide, by decide +kernel, overwritten_secondCommit⟩⟩

/-- Nothing but commits has written outputs or the lockfile, and yet a compilation reports an integrity violation and
the status is tampered. -/
theorem false_alarm_secondCommit :
    firstOfTwo.find? "compiled" = none ∧ Undisturbed {} "oxide-guard.lock" firstOfTwo secondLog secondCommit.disk ∧
      (∃ report, compile {} ["m/x.yml"] none { path := "oxide-guard.lock" } secondCommit.disk = .ok report ∧
        ∃ failure ∈ report.failures, failure.error.isIntegrityViolation = true) ∧
      ∃ entries, status {} ["m/x.yml"] none { path := "oxide-guard.lock" } secondCommit.disk = .ok entries ∧
        ∃ entry ∈ entries, ∃ expected actual, entry.status = .tampered expected actual := by
  have accounted := undisturbed_secondCommit.accounted
  have alone : Alone {} ["m/x.yml"] none "m/x.yml" := by decide +kernel
  obtain ⟨failure, member, _, violation⟩ := (failures_violation_iff rfl accounted ["m/x.yml"] none "m/x.yml").mpr
    ⟨List.mem_singleton_self _, alone, overwritten_secondCommit⟩
  obtain ⟨entry, found, tampered⟩ := (fileStatus_tampered_iff accounted "m/x.yml" none).mpr overwritten_secondCommit
  refine ⟨by decide +kernel, undisturbed_secondCommit,
    ⟨_, compile_eq_ok_iff.mpr ⟨_, accounted.read, rfl⟩, failure, member, violation⟩, [entry], ?_,
    entry, List.mem_singleton_self _, tampered⟩
  rw [status, List.mapM_cons, found]
  rfl

end Compiler

end

end SafeMigration
