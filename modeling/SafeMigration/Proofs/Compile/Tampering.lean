import Mathlib.Data.Set.Function
import SafeMigration.Proofs.Compile.Repeat

/-!
An output that was changed by hand stays as it is, and is reported again and again.

The source of such an output fails in every run, so no run touches the output or its record: those belong to no other
source of the run. With the same source, the same record and the same output the next run finds the same. So what is
reported on the first look is reported for good, until the source, the output or the lockfile is edited.
-/

namespace SafeMigration

/-- A change of a disk that leaves some paths leading to what they lead to. -/
structure Disk.Spares (paths : List String) (before after : Disk) : Prop where
  home : after.home = before.home
  tree : after.IsTree
  same : ∀ path ∈ paths, after.find? path = before.find? path

/-- A file that is there gets another content. Paths that lead elsewhere are spared. -/
theorem Disk.spares_of_write {disk after : Disk} {output : String} {content : ByteArray} {paths : List String}
    (tree : disk.IsTree) (written : disk.write output content = .ok after) {earlier : ByteArray}
    (read : disk.read output = .ok earlier)
    (apart : ∀ path ∈ paths, Path.place disk.home path ≠ Path.place disk.home output) : disk.Spares paths after := by
  obtain ⟨reaches, vacant, rfl⟩ := (Disk.write_eq_ok_iff ..).mp written
  have there := ((Disk.read_eq_ok_iff ..).mp read).2
  have nonempty := Disk.ne_root_of_vacant vacant
  have around := (reaches.ending tree).resolve_left vacant
  have elsewhere : ∀ location, location ≠ Path.place disk.home output →
      (disk.put (Path.place disk.home output) (.file content)).node? location = disk.node? location := by
    intro location different
    rw [Disk.node?_put disk nonempty, if_neg different]
  refine ⟨rfl, tree.put vacant around.2 _, fun path member => ?_⟩
  have kept : ∀ location, disk.node? location = some .directory ↔
      (disk.put (Path.place disk.home output) (.file content)).node? location = some .directory := by
    intro location
    by_cases here : location = Path.place disk.home output
    · rw [here, there, Disk.node?_put disk nonempty, if_pos rfl]
      simp
    · rw [elsewhere location here]
  refine Option.ext fun node => ?_
  rw [Disk.find?_eq_some_iff, Disk.find?_eq_some_iff, Disk.home_put, elsewhere _ (apart path member)]
  refine and_congr_left fun _ => ⟨fun reaches => ?_, fun reaches => ?_⟩
  · exact ⟨reaches.legal, fun location onWay => (kept location).mpr (reaches.way location onWay)⟩
  · exact ⟨reaches.legal, fun location onWay => (kept location).mp (reaches.way location onWay)⟩

/-- A lockfile that remembers something is a file. -/
theorem Lockfile.exists_content {path key : String} {ledger : Ledger} {disk : Disk} {record : DigestRecord}
    (read : Lockfile.read path disk = .ok ledger) (found : Entries.get? ledger key = some record) :
    ∃ content, disk.read path = .ok content := by
  unfold Lockfile.read at read
  split at read
  · cases content : disk.read path with
    | ok content => exact ⟨_, rfl⟩
    | error fault => simp [Disk.readText, content] at read
  · cases read
    cases found

namespace Commit

variable {files : List CompiledFile} {ledger : Ledger} {disk : Disk} {state : Commit} {report : Report}
  {lockfile : Lockfile}

/-- However far files are added, the lockfile that is held remembers the first of them. -/
theorem lockfile_addAll (state : Commit) (files : List CompiledFile) (known : state.lockfile.known = some ledger) :
    ∃ done, done.Sublist files ∧ ((state.addAll files).1 = .ok () → done = files) ∧
      (state.addAll files).2.lockfile = { state.lockfile with known := some (ledger.remember done) } := by
  induction files generalizing state ledger with
  | nil => exact ⟨[], .slnil, fun _ => rfl, by rw [Ledger.remember, List.foldl_nil, ← known]; rfl⟩
  | cons file files ih =>
    rcases write : file.write state.disk with ⟨_ | _, after⟩
    next error =>
      refine ⟨[], List.nil_sublist _, fun success => ?_, ?_⟩
      · simp [addAll, add, write] at success
      · simp only [addAll, add, write]
        rw [Ledger.remember, List.foldl_nil, ← known]
    next =>
      obtain ⟨next, added, -, held⟩ := add_of_write known write
      obtain ⟨done, part, all, later⟩ := ih next (by rw [held])
      rw [addAll_of_add added]
      refine ⟨file :: done, part.cons_cons file, fun success => by rw [all success], ?_⟩
      rw [later, held]
      rfl

/-- A commit that fails leaves a lockfile that remembers something to be read as before. -/
theorem Result.read_of_error {path key : String} {saved : Ledger} {record : DigestRecord} {error : MigrationError}
    (result : Result files path ledger disk (.error error, state))
    (outputs : ∀ file ∈ files, Path.Apart disk.home file.outputPath path)
    (distinct : Path.place disk.home path ≠ Lockfile.temporaryPlace path disk)
    (read : Lockfile.read path disk = .ok saved) (found : Entries.get? saved key = some record) :
    Lockfile.read path state.disk = .ok saved := by
  obtain ⟨content, there⟩ := Lockfile.exists_content read found
  obtain ⟨reaches, file⟩ := (Disk.read_eq_ok_iff ..).mp there
  have straight : Path.place disk.home path ∉ Path.way disk.home path := fun onWay => by
    rw [reaches.way _ onWay] at file
    cases file
  have same := result.lockfile_of_error outputs straight distinct
  exact Lockfile.read_congr (Disk.find?_of_kept result.home same (fun _ _ => result.directory) (.inr reaches)) read

/-- The lockfile that is held after a commit remembers some of the files, and all of them if the commit succeeds. -/
theorem lockfile_ofReport (report : Report) (disk : Disk) (known : lockfile.known = some ledger) :
    ∃ done, done.Sublist report.compiled ∧ ((ofReport report lockfile disk).1 = .ok () → done = report.compiled) ∧
      (ofReport report lockfile disk).2.lockfile = { lockfile with known := some (ledger.remember done) } := by
  obtain ⟨done, part, all, held⟩ := lockfile_addAll { disk := disk, lockfile := lockfile } report.compiled known
  refine ⟨done, part, ?_⟩
  unfold ofReport
  generalize addAll _ report.compiled = added at all held
  obtain ⟨_ | _, state⟩ := added
  · exact ⟨all, held⟩
  · have asked : state.lockfile.asked state.disk = state.lockfile := by
      rw [show state.lockfile = _ from held]
      rfl
    refine ⟨fun _ => all rfl, ?_⟩
    simp only [save, asked]
    split <;> exact held

end Commit

namespace Compiler

/-- A source that is as it is remembered, while its output is not. -/
structure Tampered (compiler : Compiler) (path : String) (database : Option String) (record : DigestRecord)
    (edited : ByteArray) (lockfile : Lockfile) (disk : Disk) : Prop where
  tree : disk.IsTree
  held : ∀ known, lockfile.known = some known → Entries.Ordered known ∧
    Entries.get? known (Ledger.key (Path.label path) database) = some record
  saved : ∃ ledger, Lockfile.read lockfile.path disk = .ok ledger ∧
    Entries.get? ledger (Ledger.key (Path.label path) database) = some record
  source : ∃ content, disk.read path = .ok content ∧ record.source = Digest.of content
  output : disk.read (compiler.outputPath path database) = .ok edited
  changed : FileStatus.ofOutput record.compiled edited = .tampered record.compiled (Digest.of edited)

/-- What can follow a lockfile and a disk: runs that list a source, alone with its output, and succeed or fail; opening
the lockfile anew; and edits that leave the lockfile, the source and its output as they are. -/
inductive Onward (compiler : Compiler) (path : String) (database : Option String) (lockfile : Lockfile) (disk : Disk) :
    Lockfile → Disk → Prop
  | here : Onward compiler path database lockfile disk lockfile disk
  | run {held : Lockfile} {before : Disk} {sources : List String} {report : Report}
      {outcome : Except MigrationError Unit} {state : Commit}
      (onward : Onward compiler path database lockfile disk held before) (listed : path ∈ sources)
      (alone : compiler.Alone sources database path) (separate : compiler.Separate sources database held.path before)
      (compiled : compiler.compile sources database held before = .ok report)
      (committed : Commit.ofReport report (held.asked before) before = (outcome, state)) :
      Onward compiler path database lockfile disk state.lockfile state.disk
  | reopen {held : Lockfile} {before : Disk} (onward : Onward compiler path database lockfile disk held before) :
      Onward compiler path database lockfile disk { path := held.path } before
  | edit {held : Lockfile} {before after : Disk} (onward : Onward compiler path database lockfile disk held before)
      (spares : before.Spares [held.path, path, compiler.outputPath path database] after) :
      Onward compiler path database lockfile disk held after

variable {compiler : Compiler} {sources : List String} {database : Option String} {path : String}
  {record : DigestRecord} {edited : ByteArray} {lockfile held : Lockfile} {disk after : Disk} {report : Report}
  {state : Commit} {outcome : Except MigrationError Unit} {ledger : Ledger}

/-- The lockfile that is held after a run remembers what it remembered before, and some of the files of the run: all of
them if the run succeeds. -/
theorem lockfile_of_run (entries : lockfile.entries disk = .ok ledger)
    (committed : Commit.ofReport report (lockfile.asked disk) disk = (outcome, state)) :
    ∃ done, done.Sublist report.compiled ∧ (outcome = .ok () → done = report.compiled) ∧
      state.lockfile = ⟨lockfile.path, some (ledger.remember done)⟩ := by
  have asked := Lockfile.asked_of_entries lockfile entries
  have known : (lockfile.asked disk).known = some ledger := by rw [asked]
  obtain ⟨done, part, all, held⟩ := Commit.lockfile_ofReport report disk known
  rw [committed] at all held
  rw [asked] at held
  exact ⟨done, part, all, held⟩

namespace Tampered

theorem of_entries (tampered : compiler.Tampered path database record edited lockfile disk)
    (entries : lockfile.entries disk = .ok ledger) :
    Entries.Ordered ledger ∧ Entries.get? ledger (Ledger.key (Path.label path) database) = some record := by
  refine ⟨Lockfile.ordered_of_entries (fun known remembered => (tampered.held known remembered).1) entries, ?_⟩
  unfold Lockfile.entries at entries
  split at entries
  next known remembered =>
    cases entries
    exact (tampered.held _ remembered).2
  next =>
    obtain ⟨saved, read, found⟩ := tampered.saved
    rw [read] at entries
    cases entries
    exact found

theorem exists_entries (tampered : compiler.Tampered path database record edited lockfile disk) :
    ∃ ledger, lockfile.entries disk = .ok ledger := by
  unfold Lockfile.entries
  split
  · exact ⟨_, rfl⟩
  · obtain ⟨saved, read, -⟩ := tampered.saved
    exact ⟨saved, read⟩

theorem isKnown (tampered : compiler.Tampered path database record edited lockfile disk)
    (entries : lockfile.entries disk = .ok ledger) :
    ∃ content, Known compiler path database ledger disk content record := by
  obtain ⟨content, source, digest⟩ := tampered.source
  exact ⟨content, source, (tampered.of_entries entries).2, Disk.holds_of_read tampered.output, digest⟩

/-- The source fails, and nothing is written out for that. -/
theorem compileFile (tampered : compiler.Tampered path database record edited lockfile disk)
    (entries : lockfile.entries disk = .ok ledger) (render : ValidatedMigration → Except MigrationError String) :
    (compiler.rendering render).compileFile path database ledger disk =
      .error (.integrity (Path.label path) (compiler.outputPath path database) record.compiled (Digest.of edited)) := by
  obtain ⟨content, known⟩ := tampered.isKnown entries
  exact (known.rendering render).changed tampered.output tampered.changed

theorem fileStatus (tampered : compiler.Tampered path database record edited lockfile disk) :
    compiler.fileStatus path database lockfile disk =
      .ok ⟨Path.label path, Ledger.key (Path.label path) database,
        .tampered record.compiled (Digest.of edited)⟩ := by
  obtain ⟨ledger, entries⟩ := tampered.exists_entries
  obtain ⟨content, known⟩ := tampered.isKnown entries
  have detected := known.detect
  rw [tampered.output] at detected
  have remembered : lockfile.get? disk (Ledger.key (Path.label path) database) =
      .ok (Entries.get? ledger (Ledger.key (Path.label path) database)) := by
    rw [Lockfile.get?, entries]
    rfl
  simp only [Compiler.fileStatus, readSource_of_read known.source, remembered, detected, tampered.changed, bind,
    Except.bind]
  rfl

/-- A run that lists the source leaves it so. -/
theorem run (tampered : compiler.Tampered path database record edited lockfile disk) (listed : path ∈ sources)
    (alone : compiler.Alone sources database path)
    (separate : compiler.Separate sources database lockfile.path disk)
    (compiled : compiler.compile sources database lockfile disk = .ok report)
    (committed : Commit.ofReport report (lockfile.asked disk) disk = (outcome, state)) :
    compiler.Tampered path database record edited state.lockfile state.disk := by
  obtain ⟨ledger, entries, rfl⟩ := compile_eq_ok_iff.mp compiled
  have result := run_result lockfile tampered.tree separate entries committed
  obtain ⟨ordered, found⟩ := tampered.of_entries entries
  have failed : compiler.Failed sources database ledger disk path := by
    refine ⟨listed, ?_⟩
    have error := tampered.compileFile entries compiler.renderer.render
    rw [rendering_self] at error
    rw [compiledOf, if_pos alone, error]
    rfl
  -- Whatever part of the compiled files is remembered, the record stays.
  have stays : ∀ done, done.Sublist (compiler.compileAll sources database ledger disk).compiled →
      Entries.get? (ledger.remember done) (Ledger.key (Path.label path) database) = some record := by
    intro done part
    rw [Ledger.get?_remember_of_not_mem fun file member => failed.key_ne (part.subset member), found]
  obtain ⟨done, part, -, heldAfter⟩ := lockfile_of_run entries committed
  rw [heldAfter]
  constructor
  case tree => exact result.tree
  case held =>
    intro known remembered
    cases remembered
    exact ⟨Ledger.ordered_remember ordered done, stays done part⟩
  case saved =>
    cases outcome with
    | ok _ => exact ⟨_, result.remembers ordered, stays _ (List.Sublist.refl _)⟩
    | error error =>
      obtain ⟨saved, read, there⟩ := tampered.saved
      refine ⟨saved, result.read_of_error (fun file member => ?_) separate.distinct read there, there⟩
      exact separate.output_lockfile (output_of_compiled member)
  case source =>
    obtain ⟨content, source, digest⟩ := tampered.source
    exact ⟨content, read_source separate result listed source, digest⟩
  case output =>
    exact separate.read_output result (output_mem listed) (fun file inside _ => failed.output_ne inside)
      tampered.output
  case changed => exact tampered.changed

theorem reopen (tampered : compiler.Tampered path database record edited lockfile disk) :
    compiler.Tampered path database record edited { path := lockfile.path } disk :=
  { tampered with held := fun _ remembered => by cases remembered }

/-- So does an edit that spares the lockfile, the source and its output. -/
theorem edit (tampered : compiler.Tampered path database record edited lockfile disk)
    (spares : disk.Spares [lockfile.path, path, compiler.outputPath path database] after) :
    compiler.Tampered path database record edited lockfile after := by
  obtain ⟨content, source, digest⟩ := tampered.source
  obtain ⟨saved, read, found⟩ := tampered.saved
  constructor
  case tree => exact spares.tree
  case held => exact tampered.held
  case saved => exact ⟨saved, Lockfile.read_congr (spares.same _ (by simp)) read, found⟩
  case source => exact ⟨content, Disk.read_congr (spares.same _ (by simp)) source, digest⟩
  case output => exact Disk.read_congr (spares.same _ (by simp)) tampered.output
  case changed => exact tampered.changed

/-- Whatever follows, the source stays as it is and its output stays as it was edited. -/
theorem onward (tampered : compiler.Tampered path database record edited lockfile disk)
    (later : compiler.Onward path database lockfile disk held after) :
    compiler.Tampered path database record edited held after := by
  induction later with
  | here => exact tampered
  | run _ listed alone separate compiled committed ih => exact ih.run listed alone separate compiled committed
  | reopen _ ih => exact ih.reopen
  | edit _ spares ih => exact ih.edit spares

end Tampered

/-- After a run in which a source was compiled, and an edit of its output that changes its bytes, the source is tampered
with. -/
theorem tampered_of_edit {file : CompiledFile} (ordered : ∀ known, lockfile.known = some known → Entries.Ordered known)
    (tree : disk.IsTree) (separate : compiler.Separate sources database lockfile.path disk)
    (compiled : compiler.compile sources database lockfile disk = .ok report)
    (committed : Commit.ofReport report (lockfile.asked disk) disk = (.ok (), state)) {index : Nat}
    (listed : sources[index]? = some path) (succeeded : report.files[index]? = some (.ok file))
    (spares : state.disk.Spares [lockfile.path, path] after)
    (output : after.read (compiler.outputPath path database) = .ok edited) (different : edited ≠ file.body.toUTF8)
    (injective : Set.InjOn Digest.of {edited, file.body.toUTF8}) :
    compiler.Tampered path database file.record edited state.lockfile after := by
  obtain ⟨before, entries, rfl⟩ := compile_eq_ok_iff.mp compiled
  have result := run_result lockfile tree separate entries committed
  have ordered := Lockfile.ordered_of_entries ordered entries
  obtain ⟨source, isListed, alone, success⟩ := exists_source_of_files succeeded
  obtain rfl : path = source := Option.some.inj (listed.symm.trans isListed)
  have isMember : path ∈ sources := List.mem_of_getElem? listed
  have member := mem_compiled_iff.mpr ⟨path, isMember, alone, success⟩
  have origin := origin_of_compileFile success
  have named := origin.named
  have recorded : Entries.get? (before.remember (compiler.compileAll sources database before disk).compiled)
      (Ledger.key (Path.label path) database) = some file.record := by
    rw [← named.key]
    exact Ledger.get?_remember_of_mem member fun other inside same => eq_of_key inside member same
  obtain ⟨done, -, all, heldAfter⟩ := lockfile_of_run entries committed
  obtain rfl := all rfl
  rw [heldAfter]
  constructor
  case tree => exact spares.tree
  case held =>
    intro known remembered
    cases remembered
    exact ⟨Ledger.ordered_remember ordered _, recorded⟩
  case saved =>
    exact ⟨_, Lockfile.read_congr (spares.same _ (by simp)) (result.remembers ordered), recorded⟩
  case source =>
    obtain ⟨content, source, digest⟩ := origin.source
    have still := read_source separate result isMember source
    exact ⟨content, Disk.read_congr (spares.same _ (by simp)) still, digest⟩
  case output => exact output
  case changed =>
    rcases FileStatus.ofOutput_cases file.record.compiled edited with ⟨body, rfl, digest⟩ | changed
    · have same : Digest.of file.body.toUTF8 = Digest.of body.toUTF8 := named.compiledDigest.symm.trans digest
      exact absurd (injective (by simp) (by simp) same.symm) different
    · exact changed

/-- What is found of a source that is tampered with, by the lockfile that is held and by one that is opened anew. -/
structure Detected (compiler : Compiler) (path : String) (database : Option String) (record : DigestRecord)
    (edited : ByteArray) (lockfile : Lockfile) (disk : Disk) : Prop where
  status : compiler.status [path] database lockfile disk =
    .ok [⟨Path.label path, Ledger.key (Path.label path) database, .tampered record.compiled (Digest.of edited)⟩]
  /-- The status says so among others, if all of them can be found out. -/
  statusAmong : ∀ sources entries, compiler.status sources database lockfile disk = .ok entries →
    ∀ index : Nat, sources[index]? = some path → entries[index]? =
      some ⟨Path.label path, Ledger.key (Path.label path) database, .tampered record.compiled (Digest.of edited)⟩
  /-- With whatever renderer, the source fails in every list in which it is alone with its output. -/
  compile : ∀ sources render, compiler.Alone sources database path →
    ∃ report, (compiler.rendering render).compile sources database lockfile disk = .ok report ∧
      ∀ index : Nat, sources[index]? = some path → report.files[index]? =
        some (.error ⟨Path.label path, path, .integrity (Path.label path) (compiler.outputPath path database)
          record.compiled (Digest.of edited)⟩)
  output : disk.read (compiler.outputPath path database) = .ok edited
  remembered : lockfile.get? disk (Ledger.key (Path.label path) database) = .ok (some record)
  saved : Lockfile.get? { path := lockfile.path } disk (Ledger.key (Path.label path) database) = .ok (some record)

theorem Tampered.detected (tampered : compiler.Tampered path database record edited lockfile disk) :
    compiler.Detected path database record edited lockfile disk := by
  obtain ⟨ledger, entries⟩ := tampered.exists_entries
  have remembered : ∀ {held : Lockfile}, compiler.Tampered path database record edited held disk →
      held.get? disk (Ledger.key (Path.label path) database) = .ok (some record) := by
    intro held tampered
    obtain ⟨ledger, entries⟩ := tampered.exists_entries
    rw [Lockfile.get?, entries, ← (tampered.of_entries entries).2]
    rfl
  constructor
  case status =>
    rw [status, List.mapM_cons, tampered.fileStatus]
    rfl
  case statusAmong =>
    intro sources found success index listed
    exact getElem?_of_mapM success listed tampered.fileStatus
  case compile =>
    intro sources render alone
    refine ⟨_, compile_eq_ok_iff.mpr ⟨ledger, entries, rfl⟩, fun index listed => ?_⟩
    have failed := tampered.compileFile entries render
    have alone' : (compiler.rendering render).Alone sources database path := alone
    rw [getElem?_files listed, resultAt_of_alone listed alone', failed]
    rfl
  case output => exact tampered.output
  case remembered => exact remembered tampered
  case saved => exact remembered tampered.reopen

/-- An output of a source that was compiled is changed by hand. Then this is reported by every status and in every
compilation, and neither the output nor the record of the source is changed by any run that lists the source, alone with
its output. -/
theorem tampering_detected {file : CompiledFile} (tree : disk.IsTree)
    (ordered : ∀ known, lockfile.known = some known → Entries.Ordered known)
    (separate : compiler.Separate sources database lockfile.path disk)
    (compiled : compiler.compile sources database lockfile disk = .ok report)
    (committed : Commit.ofReport report (lockfile.asked disk) disk = (.ok (), state)) {index : Nat}
    (listed : sources[index]? = some path) (succeeded : report.files[index]? = some (.ok file))
    (spares : state.disk.Spares [lockfile.path, path] after)
    (output : after.read (compiler.outputPath path database) = .ok edited) (different : edited ≠ file.body.toUTF8)
    (injective : Set.InjOn Digest.of {edited, file.body.toUTF8}) {last : Disk}
    (later : compiler.Onward path database state.lockfile after held last) :
    compiler.Detected path database file.record edited held last := by
  have tampered := tampered_of_edit ordered tree separate compiled committed listed succeeded spares output different
    injective
  exact (tampered.onward later).detected

/-- What is compiled of two migrations when only the first is listed. -/
def firstReport : Report := compileAll {} ["m/x.yml"] none [] twoUnwritten

/-- What is left when that is committed with the lockfile at some path. -/
def firstCommitted (lockfile : String) : Commit :=
  (Commit.ofReport firstReport { path := lockfile, known := some [] } twoUnwritten).2

/-- Afterwards its output is changed by hand. -/
def handEdited (lockfile : String) : Disk :=
  ((firstCommitted lockfile).disk.write "compiled/x.sql" "edited".toUTF8).toOption.getD (firstCommitted lockfile).disk

/-- What the first migration was compiled to. -/
def firstBody : String := "-- x\n\n-- migrate:up\n-- no changes\n\n-- migrate:down\n-- no changes\n"

theorem written_handEdited {lockfile : String}
    (written : ((firstCommitted lockfile).disk.write "compiled/x.sql" "edited".toUTF8).toOption.isSome = true) :
    (firstCommitted lockfile).disk.write "compiled/x.sql" "edited".toUTF8 = .ok (handEdited lockfile) := by
  obtain ⟨after, written⟩ := exists_of_isSome written
  rw [handEdited, written]
  rfl

theorem committed_first {lockfile : String}
    (success : (Commit.ofReport firstReport { path := lockfile, known := some [] } twoUnwritten).1 = .ok ()) :
    Commit.ofReport firstReport { path := lockfile, known := some [] } twoUnwritten =
      (.ok (), firstCommitted lockfile) := by
  obtain ⟨state, committed⟩ := Commit.exists_state success
  rw [firstCommitted, committed]

theorem exists_first : ∃ file, firstReport.files[0]? = some (.ok file) ∧ file.body = firstBody := by
  have first : (firstReport.files[0]?.bind Except.toOption).map CompiledFile.body = some firstBody := by decide +kernel
  obtain ⟨file, first, body⟩ := Option.map_eq_some_iff.mp first
  obtain ⟨_ | _, succeeded, some⟩ := Option.bind_eq_some_iff.mp first <;> cases some
  exact ⟨file, succeeded, body⟩

/-- The change is still reported after another run with both migrations. -/
theorem tampering_detected_handEdited : ∃ file held last,
    firstReport.files[0]? = some (.ok file) ∧
      Onward {} "m/x.yml" none (firstCommitted "oxide-guard.lock").lockfile (handEdited "oxide-guard.lock") held last ∧
      Detected {} "m/x.yml" none file.record "edited".toUTF8 held last := by
  have tree : twoUnwritten.IsTree := Disk.isTree_holding _
  have separate : Separate {} ["m/x.yml"] none "oxide-guard.lock" twoUnwritten := by decide +kernel
  have entries : Lockfile.entries { path := "oxide-guard.lock", known := some [] } twoUnwritten = .ok [] := rfl
  have compiled : compile {} ["m/x.yml"] none { path := "oxide-guard.lock", known := some [] } twoUnwritten =
      .ok firstReport := compile_eq_ok_iff.mpr ⟨[], entries, rfl⟩
  have success : (Commit.ofReport firstReport { path := "oxide-guard.lock", known := some [] } twoUnwritten).1 =
      .ok () := by decide +kernel
  have committed := committed_first success
  have result := run_result { path := "oxide-guard.lock", known := some [] } tree separate entries committed
  obtain ⟨file, succeeded, body⟩ := exists_first
  obtain ⟨earlier, read⟩ : ∃ earlier, (firstCommitted "oxide-guard.lock").disk.read "compiled/x.sql" = .ok earlier :=
    exists_of_isSome (by decide +kernel)
  have written : (firstCommitted "oxide-guard.lock").disk.write "compiled/x.sql" "edited".toUTF8 =
      .ok (handEdited "oxide-guard.lock") := written_handEdited (by decide +kernel)
  have apart : ∀ path ∈ ["oxide-guard.lock", "m/x.yml"],
      Path.place (firstCommitted "oxide-guard.lock").disk.home path ≠
        Path.place (firstCommitted "oxide-guard.lock").disk.home "compiled/x.sql" := by
    rw [result.home]
    decide
  have spares := Disk.spares_of_write result.tree written read apart
  have output : (handEdited "oxide-guard.lock").read "compiled/x.sql" = .ok "edited".toUTF8 := by decide +kernel
  have distinct : Digest.of "edited".toUTF8 ≠ Digest.of firstBody.toUTF8 := by decide +kernel
  have injective : Set.InjOn Digest.of {"edited".toUTF8, firstBody.toUTF8} := by
    rintro _ (rfl | rfl) _ (rfl | rfl) same
    · rfl
    · exact absurd same distinct
    · exact absurd same.symm distinct
    · rfl
  -- The lockfile that is held remembers what it remembers on the disk, so there is another report.
  obtain ⟨done, -, -, known⟩ := lockfile_of_run entries committed
  have again : Separate {} ["m/x.yml", "m/y.yml"] none (firstCommitted "oxide-guard.lock").lockfile.path
      (handEdited "oxide-guard.lock") := by
    rw [show (firstCommitted "oxide-guard.lock").lockfile.path = "oxide-guard.lock" from congrArg Lockfile.path known]
    decide +kernel
  have entries : (firstCommitted "oxide-guard.lock").lockfile.entries (handEdited "oxide-guard.lock") =
      .ok (Ledger.remember [] done) := by
    rw [known]
    rfl
  have report : compile {} ["m/x.yml", "m/y.yml"] none (firstCommitted "oxide-guard.lock").lockfile
      (handEdited "oxide-guard.lock") = .ok _ := compile_eq_ok_iff.mpr ⟨_, entries, rfl⟩
  have later : Onward {} "m/x.yml" none (firstCommitted "oxide-guard.lock").lockfile (handEdited "oxide-guard.lock")
      _ _ := .run .here (by simp) (by decide) again report (Prod.eta _).symm
  refine ⟨file, _, _, succeeded, later, ?_⟩
  exact tampering_detected tree (fun _ remembered => by cases remembered; exact .nil) separate compiled committed rfl
    succeeded spares output (fun same => distinct (by rw [same, body])) (body ▸ injective) later

/-- Nothing is found of an output at whose path the lockfile is: what is changed there is the lockfile. -/
theorem undetected_outputAsLockfile : ∃ file,
    Config.check { lockfile := "compiled/x.sql" } = .ok () ∧
      compile {} ["m/x.yml"] none { path := "compiled/x.sql" } twoUnwritten = .ok firstReport ∧
      firstReport.files[0]? = some (.ok file) ∧
      Commit.ofReport firstReport (Lockfile.asked { path := "compiled/x.sql" } twoUnwritten) twoUnwritten =
        (.ok (), firstCommitted "compiled/x.sql") ∧
      (firstCommitted "compiled/x.sql").disk.write (outputPath {} "m/x.yml" none) "edited".toUTF8 =
        .ok (handEdited "compiled/x.sql") ∧
      "edited" ≠ file.body ∧
      (handEdited "compiled/x.sql").read "m/x.yml" = .ok "up: []\ndown: []\n".toUTF8 ∧
      status {} ["m/x.yml"] none { path := "compiled/x.sql" } (handEdited "compiled/x.sql") =
        .error (.lockfile "compiled/x.sql" .malformed) ∧
      compile {} ["m/x.yml"] none { path := "compiled/x.sql" } (handEdited "compiled/x.sql") =
        .error (.lockfile "compiled/x.sql" .malformed) := by
  have entries : Lockfile.entries { path := "compiled/x.sql" } twoUnwritten = .ok [] := by decide +kernel
  have asked := Lockfile.asked_of_entries { path := "compiled/x.sql" } entries
  obtain ⟨file, succeeded, body⟩ := exists_first
  have success : (Commit.ofReport firstReport { path := "compiled/x.sql", known := some [] } twoUnwritten).1 =
      .ok () := by decide +kernel
  have committed := committed_first success
  have unread : Lockfile.entries { path := "compiled/x.sql" } (handEdited "compiled/x.sql") =
      .error (.lockfile "compiled/x.sql" .malformed) := by decide +kernel
  refine ⟨file, by decide, compile_eq_ok_iff.mpr ⟨[], entries, rfl⟩, succeeded, asked ▸ committed,
    written_handEdited (by decide +kernel), by rw [body]; decide, by decide +kernel, ?_, ?_⟩
  · decide +kernel
  · rw [compile, unread]
    rfl

end Compiler

end SafeMigration
