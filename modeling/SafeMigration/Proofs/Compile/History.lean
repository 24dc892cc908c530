import Mathlib.Data.Set.Function
import SafeMigration.Proofs.Compile.Frame

/-!
Histories of runs and edits, and what can be relied on in them.

A history starts on a disk without a lockfile. Runs compile a list of sources by the lockfile as it is on the disk, and
commit the report; between runs the disk is edited, but not the lockfile. Then every record of the lockfile was made
when a source with its key was written out, and what that was written out to is among the contents of the history.
-/

namespace SafeMigration

/-- Some sources have been compiled by the lockfile at a path, and the report has been committed. -/
structure Run (compiler : Compiler) (sources : List String) (database : Option String) (lockfile : String)
    (before : Disk) (report : Report) (outcome : Except MigrationError Unit) (after : Commit) : Prop where
  separate : compiler.Separate sources database lockfile before
  compiled : compiler.compile sources database { path := lockfile } before = .ok report
  committed : Commit.ofReport report (Lockfile.asked { path := lockfile } before) before = (outcome, after)

/-- A disk all of whose files have their contents among some. -/
def Disk.Within (disk : Disk) (contents : Set ByteArray) : Prop :=
  ∀ location content, disk.node? location = some (.file content) → content ∈ contents

/-- The contents of the files on a disk. -/
def Disk.contents (disk : Disk) : List ByteArray :=
  disk.nodes.filterMap fun entry =>
    match entry.2 with
    | .file content => some content
    | .directory => none

theorem Disk.within_of_contents {disk : Disk} {contents : Set ByteArray}
    (inside : ∀ content ∈ disk.contents, content ∈ contents) : disk.Within contents := by
  intro location content found
  refine inside content (List.mem_filterMap.mpr ⟨(location, .file content), ?_, rfl⟩)
  cases location with
  | nil => cases found
  | cons name around =>
    obtain ⟨before, after, nodes, _⟩ := List.lookup_eq_some_iff.mp found
    rw [nodes]
    exact List.mem_append_right _ List.mem_cons_self

/-- A change of a disk that leaves the lockfile as it is. -/
structure Disk.Edited (lockfile : String) (before after : Disk) : Prop where
  home : after.home = before.home
  tree : after.IsTree
  lockfile : after.node? (Path.place before.home lockfile) = before.node? (Path.place before.home lockfile)

/-- The disks that can come about by edits and runs, with the files that have been committed, the last ones first.
Edits are restricted by what has been committed. -/
inductive Reached (compiler : Compiler) (lockfile : String) (edit : List CompiledFile → Disk → Disk → Prop)
    (contents : Set ByteArray) : List CompiledFile → Disk → Prop
  | start {disk : Disk} (tree : disk.IsTree) (straight : Path.place disk.home lockfile ∉ Path.way disk.home lockfile)
      (fresh : disk.node? (Path.place disk.home lockfile) = none) (within : disk.Within contents) :
      Reached compiler lockfile edit contents [] disk
  | edit {log : List CompiledFile} {before after : Disk} (reached : Reached compiler lockfile edit contents log before)
      (edited : before.Edited lockfile after) (allowed : edit log before after) (within : after.Within contents) :
      Reached compiler lockfile edit contents log after
  | run {log : List CompiledFile} {before : Disk} {sources : List String} {database : Option String} {report : Report}
      {state : Commit} (reached : Reached compiler lockfile edit contents log before)
      (run : Run compiler sources database lockfile before report (.ok ()) state)
      (within : state.disk.Within contents) :
      Reached compiler lockfile edit contents (report.compiled.reverse ++ log) state.disk
  | failed {log : List CompiledFile} {before : Disk} {sources : List String} {database : Option String}
      {report : Report} {error : MigrationError} {state : Commit}
      (reached : Reached compiler lockfile edit contents log before)
      (run : Run compiler sources database lockfile before report (.error error) state)
      (within : state.disk.Within contents) : Reached compiler lockfile edit contents log state.disk

/-- A record that was made when a source with some content was written out. -/
inductive Genuine (compiler : Compiler) (contents : Set ByteArray) : String → DigestRecord → Prop
  | intro {path : String} {database : Option String} {content : ByteArray} {file : CompiledFile}
      (rebuild : compiler.rebuild path database content = .ok file) (plain : '/' ∉ (Path.label path).toList)
      (source : content ∈ contents) (output : file.body.toUTF8 ∈ contents) :
      Genuine compiler contents (Ledger.key (Path.label path) database) file.record

/-- A ledger in order with records that were made when sources were written out. -/
structure Ledger.Sound (compiler : Compiler) (contents : Set ByteArray) (ledger : Ledger) : Prop where
  ordered : Entries.Ordered ledger
  genuine : ∀ key record, Entries.get? ledger key = some record → Genuine compiler contents key record

/-- A disk whose lockfile is sound, or is not there. -/
structure Disk.Sound (compiler : Compiler) (lockfile : String) (contents : Set ByteArray) (disk : Disk) : Prop where
  tree : disk.IsTree
  straight : Path.place disk.home lockfile ∉ Path.way disk.home lockfile
  within : disk.Within contents
  lockfile : disk.node? (Path.place disk.home lockfile) = none ∨
    ∃ ledger : Ledger, disk.node? (Path.place disk.home lockfile) = some (.file ledger.text.toUTF8) ∧
      ledger.Sound compiler contents

section

variable {compiler : Compiler} {sources : List String} {database : Option String} {lockfile path : String}
  {contents : Set ByteArray} {disk before after : Disk} {report : Report} {state : Commit} {ledger : Ledger}
  {file : CompiledFile} {content : ByteArray}

theorem Lockfile.asked_of_read (read : Lockfile.read path disk = .ok ledger) :
    Lockfile.asked { path := path } disk = { path := path, known := some ledger } :=
  Lockfile.asked_of_entries { path := path } read

/-- What is compiled by the lockfile as it is on the disk. -/
theorem Compiler.compile_of_read (read : Lockfile.read lockfile disk = .ok ledger) :
    compiler.compile sources database { path := lockfile } disk =
      .ok (compiler.compileAll sources database ledger disk) :=
  Compiler.compile_eq_ok_iff.mpr ⟨ledger, read, rfl⟩

/-- A run that succeeds, as it is carried out. -/
theorem Run.of_success (separate : compiler.Separate sources database lockfile disk)
    (read : Lockfile.read lockfile disk = .ok ledger)
    (success : (Commit.ofReport (compiler.compileAll sources database ledger disk)
      { path := lockfile, known := some ledger } disk).1 = .ok ()) :
    Run compiler sources database lockfile disk (compiler.compileAll sources database ledger disk) (.ok ())
      (Commit.ofReport (compiler.compileAll sources database ledger disk)
        { path := lockfile, known := some ledger } disk).2 := by
  refine ⟨separate, Compiler.compile_of_read read, ?_⟩
  rw [Lockfile.asked_of_read read, ← success]

/-- What a run has compiled by the ledger that it read, and what it leaves. -/
theorem Run.result {outcome : Except MigrationError Unit}
    (run : Run compiler sources database lockfile before report outcome state) (tree : before.IsTree)
    (read : Lockfile.read lockfile before = .ok ledger) :
    report = compiler.compileAll sources database ledger before ∧
      Commit.Result report.compiled lockfile ledger before (outcome, state) := by
  have compiled := run.compiled
  rw [Compiler.compile_of_read read] at compiled
  cases compiled
  exact ⟨rfl, Compiler.run_result { path := lockfile } tree run.separate read run.committed⟩

theorem Ledger.Sound.nil : Ledger.Sound compiler contents [] := ⟨.nil, fun _ _ found => by cases found⟩

/-- A lockfile that is read as it was saved, or is not there. -/
theorem Disk.Sound.read (sound : disk.Sound compiler lockfile contents) :
    ∃ ledger, Lockfile.read lockfile disk = .ok ledger ∧ ledger.Sound compiler contents := by
  cases held : disk.holds lockfile with
  | false => exact ⟨[], by simp [Lockfile.read, held], .nil⟩
  | true =>
    obtain ⟨reaches, there⟩ := (Disk.holds_eq_true_iff ..).mp held
    obtain ⟨ledger, file, ledgerSound⟩ := sound.lockfile.resolve_left there
    have content : disk.read lockfile = .ok ledger.text.toUTF8 := (Disk.read_eq_ok_iff ..).mpr ⟨reaches, file⟩
    refine ⟨ledger, ?_, ledgerSound⟩
    simp only [Lockfile.read, held, if_true, Disk.readText, content, Text.fromUTF8?_toUTF8,
      Ledger.ofText_text ledgerSound.ordered]
    rfl

/-- What a source that can be read is called is a name. -/
theorem plain_label_of_read (tree : disk.IsTree) (success : disk.read path = .ok content) :
    '/' ∉ (Path.label path).toList := by
  obtain ⟨name, found⟩ := Disk.fileName?_of_read tree success
  rw [Path.label, found]
  exact (Path.isName_of_fileName? found).plain

theorem Compiler.named_of_mem (tree : disk.IsTree)
    (member : file ∈ (compiler.compileAll sources database ledger disk).compiled) :
    ∃ path, compiler.Named path database file ∧ '/' ∉ (Path.label path).toList := by
  obtain ⟨path, _, _, success⟩ := mem_compiled_iff.mp member
  have origin := origin_of_compileFile success
  obtain ⟨content, source, _⟩ := origin.source
  exact ⟨path, origin.named, plain_label_of_read tree source⟩

/-- A record was made from a source with each path that goes with its key. -/
theorem Genuine.of_key {record : DigestRecord}
    (genuine : Genuine compiler contents (Ledger.key (Path.label path) database) record)
    (plain : '/' ∉ (Path.label path).toList) :
    ∃ content file, compiler.rebuild path database content = .ok file ∧ record = file.record ∧ content ∈ contents ∧
      file.body.toUTF8 ∈ contents := by
  generalize key : Ledger.key (Path.label path) database = written at genuine
  cases genuine with
  | @intro other _ content file rebuild plain' source output =>
    obtain ⟨label, rfl⟩ := Ledger.key_injective plain plain' key
    refine ⟨content, _, Compiler.rebuild_of_label label.symm rebuild, ?_, source, output⟩
    rw [Compiler.eq_of_rebuild rebuild]
    rfl

/-- A record of a source that is as it was remembered was made from it as it is. -/
theorem Ledger.Sound.rebuilt {known : DigestRecord} (sound : ledger.Sound compiler contents)
    (isKnown : compiler.Known path database ledger disk content known) (tree : disk.IsTree)
    (injective : Set.InjOn Digest.of contents) (inside : content ∈ contents) :
    ∃ file, compiler.rebuild path database content = .ok file ∧ known = file.record ∧
      file.body.toUTF8 ∈ contents := by
  obtain ⟨content', file, rebuild, rfl, inside', output⟩ :=
    (sound.genuine _ _ isKnown.remembered).of_key (plain_label_of_read tree isKnown.source)
  have digest : Digest.of content' = Digest.of content := by
    rw [← isKnown.same, Compiler.eq_of_rebuild rebuild]
    rfl
  obtain rfl := injective inside' inside digest
  exact ⟨file, rebuild, rfl, output⟩

/-- A file that is kept is remembered as before. -/
theorem Ledger.Sound.record_of_kept {known : DigestRecord} {body : String} (sound : ledger.Sound compiler contents)
    (isKnown : compiler.Known path database ledger disk content known) (tree : disk.IsTree)
    (written : known.compiled = Digest.ofText body)
    (reuse : compiler.reuse path database content body = .ok file) : file.record = known := by
  obtain ⟨content', made, rebuild, rfl, _⟩ :=
    (sound.genuine _ _ isKnown.remembered).of_key (plain_label_of_read tree isKnown.source)
  have same := isKnown.same
  rw [Compiler.eq_of_rebuild rebuild] at same written ⊢
  rw [Compiler.eq_of_reuse reuse]
  simp only [CompiledFile.record, Compiler.fileWith] at same written ⊢
  rw [same, written]

/-- A ledger stays sound when what was compiled by it is remembered. -/
theorem Ledger.Sound.remember (sound : ledger.Sound compiler contents) (tree : disk.IsTree)
    (within : disk.Within contents)
    (outputs : ∀ file ∈ (compiler.compileAll sources database ledger disk).compiled, file.body.toUTF8 ∈ contents) :
    (ledger.remember (compiler.compileAll sources database ledger disk).compiled).Sound compiler contents := by
  refine ⟨Ledger.ordered_remember sound.ordered _, fun key record found => ?_⟩
  rcases Ledger.get?_remember_cases found with ⟨file, member, rfl, rfl⟩ | earlier
  · obtain ⟨path, _, _, success⟩ := Compiler.mem_compiled_iff.mp member
    have origin := Compiler.origin_of_compileFile success
    rw [origin.named.key]
    cases origin with
    | rebuilt source _ rebuild =>
      exact .intro rebuild (plain_label_of_read tree source)
        (within _ _ ((Disk.read_eq_ok_iff ..).mp source).2) (outputs file member)
    | kept isKnown _ written reuse =>
      rw [sound.record_of_kept isKnown tree written reuse]
      exact sound.genuine _ _ isKnown.remembered
  · exact sound.genuine _ _ earlier

theorem Disk.Sound.edit (sound : before.Sound compiler lockfile contents) (edited : before.Edited lockfile after)
    (within : after.Within contents) : after.Sound compiler lockfile contents := by
  refine ⟨edited.tree, ?_, within, ?_⟩
  · rw [edited.home]
    exact sound.straight
  · rw [edited.home, edited.lockfile]
    exact sound.lockfile

/-- A run leaves the lockfile as it is when it fails, and otherwise remembers what was compiled by it. -/
theorem Disk.Sound.run {outcome : Except MigrationError Unit} (sound : before.Sound compiler lockfile contents)
    (run : Run compiler sources database lockfile before report outcome state)
    (within : state.disk.Within contents) : state.disk.Sound compiler lockfile contents := by
  obtain ⟨ledger, read, ledgerSound⟩ := sound.read
  obtain ⟨rfl, result⟩ := run.result sound.tree read
  have separate := run.separate
  refine ⟨result.tree, ?_, within, ?_⟩
  · rw [result.home]
    exact sound.straight
  rw [result.home]
  cases outcome with
  | error error =>
    rw [result.lockfile_of_error (fun file member => separate.output_lockfile (Compiler.output_of_compiled member))
      sound.straight separate.distinct]
    exact sound.lockfile
  | ok =>
    have outputs : ∀ file ∈ (compiler.compileAll sources database ledger before).compiled,
        file.body.toUTF8 ∈ contents := fun file member =>
      within _ _ ((Disk.read_eq_ok_iff ..).mp (Compiler.read_of_compiled separate result member)).2
    refine .inr ⟨_, ?_, ledgerSound.remember sound.tree sound.within outputs⟩
    cases result with
    | done stored _ saved =>
      rw [← stored.wrote.home]
      exact saved.file

/-- The lockfile is sound on every disk that can come about. -/
theorem Reached.sound {edit : List CompiledFile → Disk → Disk → Prop} {log : List CompiledFile}
    (reached : Reached compiler lockfile edit contents log disk) : disk.Sound compiler lockfile contents := by
  induction reached with
  | start tree straight fresh within => exact ⟨tree, straight, within, .inl fresh⟩
  | edit _ edited _ within ih => exact ih.edit edited within
  | run _ run within ih => exact ih.run run within
  | failed _ run within ih => exact ih.run run within

end

end SafeMigration
