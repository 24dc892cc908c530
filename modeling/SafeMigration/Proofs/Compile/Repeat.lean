import SafeMigration.Proofs.Compile.Recovery
import SafeMigration.Proofs.Disk.Opened

/-!
Compiling and committing again changes nothing.

After a commit every source that was compiled is as it was remembered, and its output is what was written, so it is
kept. A source that failed has the same content, the same record and the same output as before, so it fails for the same
reason. Hence nothing is written the second time, and the ledger that is saved is the one that was read.

There is one exception to this. The commit makes directories, and a path that led by two dots out of a directory before
it was there can be followed afterwards; so a source that could not be read may be read then, or an output that seemed
missing may be found.
-/

namespace SafeMigration

namespace Entries

variable {α : Type} {entries : Entries α} {key : String} {value : α}

/-- Putting an entry that is there changes nothing. -/
theorem Ordered.put_of_get? (ordered : Ordered entries) (found : get? entries key = some value) :
    Entries.put entries key value = entries := by
  induction entries with
  | nil => cases found
  | cons entry rest ih =>
    obtain ⟨k, v⟩ := entry
    obtain ⟨first, later⟩ := List.pairwise_cons.mp ordered
    rw [get?] at found
    rw [Entries.put]
    split at found
    next same =>
      cases found
      rw [if_pos same, same]
    next different =>
      have less : k < key := first _ (mem_of_get? found)
      have notBefore : ¬ Text.precedes key k = true := fun before =>
        lt_asymm less ((Text.precedes_iff_lt key k).mp before)
      rw [if_neg different, if_neg notBefore, ih later found]

end Entries

namespace CompiledFile

/-- The same file with its output kept. -/
def asKept (file : CompiledFile) : CompiledFile := { file with outcome := .unchanged }

end CompiledFile

/-- The same compiler with another way to write out migrations. -/
def Compiler.rendering (compiler : Compiler) (render : ValidatedMigration → Except MigrationError String) : Compiler :=
  { compiler with renderer := { compiler.renderer with render } }

theorem Compiler.rendering_self (compiler : Compiler) : compiler.rendering compiler.renderer.render = compiler := rfl

theorem Compiler.Known.rendering {compiler : Compiler} {path : String} {database : Option String} {ledger : Ledger}
    {disk : Disk} {content : ByteArray} {known : DigestRecord}
    (isKnown : Known compiler path database ledger disk content known)
    (render : ValidatedMigration → Except MigrationError String) :
    Known (compiler.rendering render) path database ledger disk content known :=
  ⟨isKnown.source, isKnown.remembered, isKnown.held, isKnown.same⟩

namespace Commit

variable {files : List CompiledFile} {path : String} {ledger : Ledger} {disk : Disk} {state : Commit}
  {outcome : Except MigrationError Unit}

/-- A location on a way that a commit makes is missing on it, if nothing is there. -/
theorem missing_of_way {location : Location} (absent : disk.node? location = none)
    (around : location ∈ Path.way disk.home path ∨
      ∃ file ∈ files, file.outcome = .compiled ∧ location ∈ Path.way disk.home file.outputPath) :
    disk.Missing (path :: files.map CompiledFile.outputPath) location := by
  refine ⟨absent, ?_⟩
  rcases around with around | ⟨file, member, _, around⟩
  · exact ⟨path, List.mem_cons_self, around⟩
  · exact ⟨file.outputPath, List.mem_cons_of_mem _ (List.mem_map_of_mem member), around⟩

/-- A commit does no more to a path apart from all that it writes than to make directories on its way. -/
theorem Result.opened (result : Result files path ledger disk (outcome, state)) {other : String}
    (outputs : ∀ file ∈ files, file.outcome = .compiled → Path.Apart disk.home other file.outputPath)
    (fromLockfile : Path.Apart disk.home other path)
    (fromTemporary : Path.Apart disk.home other (Lockfile.temporaryOf path disk.process)) :
    Disk.Opened (path :: files.map CompiledFile.outputPath) other disk state.disk := by
  refine ⟨result.home, ?_, fun location onWay => ?_⟩
  · exact result.elsewhere (fun file member compiled =>
      ⟨(outputs file member compiled).places, (outputs file member compiled).onWay⟩) fromLockfile.places
      fromLockfile.onWay fromTemporary.places
  · rcases result.node location (fun same => fromLockfile.under (same ▸ onWay))
      (fun same => fromTemporary.under (by rwa [same, Lockfile.temporaryPlace] at onWay)) with
      same | ⟨absent, made, around⟩ | ⟨file, member, compiled, here, _⟩
    · exact .inl same
    · exact .inr ⟨missing_of_way absent around, made⟩
    · exact absurd (here ▸ onWay) (outputs file member compiled).under

/-- After a commit that succeeds the files are remembered. -/
theorem Result.remembers (result : Result files path ledger disk (.ok (), state)) (ordered : Entries.Ordered ledger) :
    Lockfile.read path state.disk = .ok (ledger.remember files) := by
  cases result with
  | done _ _ saved => exact saved.read (Ledger.ordered_remember ordered files)

/-- Files that are kept and remembered are passed over. -/
theorem addAll_of_kept (known : state.lockfile.known = some ledger) (ordered : Entries.Ordered ledger)
    (kept : ∀ file ∈ files, file.outcome = .unchanged)
    (recorded : ∀ file ∈ files, Entries.get? ledger file.key = some file.record) :
    state.addAll files = (.ok (), state) := by
  induction files with
  | nil => rfl
  | cons file files ih =>
    obtain ⟨unchanged, kept⟩ := List.forall_mem_cons.mp kept
    obtain ⟨first, recorded⟩ := List.forall_mem_cons.mp recorded
    have added : state.add file = (.ok (), state) := by
      simp only [add, CompiledFile.write, unchanged, record_of_known known, ordered.put_of_get? first]
      rw [← known]
    rw [addAll_of_add added]
    exact ih kept recorded

end Commit

namespace Compiler

variable {compiler : Compiler} {sources : List String} {database : Option String} {path target : String}
  {ledger later : Ledger} {lockfile : Lockfile} {disk after : Disk} {file : CompiledFile} {report : Report}
  {state : Commit} {outcome : Except MigrationError Unit}

/-- What becomes of a source is decided by its content, its record and what its output's path leads to. -/
theorem compileFile_congr (source : after.read path = disk.read path)
    (record : Entries.get? later (Ledger.key (Path.label path) database) =
      Entries.get? ledger (Ledger.key (Path.label path) database))
    (output : after.find? (compiler.outputPath path database) = disk.find? (compiler.outputPath path database)) :
    compiler.compileFile path database later after = compiler.compileFile path database ledger disk := by
  have held : after.holds (compiler.outputPath path database) = disk.holds (compiler.outputPath path database) := by
    rw [Disk.holds, output, Disk.holds]
  have detected : ∀ digest, FileStatus.detect (Entries.get? ledger (Ledger.key (Path.label path) database)) digest
      (compiler.outputPath path database) after =
        FileStatus.detect (Entries.get? ledger (Ledger.key (Path.label path) database)) digest
          (compiler.outputPath path database) disk := by
    intro digest
    unfold FileStatus.detect
    rw [held]
    split
    · rfl
    · split
      · rfl
      next there =>
        have there : after.holds (compiler.outputPath path database) = true := by rw [held]; simpa using there
        rw [Disk.read_of_find? there output]
  simp only [compileFile, inspect, readSource, source, record, detected]

theorem getElem?_files {index : Nat} (listed : sources[index]? = some path) :
    (compiler.compileAll sources database ledger disk).files[index]? =
      some (compiler.resultAt sources database ledger disk (path, index)) := by
  rw [files_compileAll, List.getElem?_map, List.getElem?_zipIdx, listed, Nat.zero_add]
  rfl

/-- A file of a report was compiled from the source at its place in the list. -/
theorem exists_source_of_files {index : Nat}
    (there : (compiler.compileAll sources database ledger disk).files[index]? = some (.ok file)) :
    ∃ path, sources[index]? = some path ∧ compiler.Alone sources database path ∧
      compiler.compileFile path database ledger disk = .ok file := by
  cases listed : sources[index]? with
  | none =>
    rw [files_compileAll, List.getElem?_map, List.getElem?_zipIdx, listed] at there
    cases there
  | some path =>
    rw [getElem?_files listed] at there
    have compiledTo := toOption_resultAt compiler database ledger disk listed
    rw [Option.some.inj there] at compiledTo
    obtain ⟨alone, success⟩ := compiledOf_eq_some_iff.mp compiledTo.symm
    exact ⟨path, rfl, alone, success⟩

/-- What becomes of each source of a list is decided by what becomes of those that are alone. -/
theorem resultAt_map {index : Nat} {change : CompiledFile → CompiledFile} (listed : sources[index]? = some path)
    (each : compiler.Alone sources database path → compiler.compileFile path database later after =
      (compiler.compileFile path database ledger disk).map change) :
    compiler.resultAt sources database later after (path, index) =
      (compiler.resultAt sources database ledger disk (path, index)).map change := by
  by_cases alone : compiler.Alone sources database path
  · rw [resultAt_of_alone listed alone, resultAt_of_alone listed alone, each alone]
    cases compiler.compileFile path database ledger disk <;> rfl
  · have rivalled := (rivals_eq_nil_iff compiler database listed).not.mpr alone
    unfold resultAt
    split
    next none => exact absurd none rivalled
    · rfl

section

variable (separate : compiler.Separate sources database target disk)
  (result : Commit.Result (compiler.compileAll sources database ledger disk).compiled target ledger disk
    (outcome, state))

include separate result

theorem opened_source (listed : path ∈ sources) :
    Disk.Opened (target :: (compiler.compileAll sources database ledger disk).compiled.map CompiledFile.outputPath)
      path disk state.disk :=
  result.opened (fun _ member _ => separate.fromOutputs _ listed _ (output_of_compiled member))
    (separate.fromLockfile _ (List.mem_append_left _ listed))
    (separate.fromTemporary _ (List.mem_cons_of_mem _ (List.mem_append_left _ listed)))

theorem opened_output {output : String} (member : output ∈ compiler.outputs sources database)
    (unwritten : ∀ file ∈ (compiler.compileAll sources database ledger disk).compiled, file.outputPath ≠ output) :
    Disk.Opened (target :: (compiler.compileAll sources database ledger disk).compiled.map CompiledFile.outputPath)
      output disk state.disk :=
  result.opened
    (fun file inside _ => separate.amongOutputs _ member _ (output_of_compiled inside) (unwritten file inside).symm)
    (separate.output_lockfile member) (separate.output_temporary member)

/-- A source that could be read still can be. -/
theorem read_source (listed : path ∈ sources) {content : ByteArray} (read : disk.read path = .ok content) :
    state.disk.read path = .ok content := by
  obtain ⟨reaches, there⟩ := (Disk.read_eq_ok_iff ..).mp read
  have opened := opened_source separate result listed
  refine (Disk.read_eq_ok_iff ..).mpr ⟨result.reaches reaches, ?_⟩
  rw [opened.home, opened.place, there]

end

/-- The sources of a report that failed, and their outputs, are looked for along paths that the commit does not open:
none leads by two dots out of a directory that is missing and that the commit makes, and no source passes such a
directory on its way to a name that is too long. -/
structure Steady (compiler : Compiler) (database : Option String) (lockfile : String) (disk : Disk) (report : Report) :
    Prop where
  source : ∀ failure ∈ report.failures,
    ¬ disk.Leaves (lockfile :: report.compiled.map CompiledFile.outputPath) failure.path
  name : ∀ failure ∈ report.failures,
    ¬ disk.Overruns (lockfile :: report.compiled.map CompiledFile.outputPath) failure.path
  output : ∀ failure ∈ report.failures,
    ¬ disk.Leaves (lockfile :: report.compiled.map CompiledFile.outputPath)
      (compiler.outputPath failure.path database)

/-- Paths without two dots, with names that are short enough, are not opened by any commit. -/
theorem Steady.of_plain {lockfile : String}
    (plain : ∀ failure ∈ report.failures, ".." ∉ Path.segments failure.path ∧
      (∀ name ∈ Path.segments failure.path, name.utf8ByteSize ≤ Disk.maxName) ∧
      ".." ∉ Path.segments (compiler.outputPath failure.path database)) :
    compiler.Steady database lockfile disk report :=
  ⟨fun failure member => Disk.not_leaves (plain failure member).1,
    fun failure member => Disk.not_overruns (plain failure member).2.1,
    fun failure member => Disk.not_leaves (plain failure member).2.2⟩

section

variable (separate : compiler.Separate sources database target disk)
  (result : Commit.Result (compiler.compileAll sources database ledger disk).compiled target ledger disk
    (.ok (), state))

include separate result

/-- A source that was compiled is compiled to the same again, and nothing is written out for that. -/
theorem compileFile_of_compiled (listed : path ∈ sources) (alone : compiler.Alone sources database path)
    (success : compiler.compileFile path database ledger disk = .ok file)
    (render : ValidatedMigration → Except MigrationError String) :
    (compiler.rendering render).compileFile path database
        (ledger.remember (compiler.compileAll sources database ledger disk).compiled) state.disk =
      .ok file.asKept := by
  have member := mem_compiled_iff.mpr ⟨path, listed, alone, success⟩
  have origin := origin_of_compileFile success
  have named := origin.named
  obtain ⟨content, source, digest⟩ := origin.source
  have output := named.outputPath ▸ read_of_compiled separate result member
  have recorded : Entries.get? (ledger.remember _) file.key = _ :=
    Ledger.get?_remember_of_mem member fun other inside same => eq_of_key inside member same
  have held : state.disk.holds (compiler.outputPath path database) = true := Disk.holds_of_read output
  have isKnown : Known (compiler.rendering render) path database
      (ledger.remember (compiler.compileAll sources database ledger disk).compiled) state.disk content file.record :=
    ⟨read_source separate result listed source, named.key ▸ recorded, held, digest⟩
  rw [isKnown.kept output named.compiledDigest]
  -- Keeping an output does not look at the renderer.
  change compiler.reuse path database content file.body = .ok file.asKept
  cases origin with
  | rebuilt source' _ rebuild =>
    rw [source] at source'
    cases source'
    rw [reuse_of_rebuild rebuild, CompiledFile.asKept]
    conv_rhs => rw [eq_of_rebuild rebuild]
    rfl
  | kept isKnown' _ _ reuse =>
    have same := isKnown'.source
    rw [source] at same
    cases same
    have isFile := eq_of_reuse reuse
    have body : file.body = _ := congrArg CompiledFile.body isFile
    rw [body]
    refine reuse.trans ?_
    rw [CompiledFile.asKept]
    conv_rhs => rw [isFile]
    rw [isFile]
    rfl

/-- A source that failed fails again in the same way. -/
theorem compileFile_of_failed (tree : disk.IsTree)
    (steady : compiler.Steady database target disk (compiler.compileAll sources database ledger disk)) {index : Nat}
    (listed : sources[index]? = some path) (alone : compiler.Alone sources database path) {error : MigrationError}
    (failure : compiler.compileFile path database ledger disk = .error error) :
    compiler.compileFile path database
        (ledger.remember (compiler.compileAll sources database ledger disk).compiled) state.disk = .error error := by
  have member : path ∈ sources := List.mem_of_getElem? listed
  have reported : (⟨Path.label path, path, error⟩ : FileFailure) ∈
      (compiler.compileAll sources database ledger disk).failures := by
    refine mem_failures_iff.mpr ⟨path, index, listed, ?_⟩
    rw [resultAt_of_alone listed alone, failure]
    rfl
  have failed := failed_of_failure reported
  have sourceStays := steady.source _ reported
  have short := steady.name _ reported
  have outputStays := steady.output _ reported
  rw [← failure]
  refine compileFile_congr ?_ ?_ ?_
  · exact (opened_source separate result member).read tree sourceStays short
  · exact Ledger.get?_remember_of_not_mem fun file inside => failed.key_ne inside
  · exact (opened_output separate result (output_mem member) fun file inside => failed.output_ne inside).find? tree
      outputStays

/-- The second report is the first, with all outputs kept. -/
theorem files_again (tree : disk.IsTree)
    (steady : compiler.Steady database target disk (compiler.compileAll sources database ledger disk)) :
    (compiler.compileAll sources database
        (ledger.remember (compiler.compileAll sources database ledger disk).compiled) state.disk).files =
      (compiler.compileAll sources database ledger disk).files.map (Except.map CompiledFile.asKept) := by
  rw [files_compileAll, files_compileAll, List.map_map]
  refine List.map_congr_left fun ⟨path, index⟩ member => ?_
  have listed : sources[index]? = some path := List.mem_zipIdx_iff_getElem?.mp member
  refine resultAt_map listed fun alone => ?_
  cases found : compiler.compileFile path database ledger disk with
  | ok file =>
    have again := compileFile_of_compiled separate result (List.mem_of_getElem? listed) alone found
      compiler.renderer.render
    rw [rendering_self] at again
    exact again
  | error error => exact compileFile_of_failed separate result tree steady listed alone found

end

/-- What is left of compiling and committing a second time: the same files, all kept, without anything being written out
for them; the same failures; and the same disk. -/
structure Settled (compiler : Compiler) (sources : List String) (database : Option String) (lockfile : String)
    (report : Report) (disk : Disk) (again : Report) (final : Commit) : Prop where
  compiled : compiler.compile sources database { path := lockfile } disk = .ok again
  files : again.files = report.files.map (Except.map CompiledFile.asKept)
  /-- With whatever renderer, what was compiled is kept. -/
  unrendered : ∀ render, ∃ other, (compiler.rendering render).compile sources database { path := lockfile } disk =
    .ok other ∧ ∀ (index : Nat) (file : CompiledFile), report.files[index]? = some (.ok file) →
      other.files[index]? = some (.ok file.asKept)
  committed : Commit.ofReport again (Lockfile.asked { path := lockfile } disk) disk = (.ok (), final)
  written : final.written = 0
  node : ∀ location, final.disk.node? location = disk.node? location

section

variable (separate : compiler.Separate sources database target disk)
  (result : Commit.Result (compiler.compileAll sources database ledger disk).compiled target ledger disk
    (.ok (), state))

include separate result

/-- Whatever renders, the sources that were compiled are kept. -/
theorem unrendered (render : ValidatedMigration → Except MigrationError String) (index : Nat) (file : CompiledFile)
    (there : (compiler.compileAll sources database ledger disk).files[index]? = some (.ok file)) :
    ((compiler.rendering render).compileAll sources database
      (ledger.remember (compiler.compileAll sources database ledger disk).compiled) state.disk).files[index]? =
        some (.ok file.asKept) := by
  obtain ⟨path, listed, alone, success⟩ := exists_source_of_files there
  have again := compileFile_of_compiled separate result (List.mem_of_getElem? listed) alone success render
  rw [getElem?_files listed]
  exact congrArg some (resultAt_of_compiledOf listed (compiledOf_eq_some_iff.mpr ⟨alone, again⟩))

end

theorem compiled_of_files {again : Report} {change : CompiledFile → CompiledFile}
    (files : again.files = report.files.map (Except.map change)) : again.compiled = report.compiled.map change := by
  rw [Report.compiled, Report.compiled, files, List.filterMap_map, List.map_filterMap]
  refine List.filterMap_congr fun result _ => ?_
  cases result <;> rfl

/-- Compiling and committing a second time changes nothing: what was compiled is kept, what failed fails in the same
way, and the disk is left as it is. -/
theorem commit_settled (tree : disk.IsTree) (ordered : ∀ known, lockfile.known = some known → Entries.Ordered known)
    (separate : compiler.Separate sources database lockfile.path disk)
    (compiled : compiler.compile sources database lockfile disk = .ok report)
    (committed : Commit.ofReport report (lockfile.asked disk) disk = (.ok (), state))
    (steady : compiler.Steady database lockfile.path disk report) :
    ∃ again final, compiler.Settled sources database lockfile.path report state.disk again final := by
  obtain ⟨before, entries, rfl⟩ := compile_eq_ok_iff.mp compiled
  have result := run_result lockfile tree separate entries committed
  have ordered := Ledger.ordered_remember (Lockfile.ordered_of_entries ordered entries)
    (compiler.compileAll sources database before disk).compiled
  have files := files_again separate result tree steady
  have unrendered := unrendered separate result
  have recorded : ∀ file ∈ (compiler.compileAll sources database before disk).compiled,
      Entries.get? (before.remember (compiler.compileAll sources database before disk).compiled) file.key =
        some file.record := fun file member =>
    Ledger.get?_remember_of_mem member fun other inside same => eq_of_key inside member same
  cases result with
  | @done _ between stored ready saved =>
    have read := saved.read ordered
    have process : state.disk.process = disk.process := saved.process.trans stored.wrote.process
    have home : state.disk.home = disk.home := saved.home.trans stored.wrote.home
    have distinct : Path.place state.disk.home lockfile.path ≠ Lockfile.temporaryPlace lockfile.path state.disk := by
      rw [Lockfile.temporaryPlace, home, process]
      exact separate.distinct
    generalize before.remember (compiler.compileAll sources database before disk).compiled = after at *
    generalize compiler.compileAll sources database before disk = report at *
    have again := compiled_of_files files
    have asked : Lockfile.asked { path := lockfile.path } state.disk = ⟨lockfile.path, some after⟩ :=
      Lockfile.asked_of_entries { path := lockfile.path } read
    have known : Lockfile.entries ⟨lockfile.path, some after⟩ state.disk = .ok after := rfl
    obtain ⟨last, save⟩ : ∃ last, Lockfile.save ⟨lockfile.path, some after⟩ state.disk = (.ok (), last) :=
      Lockfile.Ready.save (saved.ready ready) saved.tree known distinct
    have second := Lockfile.saveResult saved.tree known distinct
    rw [save] at second
    cases second with
    | done _ savedAgain =>
      refine ⟨_, ⟨last, ⟨lockfile.path, some after⟩, 0⟩, compile_eq_ok_iff.mpr ⟨after, read, rfl⟩, files,
        fun render => ⟨_, compile_eq_ok_iff.mpr ⟨after, read, rfl⟩, unrendered render⟩, ?_, rfl,
        saved.node_again savedAgain⟩
      have passed : Commit.addAll ⟨state.disk, ⟨lockfile.path, some after⟩, 0⟩
          (report.compiled.map CompiledFile.asKept) = _ :=
        Commit.addAll_of_kept rfl ordered (List.forall_mem_map.mpr fun _ _ => rfl) (List.forall_mem_map.mpr recorded)
      rw [asked, Commit.ofReport, again, passed]
      simp only [Commit.save, save]
      rfl

/-- Of a migration, one that lacks a direction and one that is not there, the first is compiled and kept, and the others
fail twice. -/
theorem commit_settled_halfBroken : ∃ (report : Report) (state : Commit) (again : Report) (final : Commit),
    compile {} ["m/x.yml", "m/y.yml", "m/z.yml"] none { path := "oxide-guard.lock" } halfBroken = .ok report ∧
      report.compiled.length = 1 ∧ report.failures.length = 2 ∧
      Settled {} ["m/x.yml", "m/y.yml", "m/z.yml"] none "oxide-guard.lock" report state.disk again final := by
  have separate : Separate {} ["m/x.yml", "m/y.yml", "m/z.yml"] none "oxide-guard.lock" halfBroken := by decide +kernel
  have read : Lockfile.entries { path := "oxide-guard.lock" } halfBroken = .ok [] := by decide +kernel
  have compiled : compile {} ["m/x.yml", "m/y.yml", "m/z.yml"] none { path := "oxide-guard.lock" } halfBroken =
      .ok (compileAll {} ["m/x.yml", "m/y.yml", "m/z.yml"] none [] halfBroken) :=
    compile_eq_ok_iff.mpr ⟨[], read, rfl⟩
  have success : (Commit.ofReport (compileAll {} ["m/x.yml", "m/y.yml", "m/z.yml"] none [] halfBroken)
      (Lockfile.asked { path := "oxide-guard.lock" } halfBroken) halfBroken).1 = .ok () := by decide +kernel
  have counts : (compileAll {} ["m/x.yml", "m/y.yml", "m/z.yml"] none [] halfBroken).compiled.length = 1 ∧
      (compileAll {} ["m/x.yml", "m/y.yml", "m/z.yml"] none [] halfBroken).failures.length = 2 := by decide +kernel
  have steady : Steady {} none "oxide-guard.lock" halfBroken
      (compileAll {} ["m/x.yml", "m/y.yml", "m/z.yml"] none [] halfBroken) := .of_plain (by decide +kernel)
  obtain ⟨state, committed⟩ := Commit.exists_state success
  obtain ⟨again, final, settled⟩ := commit_settled (Disk.isTree_holding _) (fun _ remembered => by cases remembered)
    separate compiled committed steady
  exact ⟨_, state, again, final, compiled, counts.1, counts.2, settled⟩

theorem exists_of_isSome {ε α : Type} {result : Except ε α} (isSome : result.toOption.isSome = true) :
    ∃ value, result = .ok value := by
  cases result with
  | ok value => exact ⟨value, rfl⟩
  | error e => cases isSome

/-- What compiling the migrations leaves, one of which is to be looked for by way of the outputs. -/
def byWayCommitted : Commit :=
  (Commit.ofReport byWayReport (Lockfile.asked { path := "oxide-guard.lock" } byWay) byWay).2

/-- A source that failed as there was no directory for outputs is compiled the second time. -/
theorem not_settled_byWay : ∃ again,
    Separate {} ["m/b.yml", "compiled/../m/a.yml"] none "oxide-guard.lock" byWay ∧
      compile {} ["m/b.yml", "compiled/../m/a.yml"] none { path := "oxide-guard.lock" } byWay = .ok byWayReport ∧
      Commit.ofReport byWayReport (Lockfile.asked { path := "oxide-guard.lock" } byWay) byWay =
        (.ok (), byWayCommitted) ∧
      compile {} ["m/b.yml", "compiled/../m/a.yml"] none { path := "oxide-guard.lock" } byWayCommitted.disk =
        .ok again ∧
      (∃ failure ∈ byWayReport.failures, failure.path = "compiled/../m/a.yml") ∧
      ∃ file ∈ again.compiled, file.sourcePath = "compiled/../m/a.yml" := by
  have separate : Separate {} ["m/b.yml", "compiled/../m/a.yml"] none "oxide-guard.lock" byWay := by decide +kernel
  have entries : Lockfile.entries { path := "oxide-guard.lock" } byWay = .ok [] := by decide +kernel
  have success : (Commit.ofReport byWayReport (Lockfile.asked { path := "oxide-guard.lock" } byWay) byWay).1 =
      .ok () := by decide +kernel
  have committed : Commit.ofReport byWayReport (Lockfile.asked { path := "oxide-guard.lock" } byWay) byWay =
      (.ok (), byWayCommitted) := by
    obtain ⟨state, committed⟩ := Commit.exists_state success
    rw [byWayCommitted, committed]
  have read : Lockfile.read "oxide-guard.lock" byWayCommitted.disk =
      .ok (Ledger.remember [] byWayReport.compiled) :=
    (run_result { path := "oxide-guard.lock" } (Disk.isTree_holding _) separate entries committed).remembers .nil
  have source : byWayCommitted.disk.read "compiled/../m/a.yml" = .ok "up: []\ndown: []\n".toUTF8 := by decide +kernel
  have unrecorded : Entries.get? (Ledger.remember [] byWayReport.compiled) "a.yml" = none := by decide +kernel
  obtain ⟨file, rebuilt⟩ : ∃ file, rebuild {} "compiled/../m/a.yml" none "up: []\ndown: []\n".toUTF8 = .ok file :=
    exists_of_isSome (by decide +kernel)
  have success : compileFile {} "compiled/../m/a.yml" none (Ledger.remember [] byWayReport.compiled)
      byWayCommitted.disk = .ok file := by
    refine (compileFile_of_due source fun known remembered => ?_).trans rebuilt
    have label : Ledger.key (Path.label "compiled/../m/a.yml") none = "a.yml" := by decide
    rw [label, unrecorded] at remembered
    cases remembered
  refine ⟨_, separate, compile_eq_ok_iff.mpr ⟨[], entries, rfl⟩, committed, compile_eq_ok_iff.mpr ⟨_, read, rfl⟩,
    by decide +kernel, file, ?_, (origin_of_compileFile success).named.sourcePath⟩
  exact mem_compiled_iff.mpr ⟨_, by simp, by decide +kernel, success⟩

end Compiler

end SafeMigration
