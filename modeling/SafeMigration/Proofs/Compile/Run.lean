import SafeMigration.Proofs.Compile.Commit

/-!
A run: compiling a list of sources and committing the report.

The sources, the outputs, the lockfile and its temporary file of a run are separate from each other. Then a commit
changes the places of outputs that are written, the lockfile and the temporary file, and makes directories; the lockfile
changes only when all of it succeeds.
-/

namespace SafeMigration

namespace Compiler

variable {compiler : Compiler} {sources : List String} {path : String} {database : Option String} {ledger : Ledger}
  {lockfile : String} {disk : Disk} {file : CompiledFile}

/-- No source, output, lockfile or temporary file of a run is at the place of another or on the way to it. Sources may
share an output. -/
structure Separate (compiler : Compiler) (sources : List String) (database : Option String) (lockfile : String)
    (disk : Disk) : Prop where
  amongOutputs : ∀ output ∈ compiler.outputs sources database, ∀ other ∈ compiler.outputs sources database,
    output ≠ other → Path.Apart disk.home output other
  fromOutputs : ∀ source ∈ sources, ∀ output ∈ compiler.outputs sources database,
    Path.Apart disk.home source output
  fromLockfile : ∀ path ∈ sources ++ compiler.outputs sources database, Path.Apart disk.home path lockfile
  fromTemporary : ∀ path ∈ lockfile :: (sources ++ compiler.outputs sources database),
    Path.Apart disk.home path (Lockfile.temporaryOf lockfile disk.process)

instance (compiler : Compiler) (sources : List String) (database : Option String) (lockfile : String) (disk : Disk) :
    Decidable (compiler.Separate sources database lockfile disk) :=
  decidable_of_iff
    ((∀ output ∈ compiler.outputs sources database, ∀ other ∈ compiler.outputs sources database,
        output ≠ other → Path.Apart disk.home output other) ∧
      (∀ source ∈ sources, ∀ output ∈ compiler.outputs sources database, Path.Apart disk.home source output) ∧
      (∀ path ∈ sources ++ compiler.outputs sources database, Path.Apart disk.home path lockfile) ∧
      ∀ path ∈ lockfile :: (sources ++ compiler.outputs sources database),
        Path.Apart disk.home path (Lockfile.temporaryOf lockfile disk.process))
    ⟨fun ⟨amongOutputs, fromOutputs, fromLockfile, fromTemporary⟩ =>
      ⟨amongOutputs, fromOutputs, fromLockfile, fromTemporary⟩,
      fun separate => ⟨separate.amongOutputs, separate.fromOutputs, separate.fromLockfile, separate.fromTemporary⟩⟩

/-- There is a report if the lockfile can be read. -/
theorem compile_eq_ok_iff {lockfile : Lockfile} {report : Report} :
    compiler.compile sources database lockfile disk = .ok report ↔
      ∃ ledger, lockfile.entries disk = .ok ledger ∧ report = compiler.compileAll sources database ledger disk := by
  unfold compile
  cases lockfile.entries disk <;> simp [Except.map, eq_comm]

/-- A list of one source has nothing to collide with. -/
theorem compile_single (compiler : Compiler) (path : String) (database : Option String) {lockfile : Lockfile}
    (entries : lockfile.entries disk = .ok ledger) :
    compiler.compile [path] database lockfile disk =
      .ok ⟨[(compiler.compileFile path database ledger disk).mapError (FileFailure.mk (Path.label path) path)]⟩ := by
  rw [compile, entries]
  rfl

theorem output_mem (listed : path ∈ sources) : compiler.outputPath path database ∈ compiler.outputs sources database :=
  List.mem_map_of_mem listed

theorem output_of_compiled (member : file ∈ (compiler.compileAll sources database ledger disk).compiled) :
    file.outputPath ∈ compiler.outputs sources database := by
  obtain ⟨path, listed, _, success⟩ := mem_compiled_iff.mp member
  rw [(origin_of_compileFile success).named.outputPath]
  exact output_mem listed

/-- A source that is alone is the only one in the list with its output. -/
theorem Alone.unique {other : String} (alone : compiler.Alone sources database path) (listed : path ∈ sources)
    (listedOther : other ∈ sources)
    (same : compiler.outputPath other database = compiler.outputPath path database) : other = path := by
  have one : (sources.filter fun source =>
      compiler.outputPath source database == compiler.outputPath path database).length = 1 := by
    rw [← List.countP_eq_length_filter, ← alone, outputs, List.count, List.countP_map]
    rfl
  obtain ⟨only, filtered⟩ := List.length_eq_one_iff.mp one
  have isOnly : ∀ source ∈ sources, compiler.outputPath source database = compiler.outputPath path database →
      source = only := fun source member same => by
    have kept : source ∈ sources.filter fun source =>
        compiler.outputPath source database == compiler.outputPath path database :=
      List.mem_filter.mpr ⟨member, by simpa using same⟩
    rw [filtered] at kept
    exact List.mem_singleton.mp kept
  rw [isOnly other listedOther same, isOnly path listed rfl]

/-- A source of a list that failed. -/
structure Failed (compiler : Compiler) (sources : List String) (database : Option String) (ledger : Ledger)
    (disk : Disk) (path : String) : Prop where
  listed : path ∈ sources
  none : compiler.compiledOf sources database ledger disk path = none

theorem failed_of_failure {failure : FileFailure}
    (member : failure ∈ (compiler.compileAll sources database ledger disk).failures) :
    compiler.Failed sources database ledger disk failure.path := by
  obtain ⟨path, index, listed, failed⟩ := mem_failures_iff.mp member
  have noFile := toOption_resultAt compiler database ledger disk listed
  rw [failed] at noFile
  rw [path_of_resultAt failed]
  exact ⟨List.mem_of_getElem? listed, noFile.symm⟩

/-- No compiled file has the output of a source that failed. -/
theorem Failed.output_ne (failed : compiler.Failed sources database ledger disk path)
    (member : file ∈ (compiler.compileAll sources database ledger disk).compiled) :
    file.outputPath ≠ compiler.outputPath path database := by
  intro same
  obtain ⟨source, listed, alone, success⟩ := mem_compiled_iff.mp member
  rw [(origin_of_compileFile success).named.outputPath] at same
  have samePath := alone.unique listed failed.listed same.symm
  have none := failed.none
  rw [samePath, compiledOf_eq_some_iff.mpr ⟨alone, success⟩] at none
  cases none

/-- No compiled file has the key of a source that failed. -/
theorem Failed.key_ne (failed : compiler.Failed sources database ledger disk path)
    (member : file ∈ (compiler.compileAll sources database ledger disk).compiled) :
    file.key ≠ Ledger.key (Path.label path) database := by
  intro same
  obtain ⟨source, listed, alone, success⟩ := mem_compiled_iff.mp member
  have named := (origin_of_compileFile success).named
  have label : Path.label source = Path.label path := Ledger.key_left_cancel (named.key.symm.trans same)
  exact failed.output_ne member (by rw [named.outputPath, outputPath_of_label label])

namespace Separate

theorem spread (separate : compiler.Separate sources database lockfile disk) :
    Spread disk.home (compiler.compileAll sources database ledger disk).compiled := by
  have different := List.pairwise_map.mp (nodup_outputs_compiled compiler sources database ledger disk)
  exact different.imp_of_mem fun {file other} member member' different =>
    separate.amongOutputs _ (output_of_compiled member) _ (output_of_compiled member') different

theorem distinct (separate : compiler.Separate sources database lockfile disk) :
    Path.place disk.home lockfile ≠ Lockfile.temporaryPlace lockfile disk :=
  (separate.fromTemporary _ List.mem_cons_self).places

theorem output_lockfile (separate : compiler.Separate sources database lockfile disk) {output : String}
    (member : output ∈ compiler.outputs sources database) : Path.Apart disk.home output lockfile :=
  separate.fromLockfile _ (List.mem_append_right _ member)

theorem output_temporary (separate : compiler.Separate sources database lockfile disk) {output : String}
    (member : output ∈ compiler.outputs sources database) :
    Path.Apart disk.home output (Lockfile.temporaryOf lockfile disk.process) :=
  separate.fromTemporary _ (List.mem_cons_of_mem _ (List.mem_append_right _ member))

end Separate

end Compiler

namespace Ledger

/-- The record of a key after some files were remembered: that of the last of them with the key, if there is one. -/
theorem get?_remember_of_not_mem {ledger : Ledger} {files : List CompiledFile} {key : String}
    (none : ∀ file ∈ files, file.key ≠ key) : Entries.get? (ledger.remember files) key = Entries.get? ledger key := by
  induction files generalizing ledger with
  | nil => rfl
  | cons file files ih =>
    obtain ⟨different, none⟩ := List.forall_mem_cons.mp none
    rw [remember, List.foldl_cons, ← remember, ih none, Entries.get?_put, if_neg different]

theorem get?_remember_of_mem {ledger : Ledger} {files : List CompiledFile} {file : CompiledFile} (member : file ∈ files)
    (unique : ∀ other ∈ files, other.key = file.key → other = file) :
    Entries.get? (ledger.remember files) file.key = some file.record := by
  induction files generalizing ledger with
  | nil => cases member
  | cons first files ih =>
    have uniqueLater := (List.forall_mem_cons.mp unique).2
    rw [remember, List.foldl_cons, ← remember]
    by_cases later : file ∈ files
    · exact ih later uniqueLater
    · obtain rfl : file = first := (List.mem_cons.mp member).resolve_right later
      have none : ∀ other ∈ files, other.key ≠ file.key := fun other inside same =>
        later (uniqueLater other inside same ▸ inside)
      rw [get?_remember_of_not_mem none, Entries.get?_put, if_pos rfl]

/-- A record afterwards is that of a file that was remembered, or was there before. -/
theorem get?_remember_cases {ledger : Ledger} {files : List CompiledFile} {key : String} {record : DigestRecord}
    (found : Entries.get? (ledger.remember files) key = some record) :
    (∃ file ∈ files, file.key = key ∧ file.record = record) ∨ Entries.get? ledger key = some record := by
  induction files generalizing ledger with
  | nil => exact .inr found
  | cons file files ih =>
    rw [remember, List.foldl_cons, ← remember] at found
    rcases ih found with ⟨later, member, same⟩ | earlier
    · exact .inl ⟨later, List.mem_cons_of_mem _ member, same⟩
    · rw [Entries.get?_put] at earlier
      split at earlier
      next same =>
        cases earlier
        exact .inl ⟨file, List.mem_cons_self, same, rfl⟩
      · exact .inr earlier

theorem ordered_remember {ledger : Ledger} (ordered : Entries.Ordered ledger) (files : List CompiledFile) :
    Entries.Ordered (ledger.remember files) := by
  induction files generalizing ledger with
  | nil => exact ordered
  | cons file files ih => exact ih (ordered.put _ _)

end Ledger

/-- What a commit that succeeds leaves. -/
theorem Commit.exists_state {result : Except MigrationError Unit × Commit} (success : result.1 = .ok ()) :
    ∃ state, result = (.ok (), state) := ⟨result.2, by rw [← success]⟩

namespace Commit.Result

variable {files : List CompiledFile} {path : String} {ledger : Ledger} {disk : Disk} {state : Commit}
  {outcome : Except MigrationError Unit}

theorem home (result : Result files path ledger disk (outcome, state)) : state.disk.home = disk.home := by
  cases result with
  | done stored _ saved => exact saved.home.trans stored.wrote.home
  | unsaved _ stored touched => exact touched.home.trans stored.wrote.home
  | unwritten _ wrote => exact wrote.home

theorem tree (result : Result files path ledger disk (outcome, state)) : state.disk.IsTree := by
  cases result with
  | done _ _ saved => exact saved.tree
  | unsaved _ _ touched => exact touched.tree
  | unwritten _ wrote => exact wrote.tree

/-- A commit changes the places of outputs that were written, the lockfile and its temporary file, and makes
directories on the ways to them. -/
theorem node (result : Result files path ledger disk (outcome, state)) (location : Location)
    (notLockfile : location ≠ Path.place disk.home path)
    (notTemporary : location ≠ Lockfile.temporaryPlace path disk) :
    state.disk.node? location = disk.node? location ∨
      (disk.node? location = none ∧ state.disk.node? location = some .directory ∧
        (location ∈ Path.way disk.home path ∨
          ∃ file ∈ files, file.outcome = .compiled ∧ location ∈ Path.way disk.home file.outputPath)) ∨
      ∃ file ∈ files, file.outcome = .compiled ∧ location = Path.place disk.home file.outputPath ∧
        state.disk.node? location = some (.file file.body.toUTF8) ∧ disk.node? location ≠ some .directory := by
  cases result with
  | done stored _ saved =>
    have moved := saved.node location (by rwa [stored.wrote.home])
      (by rwa [Lockfile.temporaryPlace_congr stored.wrote.home stored.wrote.process])
    rw [stored.wrote.home] at moved
    exact stored.wrote.node_of_grows moved
  | unsaved _ stored touched =>
    have moved := touched.node location (by rwa [Lockfile.temporaryPlace, stored.wrote.home, stored.wrote.process])
    rw [stored.wrote.home] at moved
    exact stored.wrote.node_of_grows moved
  | unwritten _ wrote => exact wrote.node_of_grows (.inl rfl)

/-- A location on none of the ways, where nothing is written, is left alone. -/
theorem elsewhere (result : Result files path ledger disk (outcome, state)) {location : Location}
    (outputs : ∀ file ∈ files, file.outcome = .compiled → location ≠ Path.place disk.home file.outputPath ∧
      location ∉ Path.way disk.home file.outputPath)
    (notLockfile : location ≠ Path.place disk.home path) (offWay : location ∉ Path.way disk.home path)
    (notTemporary : location ≠ Lockfile.temporaryPlace path disk) :
    state.disk.node? location = disk.node? location := by
  rcases result.node location notLockfile notTemporary with
    same | ⟨_, _, onWay | ⟨file, member, compiled, onWay⟩⟩ | ⟨file, member, compiled, here, _⟩
  · exact same
  · exact absurd onWay offWay
  · exact absurd onWay (outputs file member compiled).2
  · exact absurd here (outputs file member compiled).1

/-- A commit that fails leaves the lockfile as it was. -/
theorem lockfile_of_error {error : MigrationError} (result : Result files path ledger disk (.error error, state))
    (outputs : ∀ file ∈ files, Path.Apart disk.home file.outputPath path)
    (straight : Path.place disk.home path ∉ Path.way disk.home path)
    (distinct : Path.place disk.home path ≠ Lockfile.temporaryPlace path disk) :
    state.disk.node? (Path.place disk.home path) = disk.node? (Path.place disk.home path) := by
  have written : ∀ {between : Disk}, Disk.Wrote files disk between →
      between.node? (Path.place disk.home path) = disk.node? (Path.place disk.home path) :=
    fun wrote => wrote.elsewhere fun file member _ =>
      ⟨(outputs file member).places.symm, (outputs file member).under⟩
  cases result with
  | unsaved _ stored touched =>
    have moved := touched.node (Path.place disk.home path)
      (by rwa [Lockfile.temporaryPlace, stored.wrote.home, stored.wrote.process])
    rw [stored.wrote.home] at moved
    rw [← written stored.wrote]
    exact moved.resolve_right fun made => straight made.2.2
  | unwritten _ wrote => exact written wrote

/-- Directories stay. -/
theorem directory (result : Result files path ledger disk (outcome, state)) {location : Location}
    (directory : disk.node? location = some .directory) : state.disk.node? location = some .directory := by
  cases result with
  | done stored ready saved =>
    have there := stored.wrote.directory directory
    exact saved.kept (fun same => ready.vacant (same ▸ there)) (fun same => ready.vacantTemporary (same ▸ there)) there
  | unsaved _ stored touched => exact touched.directory location (stored.wrote.directory directory)
  | unwritten _ wrote => exact wrote.directory directory

/-- A path that could be followed still can. -/
theorem reaches (result : Result files path ledger disk (outcome, state)) {other : String}
    (reaches : disk.Reaches other) : state.disk.Reaches other :=
  reaches.mono result.home fun _ _ => result.directory

/-- After a commit that succeeds every new output is there. -/
theorem read (result : Result files path ledger disk (.ok (), state)) {file : CompiledFile} (member : file ∈ files)
    (compiled : file.outcome = .compiled) (fromLockfile : Path.Apart disk.home file.outputPath path)
    (fromTemporary : Path.Apart disk.home file.outputPath (Lockfile.temporaryOf path disk.process)) :
    state.disk.read file.outputPath = .ok file.body.toUTF8 := by
  cases result with
  | @done _ between stored _ saved =>
    have moved : ∀ location, location ≠ Path.place disk.home path → location ≠ Lockfile.temporaryPlace path disk →
        ∀ node, between.node? location = some node → state.disk.node? location = some node :=
      fun location notLockfile notTemporary node => saved.kept (by rwa [stored.wrote.home])
        (by rwa [Lockfile.temporaryPlace_congr stored.wrote.home stored.wrote.process])
    have home : state.disk.home = disk.home := saved.home.trans stored.wrote.home
    refine (Disk.read_eq_ok_iff ..).mpr ⟨⟨(stored.accepted file member compiled).legal, fun location onWay => ?_⟩, ?_⟩
    · rw [home] at onWay
      have offTemporary : location ≠ Lockfile.temporaryPlace path disk := fun same => by
        rw [same] at onWay
        exact fromTemporary.under onWay
      exact moved location (fun same => fromLockfile.under (same ▸ onWay)) offTemporary _
        (stored.way file member compiled location onWay)
    · rw [home]
      exact moved _ fromLockfile.places fromTemporary.places _ (stored.file file member compiled)

end Commit.Result

end SafeMigration
