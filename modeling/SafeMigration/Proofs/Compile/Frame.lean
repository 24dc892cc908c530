import SafeMigration.Proofs.Compile.Run
import SafeMigration.Proofs.Lockfile.Reload

/-!
Sources that fail leave no trace.

No compiled file of a list has the output or the key of a source of the list that failed. So a commit that succeeds
leaves those as they were, and it leaves the same as if the sources that failed had not been listed.
-/

namespace SafeMigration

namespace Lockfile

variable {lockfile : Lockfile} {ledger : Ledger} {disk : Disk}

theorem asked_of_entries (lockfile : Lockfile) (entries : lockfile.entries disk = .ok ledger) :
    lockfile.asked disk = { lockfile with known := some ledger } := by
  rw [asked, entries]
  rfl

end Lockfile

namespace Compiler

variable {compiler : Compiler} {sources : List String} {database : Option String} {path target : String}
  {ledger : Ledger} {lockfile : Lockfile} {disk : Disk} {file : CompiledFile} {report : Report} {state : Commit}
  {outcome : Except MigrationError Unit}

/-- What a run leaves, by what it has compiled. -/
theorem run_result (lockfile : Lockfile) (tree : disk.IsTree)
    (separate : compiler.Separate sources database lockfile.path disk) (entries : lockfile.entries disk = .ok ledger)
    (commit : Commit.ofReport (compiler.compileAll sources database ledger disk) (lockfile.asked disk) disk =
      (outcome, state)) :
    Commit.Result (compiler.compileAll sources database ledger disk).compiled lockfile.path ledger disk
      (outcome, state) := by
  rw [← commit, Lockfile.asked_of_entries lockfile entries]
  exact Commit.result _ { lockfile with known := some ledger } tree rfl separate.spread separate.distinct

theorem resultAt_of_compiledOf {index : Nat} (listed : sources[index]? = some path)
    (compiled : compiler.compiledOf sources database ledger disk path = some file) :
    compiler.resultAt sources database ledger disk (path, index) = .ok file := by
  have result := toOption_resultAt compiler database ledger disk listed
  rw [compiled] at result
  cases found : compiler.resultAt sources database ledger disk (path, index) with
  | ok other =>
    rw [found] at result
    cases result
    rfl
  | error failure =>
    rw [found] at result
    cases result

/-- A source that is alone in a list is alone in every part of it. -/
theorem Alone.sublist {listed : List String} (alone : compiler.Alone sources database path)
    (part : listed.Sublist sources) (member : path ∈ listed) : compiler.Alone listed database path := by
  have most := (part.map fun path => compiler.outputPath path database).count_le (compiler.outputPath path database)
  have output : compiler.outputPath path database ∈ compiler.outputs listed database := output_mem member
  have least := List.count_pos_iff.mpr output
  rw [Alone] at alone ⊢
  exact le_antisymm (alone ▸ most) least

/-- The sources that were compiled are all compiled to the same when the others are left out. -/
theorem compileAll_compiled (compiler : Compiler) (sources : List String) (database : Option String) (ledger : Ledger)
    (disk : Disk) :
    (compiler.compileAll ((compiler.compileAll sources database ledger disk).compiled.map CompiledFile.sourcePath)
      database ledger disk).files = (compiler.compileAll sources database ledger disk).compiled.map .ok := by
  generalize files : (compiler.compileAll sources database ledger disk).compiled = compiled
  have part : (compiled.map CompiledFile.sourcePath).Sublist sources := by
    rw [← files, compiled_compileAll]
    exact compiled_sublist ..
  have again : ∀ listed ∈ compiled.zipIdx,
      compiler.resultAt (compiled.map CompiledFile.sourcePath) database ledger disk (listed.1.sourcePath, listed.2) =
        .ok listed.1 := by
    rintro ⟨file, index⟩ listed
    have there : compiled[index]? = some file := List.mem_zipIdx_iff_getElem?.mp listed
    have member : file ∈ compiled := List.mem_of_getElem? there
    obtain ⟨path, _, alone, success⟩ := mem_compiled_iff.mp (files ▸ member)
    have samePath := (origin_of_compileFile success).named.sourcePath
    rw [← samePath] at alone success
    exact resultAt_of_compiledOf (by simp [there])
      (compiledOf_eq_some_iff.mpr ⟨alone.sublist part (List.mem_map_of_mem member), success⟩)
  calc (compiler.compileAll (compiled.map CompiledFile.sourcePath) database ledger disk).files
      = compiled.zipIdx.map fun listed => compiler.resultAt (compiled.map CompiledFile.sourcePath) database ledger disk
          (listed.1.sourcePath, listed.2) := by
        rw [files_compileAll, List.zipIdx_map, List.map_map]
        rfl
    _ = compiled.zipIdx.map fun listed => .ok listed.1 := List.map_congr_left again
    _ = (compiled.zipIdx.map Prod.fst).map .ok := by
        rw [List.map_map]
        rfl
    _ = compiled.map .ok := by rw [List.zipIdx_map_fst]

/-- What a run that succeeds has done, `before` being what was remembered and `after` what is. -/
structure Framed (compiler : Compiler) (database : Option String) (lockfile : Lockfile) (disk : Disk) (report : Report)
    (state : Commit) (before after : Ledger) : Prop where
  remembered : lockfile.entries disk = .ok before
  saved : Lockfile.read lockfile.path state.disk = .ok after
  /-- Where the output of a failed source is, there is what was there. -/
  failedOutput : ∀ failure ∈ report.failures,
    state.disk.node? (Path.place disk.home (compiler.outputPath failure.path database)) =
      disk.node? (Path.place disk.home (compiler.outputPath failure.path database))
  failedContent : ∀ failure ∈ report.failures, ∀ content,
    disk.read (compiler.outputPath failure.path database) = .ok content →
      state.disk.read (compiler.outputPath failure.path database) = .ok content
  failedRecord : ∀ failure ∈ report.failures,
    Entries.get? after (Ledger.key (Path.label failure.path) database) =
      Entries.get? before (Ledger.key (Path.label failure.path) database)
  /-- The output of a compiled source has its body. -/
  output : ∀ file ∈ report.compiled, state.disk.read file.outputPath = .ok file.body.toUTF8
  record : ∀ file ∈ report.compiled, Entries.get? after file.key = some file.record
  /-- But for the lockfile and its temporary file nothing has changed except new outputs, and directories that were
  made on the way to these or to the lockfile. -/
  node : ∀ location, location ≠ Path.place disk.home lockfile.path →
    location ≠ Lockfile.temporaryPlace lockfile.path disk →
      state.disk.node? location = disk.node? location ∨
        (disk.node? location = none ∧ state.disk.node? location = some .directory ∧
          (location ∈ Path.way disk.home lockfile.path ∨
            ∃ file ∈ report.compiled, file.outcome = .compiled ∧ location ∈ Path.way disk.home file.outputPath)) ∨
        ∃ file ∈ report.compiled, file.outcome = .compiled ∧ location = Path.place disk.home file.outputPath ∧
          state.disk.node? location = some (.file file.body.toUTF8)
  otherRecord : ∀ key, (∀ file ∈ report.compiled, file.key ≠ key) →
    Entries.get? after key = Entries.get? before key
  /-- The compiled sources alone give the same results and leave the same. -/
  alone : ∃ part, compiler.compile (report.compiled.map CompiledFile.sourcePath) database lockfile disk = .ok part ∧
    part.files = report.compiled.map .ok ∧
    Commit.ofReport part (lockfile.asked disk) disk = (.ok (), state)

/-- The output of a source stays where it is unless it is compiled anew. -/
theorem Separate.node_output (separate : compiler.Separate sources database target disk)
    (result : Commit.Result (compiler.compileAll sources database ledger disk).compiled target ledger disk
      (outcome, state)) {output : String} (member : output ∈ compiler.outputs sources database)
    (unwritten : ∀ file ∈ (compiler.compileAll sources database ledger disk).compiled, file.outcome = .compiled →
      file.outputPath ≠ output) :
    state.disk.node? (Path.place disk.home output) = disk.node? (Path.place disk.home output) := by
  have fromLockfile := separate.output_lockfile member
  refine result.elsewhere (fun file inside compiled => ?_) fromLockfile.places fromLockfile.onWay
    (separate.output_temporary member).places
  have apart := separate.amongOutputs _ member _ (output_of_compiled inside) (unwritten file inside compiled).symm
  exact ⟨apart.places, apart.onWay⟩

/-- So does its content. -/
theorem Separate.read_output (separate : compiler.Separate sources database target disk)
    (result : Commit.Result (compiler.compileAll sources database ledger disk).compiled target ledger disk
      (outcome, state)) {output : String} (member : output ∈ compiler.outputs sources database)
    (unwritten : ∀ file ∈ (compiler.compileAll sources database ledger disk).compiled, file.outcome = .compiled →
      file.outputPath ≠ output) {content : ByteArray} (read : disk.read output = .ok content) :
    state.disk.read output = .ok content := by
  obtain ⟨reaches, there⟩ := (Disk.read_eq_ok_iff ..).mp read
  refine (Disk.read_eq_ok_iff ..).mpr ⟨result.reaches reaches, ?_⟩
  rw [result.home, separate.node_output result member unwritten, there]

/-- Outputs that are kept are no others than they were. -/
theorem read_of_unchanged (separate : compiler.Separate sources database target disk)
    (result : Commit.Result (compiler.compileAll sources database ledger disk).compiled target ledger disk
      (outcome, state)) (member : file ∈ (compiler.compileAll sources database ledger disk).compiled)
    (unchanged : file.outcome = .unchanged) : state.disk.read file.outputPath = .ok file.body.toUTF8 := by
  refine separate.read_output result (output_of_compiled member) (fun other inside compiled same => ?_) ?_
  · have distinct := nodup_outputs_compiled compiler sources database ledger disk
    rw [List.inj_on_of_nodup_map distinct inside member same, unchanged] at compiled
    cases compiled
  · obtain ⟨path, _, _, success⟩ := mem_compiled_iff.mp member
    have named := (origin_of_compileFile success).named
    cases origin_of_compileFile success with
    | rebuilt _ _ rebuild =>
      rw [eq_of_rebuild rebuild] at unchanged
      cases unchanged
    | kept _ output _ reuse =>
      rw [named.outputPath, output, eq_of_reuse reuse]
      rfl

/-- The outputs of all compiled files are there after a run that succeeds. -/
theorem read_of_compiled (separate : compiler.Separate sources database target disk)
    (result : Commit.Result (compiler.compileAll sources database ledger disk).compiled target ledger disk
      (.ok (), state)) (member : file ∈ (compiler.compileAll sources database ledger disk).compiled) :
    state.disk.read file.outputPath = .ok file.body.toUTF8 := by
  have listed := output_of_compiled member
  cases outcome : file.outcome with
  | compiled => exact result.read member outcome (separate.output_lockfile listed) (separate.output_temporary listed)
  | unchanged => exact read_of_unchanged separate result member outcome

/-- A run that succeeds leaves no trace of the sources that failed. -/
theorem framed_of_commit (tree : disk.IsTree) (ordered : ∀ known, lockfile.known = some known → Entries.Ordered known)
    (separate : compiler.Separate sources database lockfile.path disk)
    (compiled : compiler.compile sources database lockfile disk = .ok report)
    (committed : Commit.ofReport report (lockfile.asked disk) disk = (.ok (), state)) :
    ∃ before after, compiler.Framed database lockfile disk report state before after := by
  obtain ⟨before, entries, rfl⟩ := compile_eq_ok_iff.mp compiled
  have result := run_result lockfile tree separate entries committed
  have files := compileAll_compiled compiler sources database before disk
  have ordered := Lockfile.ordered_of_entries ordered entries
  have failed : ∀ failure ∈ (compiler.compileAll sources database before disk).failures,
      compiler.Failed sources database before disk failure.path := fun _ member => failed_of_failure member
  refine ⟨before, before.remember (compiler.compileAll sources database before disk).compiled, ?_⟩
  constructor
  case remembered => exact entries
  case saved =>
    cases result with
    | done _ _ saved => exact saved.read (Ledger.ordered_remember ordered _)
  case failedOutput =>
    intro failure member
    exact separate.node_output result (output_mem (failed failure member).listed) fun file inside _ =>
      (failed failure member).output_ne inside
  case failedContent =>
    intro failure member content
    exact separate.read_output result (output_mem (failed failure member).listed) fun file inside _ =>
      (failed failure member).output_ne inside
  case failedRecord =>
    intro failure member
    exact Ledger.get?_remember_of_not_mem fun file inside => (failed failure member).key_ne inside
  case output => exact fun file member => read_of_compiled separate result member
  case record =>
    intro file member
    exact Ledger.get?_remember_of_mem member fun other inside same => eq_of_key inside member same
  case node =>
    intro location notLockfile notTemporary
    exact (result.node location notLockfile notTemporary).imp_right (Or.imp_right fun
      ⟨file, member, isCompiled, here, written, _⟩ => ⟨file, member, isCompiled, here, written⟩)
  case otherRecord =>
    intro key none
    exact Ledger.get?_remember_of_not_mem none
  case alone =>
    refine ⟨_, compile_eq_ok_iff.mpr ⟨before, entries, rfl⟩, files, ?_⟩
    rw [← committed]
    have same : (compiler.compileAll ((compiler.compileAll sources database before disk).compiled.map
        CompiledFile.sourcePath) database before disk).compiled =
        (compiler.compileAll sources database before disk).compiled := by
      rw [Report.compiled, files, List.filterMap_map]
      exact List.filterMap_some
    rw [Commit.ofReport, same, Commit.ofReport]

/-- A disk with a migration and with one that lacks a direction. -/
def halfBroken : Disk := .holding [("m/x.yml", "up: []\ndown: []\n"), ("m/y.yml", "up: []\n")]

/-- The migration is written out and remembered, and of the other there is no trace. -/
theorem framed_halfBroken : ∃ report state before after,
    compile {} ["m/x.yml", "m/y.yml"] none { path := "oxide-guard.lock" } halfBroken = .ok report ∧
      report.compiled.length = 1 ∧ report.failures.length = 1 ∧
      Framed {} none { path := "oxide-guard.lock" } halfBroken report state before after := by
  have separate : Separate {} ["m/x.yml", "m/y.yml"] none "oxide-guard.lock" halfBroken := by decide +kernel
  have read : Lockfile.entries { path := "oxide-guard.lock" } halfBroken = .ok [] := by decide +kernel
  have compiled : compile {} ["m/x.yml", "m/y.yml"] none { path := "oxide-guard.lock" } halfBroken =
      .ok (compileAll {} ["m/x.yml", "m/y.yml"] none [] halfBroken) := compile_eq_ok_iff.mpr ⟨[], read, rfl⟩
  have success : (Commit.ofReport (compileAll {} ["m/x.yml", "m/y.yml"] none [] halfBroken)
      (Lockfile.asked { path := "oxide-guard.lock" } halfBroken) halfBroken).1 = .ok () := by decide +kernel
  have counts : (compileAll {} ["m/x.yml", "m/y.yml"] none [] halfBroken).compiled.length = 1 ∧
      (compileAll {} ["m/x.yml", "m/y.yml"] none [] halfBroken).failures.length = 1 := by decide +kernel
  obtain ⟨state, committed⟩ := Commit.exists_state success
  obtain ⟨before, after, framed⟩ := framed_of_commit (Disk.isTree_holding _) (fun _ remembered => by cases remembered)
    separate compiled committed
  exact ⟨_, state, before, after, compiled, counts.1, counts.2, framed⟩

end Compiler

end SafeMigration
