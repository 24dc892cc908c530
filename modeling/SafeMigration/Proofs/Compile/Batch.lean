import Mathlib.Data.List.Nodup
import SafeMigration.Proofs.Compile.Results

/-!
Which sources of a list are compiled.

A source is compiled on its own, and only if its output is the output of no other source in the list. So the compiled
files of a list have different outputs and different keys, and leaving out sources that fail changes nothing for those
that are compiled.
-/

namespace SafeMigration.Compiler

variable {compiler : Compiler} {sources : List String} {path : String} {database : Option String} {ledger : Ledger}
  {disk : Disk} {file : CompiledFile}

/-- The outputs of a list of sources. -/
def outputs (compiler : Compiler) (sources : List String) (database : Option String) : List String :=
  sources.map fun path => compiler.outputPath path database

/-- A source whose output is listed once. -/
def Alone (compiler : Compiler) (sources : List String) (database : Option String) (path : String) : Prop :=
  (compiler.outputs sources database).count (compiler.outputPath path database) = 1

instance (compiler : Compiler) (sources : List String) (database : Option String) (path : String) :
    Decidable (compiler.Alone sources database path) := inferInstanceAs (Decidable (_ = 1))

/-- A source that has an output and is not the one at an index. -/
private def rival (index : Nat) (output : String) (target : (String × String) × Nat) : Option String :=
  if target.2 ≠ index ∧ target.1.2 = output then some target.1.1 else none

private theorem rivals_eq (targets : List (String × String)) (index : Nat) (output : String) :
    rivals targets index output = targets.zipIdx.filterMap (rival index output) := rfl

/-- The sources with an output are those that rival the one at an index, and perhaps that one. -/
private theorem length_rivals (targets : List (String × String)) (start index : Nat) (output : String) :
    ((targets.zipIdx start).filterMap (rival index output)).length +
      (if start ≤ index ∧ (targets[index - start]?).map (·.2) = some output then 1 else 0) =
      (targets.map (·.2)).count output := by
  induction targets generalizing start with
  | nil => simp
  | cons target targets ih =>
    obtain ⟨path, other⟩ := target
    have rest := ih (start + 1)
    rw [List.zipIdx_cons, List.map_cons, List.count_cons]
    by_cases here : start = index
    · subst here
      have later : ¬ start + 1 ≤ start := by omega
      simp only [later, false_and, if_false, Nat.add_zero] at rest
      by_cases same : other = output <;> simp [rival, same, ← rest]
    · have step : (start ≤ index ∧ (((path, other) :: targets)[index - start]?).map (·.2) = some output) ↔
          (start + 1 ≤ index ∧ (targets[index - (start + 1)]?).map (·.2) = some output) := by
        by_cases before : start + 1 ≤ index
        · have shift : index - start = index - (start + 1) + 1 := by omega
          have below : start ≤ index := by omega
          simp [before, below, shift]
        · have after : ¬ start ≤ index := by omega
          simp [before, after]
      rw [← rest]
      simp only [step]
      by_cases same : other = output
      · simp [rival, here, same]
        omega
      · simp [rival, here, same]

theorem rivals_eq_nil_iff (compiler : Compiler) (database : Option String) {index : Nat}
    (listed : sources[index]? = some path) :
    rivals (sources.map fun path => (path, compiler.outputPath path database)) index
        (compiler.outputPath path database) = [] ↔ compiler.Alone sources database path := by
  have counted := length_rivals (sources.map fun path => (path, compiler.outputPath path database)) 0 index
    (compiler.outputPath path database)
  have mapped : (sources.map fun path => (path, compiler.outputPath path database)).map (·.2) =
      compiler.outputs sources database := by simp [outputs]
  have there : 0 ≤ index ∧ ((sources.map fun path => (path, compiler.outputPath path database))[index - 0]?).map
      (·.2) = some (compiler.outputPath path database) := by simp [listed]
  rw [mapped, if_pos there] at counted
  rw [rivals_eq, Alone, ← counted, ← List.length_eq_zero_iff]
  omega

/-- What becomes of the source at an index of a list. -/
def resultAt (compiler : Compiler) (sources : List String) (database : Option String) (ledger : Ledger) (disk : Disk)
    (listed : String × Nat) : Except FileFailure CompiledFile :=
  let result := match rivals (sources.map fun path => (path, compiler.outputPath path database)) listed.2
      (compiler.outputPath listed.1 database) with
    | [] => compiler.compileFile listed.1 database ledger disk
    | others => .error (.outputCollision (Path.label listed.1) (compiler.outputPath listed.1 database) others)
  result.mapError (FileFailure.mk (Path.label listed.1) listed.1)

theorem resultAt_of_alone {index : Nat} (listed : sources[index]? = some path)
    (alone : compiler.Alone sources database path) : compiler.resultAt sources database ledger disk (path, index) =
      (compiler.compileFile path database ledger disk).mapError (FileFailure.mk (Path.label path) path) := by
  simp only [resultAt, (rivals_eq_nil_iff compiler database listed).mpr alone]

/-- A source that is not alone fails for that. -/
theorem resultAt_of_rivalled (ledger : Ledger) (disk : Disk) {index : Nat} (listed : sources[index]? = some path)
    (rivalled : ¬ compiler.Alone sources database path) : ∃ others,
    compiler.resultAt sources database ledger disk (path, index) = .error ⟨Path.label path, path,
      .outputCollision (Path.label path) (compiler.outputPath path database) others⟩ := by
  have nonempty := (rivals_eq_nil_iff compiler database listed).not.mpr rivalled
  unfold resultAt
  split
  next none => exact absurd none nonempty
  · exact ⟨_, rfl⟩

theorem files_compileAll (compiler : Compiler) (sources : List String) (database : Option String) (ledger : Ledger)
    (disk : Disk) :
    (compiler.compileAll sources database ledger disk).files =
      sources.zipIdx.map (compiler.resultAt sources database ledger disk) := by
  rw [compileAll, List.zipIdx_map, List.map_map]
  rfl

private theorem compiled_eq_filterMap (report : Report) : report.compiled = report.files.filterMap Except.toOption :=
  List.filterMap_congr fun result _ => by cases result <;> rfl

/-- What a source of a list is compiled to: one that is alone is compiled on its own, the others are not. -/
def compiledOf (compiler : Compiler) (sources : List String) (database : Option String) (ledger : Ledger) (disk : Disk)
    (path : String) : Option CompiledFile :=
  if compiler.Alone sources database path then (compiler.compileFile path database ledger disk).toOption else none

theorem compiledOf_eq_some_iff : compiler.compiledOf sources database ledger disk path = some file ↔
    compiler.Alone sources database path ∧ compiler.compileFile path database ledger disk = .ok file := by
  unfold compiledOf
  split
  next alone => cases compiler.compileFile path database ledger disk <;> simp [alone, Except.toOption]
  next rivalled => simp [rivalled]

theorem toOption_resultAt (compiler : Compiler) (database : Option String) (ledger : Ledger) (disk : Disk) {index : Nat}
    (listed : sources[index]? = some path) :
    (compiler.resultAt sources database ledger disk (path, index)).toOption =
      compiler.compiledOf sources database ledger disk path := by
  by_cases alone : compiler.Alone sources database path
  · rw [resultAt_of_alone listed alone, compiledOf, if_pos alone]
    cases compiler.compileFile path database ledger disk <;> rfl
  · obtain ⟨others, rivalled⟩ := resultAt_of_rivalled ledger disk listed alone
    rw [rivalled, compiledOf, if_neg alone]
    rfl

theorem mem_failures_iff {failure : FileFailure} :
    failure ∈ (compiler.compileAll sources database ledger disk).failures ↔ ∃ path index,
      sources[index]? = some path ∧ compiler.resultAt sources database ledger disk (path, index) = .error failure := by
  simp only [Report.failures, files_compileAll, List.mem_filterMap, List.mem_map, Prod.exists,
    List.mem_zipIdx_iff_getElem?]
  constructor
  · rintro ⟨result, ⟨path, index, listed, same⟩, isError⟩
    refine ⟨path, index, listed, same.trans ?_⟩
    cases result <;> cases isError
    rfl
  · rintro ⟨path, index, listed, failed⟩
    exact ⟨_, ⟨path, index, listed, failed⟩, rfl⟩

theorem path_of_resultAt {failure : FileFailure} {listed : String × Nat}
    (failed : compiler.resultAt sources database ledger disk listed = .error failure) : failure.path = listed.1 := by
  unfold resultAt Except.mapError at failed
  simp only at failed
  split at failed <;> cases failed
  rfl

/-- The compiled files of a list come from its sources in their order. -/
theorem compiled_compileAll (compiler : Compiler) (sources : List String) (database : Option String) (ledger : Ledger)
    (disk : Disk) :
    (compiler.compileAll sources database ledger disk).compiled =
      sources.filterMap (compiler.compiledOf sources database ledger disk) := by
  calc (compiler.compileAll sources database ledger disk).compiled
      = sources.zipIdx.filterMap fun listed =>
          (compiler.resultAt sources database ledger disk listed).toOption := by
        rw [compiled_eq_filterMap, files_compileAll, List.filterMap_map]
        rfl
    _ = sources.zipIdx.filterMap (compiler.compiledOf sources database ledger disk ∘ Prod.fst) :=
        List.filterMap_congr fun _ member =>
          toOption_resultAt compiler database ledger disk (List.mem_zipIdx_iff_getElem?.mp member)
    _ = sources.filterMap (compiler.compiledOf sources database ledger disk) := by
        rw [← List.filterMap_map, List.zipIdx_map_fst]

theorem mem_compiled_iff : file ∈ (compiler.compileAll sources database ledger disk).compiled ↔
    ∃ path ∈ sources, compiler.Alone sources database path ∧
      compiler.compileFile path database ledger disk = .ok file := by
  simp only [compiled_compileAll, List.mem_filterMap, compiledOf_eq_some_iff]

/-- A compiled file bears the names that follow from its source. -/
structure Named (compiler : Compiler) (path : String) (database : Option String) (file : CompiledFile) : Prop where
  label : file.file = Path.label path
  key : file.key = Ledger.key (Path.label path) database
  sourcePath : file.sourcePath = path
  outputPath : file.outputPath = compiler.outputPath path database
  compiledDigest : file.compiledDigest = Digest.ofText file.body
  database : file.database = database

theorem named_fileWith (path : String) (database : Option String) (content : ByteArray) (body : String)
    (capabilities : List Capability) (outcome : Outcome) :
    compiler.Named path database (compiler.fileWith path database content body capabilities outcome) :=
  ⟨rfl, rfl, rfl, rfl, rfl, rfl⟩

/-- How a source came to be compiled: it was written out, or the output that was there is kept. -/
inductive Origin (compiler : Compiler) (path : String) (database : Option String) (ledger : Ledger) (disk : Disk) :
    CompiledFile → Prop
  | rebuilt {content : ByteArray} {file : CompiledFile} (source : disk.read path = .ok content)
      (due : FileStatus.Due (Entries.get? ledger (Ledger.key (Path.label path) database)) (Digest.of content)
        (compiler.outputPath path database) disk)
      (rebuild : compiler.rebuild path database content = .ok file) : Origin compiler path database ledger disk file
  | kept {content : ByteArray} {known : DigestRecord} {body : String} {file : CompiledFile}
      (isKnown : Known compiler path database ledger disk content known)
      (output : disk.read (compiler.outputPath path database) = .ok body.toUTF8)
      (written : known.compiled = Digest.ofText body)
      (reuse : compiler.reuse path database content body = .ok file) : Origin compiler path database ledger disk file

theorem origin_of_compileFile (success : compiler.compileFile path database ledger disk = .ok file) :
    Origin compiler path database ledger disk file := by
  cases source : disk.read path with
  | error fault =>
    rw [compileFile_of_unread source] at success
    cases success
  | ok content =>
    rcases due_or_known compiler database ledger source with due | ⟨known, isKnown⟩
    · rw [compileFile_of_due source due] at success
      exact .rebuilt source due success
    · cases output : disk.read (compiler.outputPath path database) with
      | error fault =>
        rw [isKnown.blocked output] at success
        cases success
      | ok bytes =>
        rcases FileStatus.ofOutput_cases known.compiled bytes with ⟨body, rfl, written⟩ | tampered
        · rw [isKnown.kept output written] at success
          exact .kept isKnown output written success
        · rw [isKnown.changed output tampered] at success
          cases success

namespace Origin

theorem named (origin : Origin compiler path database ledger disk file) : compiler.Named path database file := by
  cases origin with
  | rebuilt _ _ rebuild => exact eq_of_rebuild rebuild ▸ named_fileWith ..
  | kept _ _ _ reuse => exact eq_of_reuse reuse ▸ named_fileWith ..

/-- A compiled file has the digest of its source, which was there to be read. -/
theorem source (origin : Origin compiler path database ledger disk file) :
    ∃ content, disk.read path = .ok content ∧ file.sourceDigest = Digest.of content := by
  cases origin with
  | rebuilt source _ rebuild => exact ⟨_, source, by rw [eq_of_rebuild rebuild]; rfl⟩
  | kept isKnown _ _ reuse => exact ⟨_, isKnown.source, by rw [eq_of_reuse reuse]; rfl⟩

end Origin

/-- The compiled files of a list come from sources of the list, in its order. -/
theorem compiled_sublist (compiler : Compiler) (sources listed : List String) (database : Option String)
    (ledger : Ledger) (disk : Disk) :
    ((listed.filterMap (compiler.compiledOf sources database ledger disk)).map CompiledFile.sourcePath).Sublist
      listed := by
  induction listed with
  | nil => exact .slnil
  | cons path listed ih =>
    rw [List.filterMap_cons]
    cases result : compiler.compiledOf sources database ledger disk path with
    | none => exact ih.cons _
    | some file =>
      rw [List.map_cons, (origin_of_compileFile (compiledOf_eq_some_iff.mp result).2).named.sourcePath]
      exact ih.cons_cons _

/-- The outputs of the compiled files are among the outputs of the list, in their order. -/
theorem outputs_compiled_sublist (compiler : Compiler) (sources : List String) (database : Option String)
    (ledger : Ledger) (disk : Disk) :
    ((compiler.compileAll sources database ledger disk).compiled.map CompiledFile.outputPath).Sublist
      (compiler.outputs sources database) := by
  have outputs : (compiler.compileAll sources database ledger disk).compiled.map CompiledFile.outputPath =
      compiler.outputs ((compiler.compileAll sources database ledger disk).compiled.map CompiledFile.sourcePath)
        database := by
    rw [outputs, List.map_map]
    refine List.map_congr_left fun file member => ?_
    obtain ⟨path, _, _, success⟩ := mem_compiled_iff.mp member
    have named := (origin_of_compileFile success).named
    rw [named.outputPath, Function.comp_apply, named.sourcePath]
  rw [outputs, compiled_compileAll]
  exact (compiled_sublist compiler sources sources database ledger disk).map _

/-- No two compiled files of a list have one output. -/
theorem nodup_outputs_compiled (compiler : Compiler) (sources : List String) (database : Option String)
    (ledger : Ledger) (disk : Disk) :
    ((compiler.compileAll sources database ledger disk).compiled.map CompiledFile.outputPath).Nodup := by
  rw [List.nodup_iff_count_le_one]
  intro output
  by_cases inside : output ∈ (compiler.compileAll sources database ledger disk).compiled.map CompiledFile.outputPath
  · obtain ⟨file, member, rfl⟩ := List.mem_map.mp inside
    obtain ⟨path, listed, alone, success⟩ := mem_compiled_iff.mp member
    rw [(origin_of_compileFile success).named.outputPath]
    exact alone ▸ (outputs_compiled_sublist compiler sources database ledger disk).count_le _
  · rw [List.count_eq_zero_of_not_mem inside]
    exact Nat.zero_le 1

/-- Compiled files of a list with one key are one file. -/
theorem eq_of_key {file other : CompiledFile}
    (member : file ∈ (compiler.compileAll sources database ledger disk).compiled)
    (member' : other ∈ (compiler.compileAll sources database ledger disk).compiled) (same : file.key = other.key) :
    file = other := by
  obtain ⟨path, listed, alone, success⟩ := mem_compiled_iff.mp member
  obtain ⟨path', listed', alone', success'⟩ := mem_compiled_iff.mp member'
  have named := (origin_of_compileFile success).named
  have named' := (origin_of_compileFile success').named
  have label : Path.label path = Path.label path' :=
    Ledger.key_left_cancel (named.key.symm.trans (same.trans named'.key))
  have outputs : file.outputPath = other.outputPath := by
    rw [named.outputPath, named'.outputPath, outputPath_of_label label]
  exact List.inj_on_of_nodup_map (nodup_outputs_compiled compiler sources database ledger disk) member member' outputs

end SafeMigration.Compiler
