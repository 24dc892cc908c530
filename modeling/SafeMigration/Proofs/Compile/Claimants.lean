import Mathlib.Data.List.FinRange
import Mathlib.Data.List.InsertIdx
import Mathlib.Data.List.Perm.Basic
import SafeMigration.Proofs.Compile.Errors
import SafeMigration.Proofs.Compile.Repeat

/-!
A list of sources is compiled source by source, except for those that claim one output.

A source of a list that claims its output alone is compiled as it is in a list of its own. One that does not is reported
with the other claimants, in the order of the list; whether it could be compiled makes no difference then. Two sources
claim one output exactly if their names have the same stem.
-/

namespace SafeMigration

namespace Path

theorem slash_not_mem_stem (path : String) : '/' ∉ (stem path).toList := by
  unfold stem
  split
  next name named =>
    have plain : '/' ∉ name.toList := (isName_of_fileName? named).plain
    unfold splitName
    simp only
    split
    · exact plain
    · rw [String.toList_ofList, List.mem_reverse]
      exact fun inside => plain (List.mem_reverse.mp (List.mem_of_mem_drop inside))
  · simp

theorem isAbsolute_stem_append (path ending : String) : isAbsolute (stem path ++ "." ++ ending) = false := by
  have plain := slash_not_mem_stem path
  simp only [isAbsolute, String.toList_append]
  cases named : (stem path).toList with
  | nil => simp
  | cons c cs =>
    have different : c ≠ '/' := fun same => plain (by simp [named, same])
    simp [different]

/-- Where a path goes on from another tells how it goes on. -/
theorem join_left_cancel {path next other : String} (relative : isAbsolute next = false)
    (relative' : isAbsolute other = false) (same : join path next = join path other) : next = other := by
  simp only [join, relative, relative', Bool.false_eq_true, if_false] at same
  have texts := congrArg String.toList same
  split at texts
  · exact String.toList_inj.mp texts
  · exact String.toList_inj.mp (by simpa using texts)
  · exact String.toList_inj.mp (by simpa using texts)

end Path

namespace Compiler

variable {compiler : Compiler} {sources : List String} {path other : String} {database : Option String}
  {ledger : Ledger} {lockfile : Lockfile} {disk : Disk} {index : Nat}

/-- Two sources claim one output exactly if their names have one stem. -/
theorem outputPath_eq_iff :
    compiler.outputPath path database = compiler.outputPath other database ↔ Path.stem path = Path.stem other := by
  constructor
  · intro same
    have names := Path.join_left_cancel (Path.isAbsolute_stem_append ..) (Path.isAbsolute_stem_append ..) same
    exact String.toList_inj.mp (by simpa using congrArg String.toList names)
  · intro same
    simp only [outputPath, same]

/-- The other sources of a list that have the output of the one at an index, in the order of the list. -/
def otherClaimants (compiler : Compiler) (sources : List String) (database : Option String) (index : Nat)
    (path : String) : List String :=
  (sources.eraseIdx index).filter fun other => compiler.outputPath other database = compiler.outputPath path database

/-- Behind the target at an index every target with an output is a rival. -/
private theorem filterMap_zipIdx_of_lt {targets : List (String × String)} {start index : Nat} (output : String)
    (behind : index < start) :
    (targets.zipIdx start).filterMap
        (fun ((path, other), i) => if i ≠ index ∧ other = output then some path else none) =
      (targets.filter fun target => target.2 = output).map (·.1) := by
  induction targets generalizing start with
  | nil => rfl
  | cons target targets ih =>
    have different : start ≠ index := by omega
    rw [List.zipIdx_cons, List.filterMap_cons, ih (by omega)]
    by_cases same : target.2 = output <;> simp [same, different]

private theorem filterMap_zipIdx (targets : List (String × String)) (start index : Nat) (output : String) :
    (targets.zipIdx start).filterMap
        (fun ((path, other), i) => if i ≠ start + index ∧ other = output then some path else none) =
      ((targets.eraseIdx index).filter fun target => target.2 = output).map (·.1) := by
  induction targets generalizing start index with
  | nil => rfl
  | cons target targets ih =>
    rw [List.zipIdx_cons, List.filterMap_cons]
    cases index with
    | zero => simpa using filterMap_zipIdx_of_lt output (Nat.lt_succ_self start)
    | succ index =>
      have shifted : start + (index + 1) = start + 1 + index := by omega
      have different : start ≠ start + 1 + index := by omega
      rw [shifted, ih, List.eraseIdx_cons_succ]
      by_cases same : target.2 = output <;> simp [same, different]

theorem rivals_eq_otherClaimants (compiler : Compiler) (sources : List String) (database : Option String) (index : Nat)
    (path : String) :
    rivals (sources.map fun path => (path, compiler.outputPath path database)) index
        (compiler.outputPath path database) =
      compiler.otherClaimants sources database index path := by
  have general := filterMap_zipIdx (sources.map fun path => (path, compiler.outputPath path database)) 0 index
    (compiler.outputPath path database)
  rw [Nat.zero_add] at general
  rw [rivals, general, List.eraseIdx_map, List.filter_map, List.map_map, otherClaimants]
  exact List.map_id _

theorem alone_iff (listed : sources[index]? = some path) :
    compiler.Alone sources database path ↔ compiler.otherClaimants sources database index path = [] := by
  rw [← rivals_eq_nil_iff compiler database listed, rivals_eq_otherClaimants]

theorem mem_otherClaimants_iff : other ∈ compiler.otherClaimants sources database index path ↔
    (∃ i, i ≠ index ∧ sources[i]? = some other) ∧
      compiler.outputPath other database = compiler.outputPath path database := by
  simp [otherClaimants, List.mem_eraseIdx_iff_getElem?]

/-- A source claims its output alone if no source at another index does. -/
theorem alone_iff_forall (listed : sources[index]? = some path) :
    compiler.Alone sources database path ↔ ∀ i other, i ≠ index → sources[i]? = some other →
      compiler.outputPath other database ≠ compiler.outputPath path database := by
  rw [alone_iff listed, List.eq_nil_iff_forall_not_mem]
  simp only [mem_otherClaimants_iff]
  constructor
  · intro none i other different there same
    exact none other ⟨⟨i, different, there⟩, same⟩
  · rintro none other ⟨⟨i, different, there⟩, same⟩
    exact none i other different there same

/-- A source that is not alone is reported with the others that claim its output. -/
theorem getElem?_files_of_claimed (ledger : Ledger) (disk : Disk) (listed : sources[index]? = some path)
    (claimed : ¬ compiler.Alone sources database path) :
    (compiler.compileAll sources database ledger disk).files[index]? =
      some (.error ⟨Path.label path, path, .outputCollision (Path.label path) (compiler.outputPath path database)
        (compiler.otherClaimants sources database index path)⟩) := by
  rw [alone_iff listed] at claimed
  rw [getElem?_files listed, resultAt]
  simp only [rivals_eq_otherClaimants]
  rfl

/-- A source that is alone is compiled as by itself. -/
theorem getElem?_files_of_alone (ledger : Ledger) (disk : Disk) (listed : sources[index]? = some path)
    (alone : compiler.Alone sources database path) :
    (compiler.compileAll sources database ledger disk).files[index]? =
      some ((compiler.compileFile path database ledger disk).mapError (FileFailure.mk (Path.label path) path)) := by
  rw [getElem?_files listed, resultAt_of_alone listed alone]

/-- A source by itself collides with nothing, unless that is what the renderer reports. -/
theorem render_of_collision {file output : String} {others : List String}
    (failed : compiler.compileFile path database ledger disk = .error (.outputCollision file output others)) :
    ∃ valid, compiler.renderer.render valid = .error (.outputCollision file output others) := by
  have rebuilt (content : ByteArray)
      (failed : compiler.rebuild path database content = .error (.outputCollision file output others)) :
      ∃ valid, compiler.renderer.render valid = .error (.outputCollision file output others) := by
    rcases error_of_rebuild failed with benign | rendered
    · cases benign
    · exact rendered
  cases source : disk.read path with
  | error fault =>
    rw [compileFile_of_unread source] at failed
    cases failed
  | ok content =>
    rw [compileFile_of_read source] at failed
    have detected := benign_detect (Entries.get? ledger (Ledger.key (Path.label path) database))
      (Digest.of content) (compiler.outputPath path database) disk
    generalize FileStatus.detect _ _ _ _ = found at detected failed
    cases found with
    | error e =>
      cases failed
      cases detected.other _ rfl
    | ok status =>
      cases status with
      | tampered expected actual => cases failed
      | upToDate body => cases (benign_reuse ..).other _ failed
      | _ => exact rebuilt content failed

/-- The other claimants of the same source in two orders of a list are the same in another order. -/
theorem otherClaimants_perm {permuted : List String} {index' : Nat} (perm : permuted.Perm sources)
    (listed' : permuted[index']? = some path) (listed : sources[index]? = some path) :
    (compiler.otherClaimants permuted database index' path).Perm
      (compiler.otherClaimants sources database index path) := by
  refine List.Perm.filter _ ((List.perm_cons path).mp ?_)
  obtain ⟨inside', rfl⟩ := List.getElem?_eq_some_iff.mp listed'
  obtain ⟨inside, same⟩ := List.getElem?_eq_some_iff.mp listed
  have taken := List.getElem_cons_eraseIdx_perm inside
  rw [same] at taken
  exact (List.getElem_cons_eraseIdx_perm inside').trans (perm.trans taken.symm)

/-- A result stands for another: it is the same, or the same collision with the other claimants in another order. -/
inductive SameUpToOrder : Except FileFailure CompiledFile → Except FileFailure CompiledFile → Prop
  | same (result : Except FileFailure CompiledFile) : SameUpToOrder result result
  | collision (label path file output : String) {others others' : List String} (reordered : others.Perm others') :
    SameUpToOrder (.error ⟨label, path, .outputCollision file output others⟩)
      (.error ⟨label, path, .outputCollision file output others'⟩)

/-- What a list of sources is compiled to when each is compiled on its own, apart from collisions. -/
structure OneByOne (compiler : Compiler) (sources : List String) (database : Option String) (lockfile : Lockfile)
    (disk : Disk) (report : Report) : Prop where
  length : report.files.length = sources.length
  /-- Sources have one output if their names have one stem. -/
  stems : ∀ path other, compiler.outputPath path database = compiler.outputPath other database ↔
    Path.stem path = Path.stem other
  /-- A source whose output is claimed at another index is reported for that, with all who claim it. -/
  claimed : ∀ (index : Nat) path, sources[index]? = some path →
    (∃ i other, i ≠ index ∧ sources[i]? = some other ∧
      compiler.outputPath other database = compiler.outputPath path database) →
    report.files[index]? = some (.error ⟨Path.label path, path, .outputCollision (Path.label path)
      (compiler.outputPath path database) (compiler.otherClaimants sources database index path)⟩)
  /-- Any other source is compiled as in a list of its own, which is no collision but for one that the renderer reports. -/
  alone : ∀ (index : Nat) path, sources[index]? = some path →
    (¬ ∃ i other, i ≠ index ∧ sources[i]? = some other ∧
      compiler.outputPath other database = compiler.outputPath path database) →
    ∃ result, compiler.compile [path] database lockfile disk = .ok ⟨[result]⟩ ∧ report.files[index]? = some result ∧
      ∀ failure file output others, result = .error failure → failure.error = .outputCollision file output others →
        ∃ valid, compiler.renderer.render valid = .error (.outputCollision file output others)
  /-- Files that were compiled differ in their keys and in their outputs. -/
  distinct : ∀ (i j : Nat) file other, report.files[i]? = some (.ok file) → report.files[j]? = some (.ok other) →
    i ≠ j → file.key ≠ other.key ∧ file.outputPath ≠ other.outputPath
  /-- In another order of the sources the results are in that order, and so are the claimants in each of them. -/
  permuted : ∀ order : Equiv.Perm (Fin sources.length), ∃ permuted,
    compiler.compile (List.ofFn fun i => sources[order i]) database lockfile disk = .ok permuted ∧
      ∀ i, ∃ result result', permuted.files[i.val]? = some result' ∧ report.files[(order i).val]? = some result ∧
        SameUpToOrder result' result

theorem Alone.perm {permuted : List String} (perm : permuted.Perm sources) :
    compiler.Alone permuted database path ↔ compiler.Alone sources database path := by
  rw [Alone, Alone, outputs, outputs, (perm.map _).count_eq]

/-- What a source is compiled to in another order of the list. -/
theorem sameUpToOrder_of_perm (ledger : Ledger) (disk : Disk) {permuted : List String} {index' : Nat}
    (perm : permuted.Perm sources) (listed' : permuted[index']? = some path) (listed : sources[index]? = some path) :
    ∃ result result', (compiler.compileAll permuted database ledger disk).files[index']? = some result' ∧
      (compiler.compileAll sources database ledger disk).files[index]? = some result ∧
      SameUpToOrder result' result := by
  by_cases alone : compiler.Alone sources database path
  · exact ⟨_, _, getElem?_files_of_alone ledger disk listed' ((Alone.perm perm).mpr alone),
      getElem?_files_of_alone ledger disk listed alone, .same _⟩
  · exact ⟨_, _, getElem?_files_of_claimed ledger disk listed' (mt (Alone.perm perm).mp alone),
      getElem?_files_of_claimed ledger disk listed alone, .collision _ _ _ _ (otherClaimants_perm perm listed' listed)⟩

/-- Files of a list that were compiled come from sources that claim different outputs. -/
theorem distinct_of_files {i j : Nat} {file other : CompiledFile}
    (there : (compiler.compileAll sources database ledger disk).files[i]? = some (.ok file))
    (there' : (compiler.compileAll sources database ledger disk).files[j]? = some (.ok other)) (different : i ≠ j) :
    file.key ≠ other.key ∧ file.outputPath ≠ other.outputPath := by
  obtain ⟨path, listed, alone, success⟩ := exists_source_of_files there
  obtain ⟨path', listed', -, success'⟩ := exists_source_of_files there'
  have named := (origin_of_compileFile success).named
  have named' := (origin_of_compileFile success').named
  have apart := (alone_iff_forall listed).mp alone j path' different.symm listed'
  constructor
  · intro same
    rw [named.key, named'.key] at same
    exact apart (outputPath_of_label (Ledger.key_left_cancel same.symm))
  · rw [named.outputPath, named'.outputPath]
    exact apart.symm

/-- A list that is compiled is compiled source by source, apart from collisions. -/
theorem oneByOne_of_compile {report : Report}
    (compiled : compiler.compile sources database lockfile disk = .ok report) :
    compiler.OneByOne sources database lockfile disk report := by
  obtain ⟨ledger, entries, rfl⟩ := compile_eq_ok_iff.mp compiled
  constructor
  case length => simp [files_compileAll]
  case stems => exact fun path other => outputPath_eq_iff
  case claimed =>
    rintro index path listed ⟨i, other, different, there, same⟩
    exact getElem?_files_of_claimed ledger disk listed fun alone =>
      (alone_iff_forall listed).mp alone i other different there same
  case alone =>
    intro index path listed unclaimed
    have alone := (alone_iff_forall listed).mpr fun i other different there same =>
      unclaimed ⟨i, other, different, there, same⟩
    refine ⟨_, compile_single compiler path database entries, getElem?_files_of_alone ledger disk listed alone, ?_⟩
    intro failure file output others failed collides
    cases result : compiler.compileFile path database ledger disk with
    | ok file => rw [result] at failed; cases failed
    | error e =>
      rw [result] at failed
      cases failed
      cases collides
      exact render_of_collision result
  case distinct => exact fun i j file other there there' different => distinct_of_files there there' different
  case permuted =>
    intro order
    have perm : (List.ofFn (sources.get ∘ order)).Perm (List.ofFn sources.get) := order.ofFn_comp_perm sources.get
    rw [List.ofFn_get] at perm
    refine ⟨_, compile_eq_ok_iff.mpr ⟨ledger, entries, rfl⟩, fun i => ?_⟩
    have listed : sources[(order i).val]? = some sources[order i] := by simp
    have listed' : (List.ofFn fun i => sources[order i])[i.val]? = some sources[order i] := by simp
    exact sameUpToOrder_of_perm ledger disk perm listed' listed

/-- A list of sources is compiled unless the lockfile cannot be read; then each source that claims its output alone is
compiled as by itself, and the others are reported with all that claim the same. In another order of the sources the
results are in that order, up to the order in which claimants are named. Scripts for PostgreSQL are written without
looking at other sources. -/
theorem compile_one_by_one (compiler : Compiler) (sources : List String) (database : Option String)
    (lockfile : Lockfile) (disk : Disk) :
    (∀ e, compiler.compile sources database lockfile disk = .error e ↔ lockfile.entries disk = .error e) ∧
      (∀ report, compiler.compile sources database lockfile disk = .ok report →
        compiler.OneByOne sources database lockfile disk report) ∧
      ∀ valid file output others, Renderer.postgres.render valid ≠ .error (.outputCollision file output others) := by
  refine ⟨fun e => ?_, fun report compiled => oneByOne_of_compile compiled, fun valid file output others failed => ?_⟩
  · unfold compile
    cases lockfile.entries disk <;> simp [Except.map]
  · cases (benign_render valid).other _ failed

/-- A source that is there collides with two that are not, and a fourth is missing. -/
theorem compile_one_by_one_missingClaimants : ∃ report,
    compile {} ["n/x.yaml", "m/x.yml", "m/z.yml", "x.yml"] none { path := "oxide-guard.lock" } twoUnwritten =
        .ok report ∧
      OneByOne {} ["n/x.yaml", "m/x.yml", "m/z.yml", "x.yml"] none { path := "oxide-guard.lock" } twoUnwritten report ∧
      report.files[1]? = some (.error ⟨"x.yml", "m/x.yml",
        .outputCollision "x.yml" "compiled/x.sql" ["n/x.yaml", "x.yml"]⟩) := by
  have entries : Lockfile.entries { path := "oxide-guard.lock" } twoUnwritten = .ok [] := by decide +kernel
  obtain ⟨report, compiled⟩ : ∃ report, compile {} ["n/x.yaml", "m/x.yml", "m/z.yml", "x.yml"] none
      { path := "oxide-guard.lock" } twoUnwritten = .ok report := ⟨_, compile_eq_ok_iff.mpr ⟨[], entries, rfl⟩⟩
  have each := (compile_one_by_one {} _ _ _ _).2.1 report compiled
  exact ⟨report, compiled, each, each.claimed 1 "m/x.yml" rfl ⟨0, "n/x.yaml", by decide, rfl, by decide⟩⟩

/-- Of three sources with one output the last two are exchanged; then the report of the first names them in the other
order, so it is not among the results that there were. -/
theorem not_permuted_threeClaimants : ∃ report permuted,
    compile {} ["m/x.yml", "n/x.yml", "o/x.yml"] none { path := "oxide-guard.lock" } twoUnwritten = .ok report ∧
      compile {} ["m/x.yml", "o/x.yml", "n/x.yml"] none { path := "oxide-guard.lock" } twoUnwritten = .ok permuted ∧
      ["m/x.yml", "o/x.yml", "n/x.yml"].Perm ["m/x.yml", "n/x.yml", "o/x.yml"] ∧
      ¬ permuted.files.Perm report.files := by
  have entries : Lockfile.entries { path := "oxide-guard.lock" } twoUnwritten = .ok [] := by decide +kernel
  refine ⟨_, _, compile_eq_ok_iff.mpr ⟨[], entries, rfl⟩, compile_eq_ok_iff.mpr ⟨[], entries, rfl⟩, by decide, ?_⟩
  decide +kernel

end Compiler

end SafeMigration
