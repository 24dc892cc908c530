import SafeMigration.Proofs.Compile.Claimants

/-!
The scope of a database: the outputs and the records that belong to it.

The outputs of a database lie directly in a directory of its own, or in the output directory itself if there is no
database. So two databases have no output in common, and a commit for one of them leaves the outputs of the other alone
as far as the lockfile is not among them.
-/

namespace SafeMigration

/-- A location that lies in a directory, at whatever depth. -/
def Location.Under (directory location : Location) : Prop := location ≠ directory ∧ directory <:+ location

instance (directory location : Location) : Decidable (directory.Under location) :=
  inferInstanceAs (Decidable (_ ∧ _))

theorem Location.Under.beside {directory around : Location} {name : String} (under : directory.Under (name :: around))
    (other : String) : directory.Under (other :: around) := by
  obtain ⟨different, suffix⟩ := under
  have inside : directory <:+ around := (List.suffix_cons_iff.mp suffix).resolve_left different.symm
  refine ⟨fun same => ?_, List.suffix_cons_iff.mpr (.inr inside)⟩
  have shorter := inside.length_le
  rw [← same] at shorter
  simp at shorter

namespace Commit

variable {files : List CompiledFile} {state next : Commit} {ledger : Ledger}

/-- A file whose output was written does not have it on the way to itself. -/
theorem straight_of_addAll (tree : state.disk.IsTree) (known : state.lockfile.known = some ledger)
    (added : state.addAll files = (.ok (), next)) : ∀ file ∈ files, file.outcome = .compiled →
      Path.place state.disk.home file.outputPath ∉ Path.way state.disk.home file.outputPath := by
  induction files generalizing state ledger with
  | nil => simp
  | cons file files ih =>
    have first := Commit.added state tree known file
    rw [addAll] at added
    generalize state.add file = result at first added
    cases first with
    | @kept between unchanged sameDisk remembers =>
      have rest := ih (sameDisk ▸ tree) (by rw [remembers]) added
      rw [sameDisk] at rest
      refine List.forall_mem_cons.mpr ⟨fun compiled => ?_, rest⟩
      rw [unchanged] at compiled
      cases compiled
    | @written between _ deposited remembers =>
      have rest := ih deposited.tree (by rw [remembers]) added
      rw [deposited.home] at rest
      exact List.forall_mem_cons.mpr ⟨fun _ => deposited.accepted.straight, rest⟩
    | failed error _ _ _ _ => cases added

end Commit

namespace Compiler

variable {compiler : Compiler} {sources : List String} {path source : String} {database other : Option String}
  {ledger : Ledger} {lockfile : Lockfile} {disk : Disk} {file : CompiledFile} {report : Report} {state : Commit}
  {home location : Location}

/-- The directory for the outputs of a database. -/
def scopePath (compiler : Compiler) (database : Option String) : String :=
  match database with
  | some database => Path.join compiler.config.outputDirectory database
  | none => compiler.config.outputDirectory

/-- What the output of a source is called. -/
def outputName (compiler : Compiler) (source : String) : String :=
  Path.stem source ++ "." ++ compiler.renderer.fileExtension

theorem outputPath_eq (compiler : Compiler) (source : String) (database : Option String) :
    compiler.outputPath source database = Path.join (compiler.scopePath database) (compiler.outputName source) := by
  cases database <;> rfl

/-- Where the output directory is. -/
def outputPlace (compiler : Compiler) (home : Location) : Location := Path.place home compiler.config.outputDirectory

theorem place_scopePath (named : ∀ name ∈ database, Path.IsName name) :
    Path.place home (compiler.scopePath database) = database.toList ++ compiler.outputPlace home := by
  cases database with
  | none => rfl
  | some name => exact Lockfile.place_join_name (named name rfl) ..

section

variable (extension : Path.IsName compiler.renderer.fileExtension)

include extension

/-- With an extension that is a name, outputs have names. -/
theorem isName_outputName (source : String) : Path.IsName (compiler.outputName source) := by
  have nonempty : 0 < compiler.renderer.fileExtension.toList.length :=
    List.length_pos_iff.mpr fun none => extension.nonempty (String.toList_inj.mp none)
  refine ⟨fun same => ?_, fun same => ?_, fun same => ?_, ?_⟩
  · have texts := congrArg (List.length ∘ String.toList) same
    simp [outputName] at texts
  · have texts := congrArg (List.length ∘ String.toList) same
    simp [outputName] at texts
    omega
  · have texts := congrArg String.toList same
    simp only [outputName, String.toList_append] at texts
    -- The extension would be the second dot, as it is not empty.
    cases stem : (Path.stem source).toList with
    | nil =>
      rw [stem] at texts
      exact extension.notDot (String.toList_inj.mp (by simpa using texts))
    | cons c cs =>
      have lengths := congrArg List.length texts
      simp [stem] at lengths
      omega
  · have stem := Path.slash_not_mem_stem source
    have plain := extension.plain
    simp [outputName, stem, plain]

theorem place_outputPath (named : ∀ name ∈ database, Path.IsName name) (source : String) :
    Path.place home (compiler.outputPath source database) =
      compiler.outputName source :: (database.toList ++ compiler.outputPlace home) := by
  rw [outputPath_eq, Lockfile.place_join_name (isName_outputName extension source), place_scopePath named]

/-- All outputs of a database have one way. -/
theorem mem_way_outputPath (source : String) (database : Option String) (location : Location) :
    location ∈ Path.way home (compiler.outputPath source database) ↔
      location ∈ Path.reach home (compiler.scopePath database) := by
  rw [outputPath_eq, Path.mem_way_join (isName_outputName extension source).plain]

/-- Outputs lie in the output directory. -/
theorem under_outputPath (named : ∀ name ∈ database, Path.IsName name) (source : String) :
    (compiler.outputPlace home).Under (Path.place home (compiler.outputPath source database)) := by
  rw [place_outputPath extension named]
  refine ⟨fun same => ?_, database.toList.suffix_append _ |>.trans (List.suffix_cons ..)⟩
  have lengths := congrArg List.length same
  simp at lengths
  omega

/-- No output of one database is where an output of another is. -/
theorem place_ne_of_scope (different : database ≠ other) (named : ∀ name ∈ database, Path.IsName name)
    (otherNamed : ∀ name ∈ other, Path.IsName name) (source path : String) :
    Path.place home (compiler.outputPath source database) ≠ Path.place home (compiler.outputPath path other) := by
  rw [place_outputPath extension named, place_outputPath extension otherNamed]
  intro same
  obtain ⟨-, scopes⟩ := List.cons.inj same
  have databases := List.append_cancel_right scopes
  cases database <;> cases other <;> simp_all

/-- Outputs of one database at one place are one output. -/
theorem outputPath_of_place (named : ∀ name ∈ database, Path.IsName name)
    (same : Path.place home (compiler.outputPath source database) =
      Path.place home (compiler.outputPath path database)) :
    compiler.outputPath source database = compiler.outputPath path database := by
  rw [place_outputPath extension named, place_outputPath extension named] at same
  rw [outputPath_eq, outputPath_eq, (List.cons.inj same).1]

end

/-- A list of sources was compiled for a database, and the commit of the report was done. -/
structure Commits (compiler : Compiler) (sources : List String) (database : Option String) (lockfile : Lockfile)
    (disk : Disk) (report : Report) (state : Commit) : Prop where
  compiled : compiler.compile sources database lockfile disk = .ok report
  committed : Commit.ofReport report (lockfile.asked disk) disk = (.ok (), state)

/-- The output of a file that is kept does not stand on the way to itself. -/
theorem straight_of_kept (member : file ∈ (compiler.compileAll sources database ledger disk).compiled)
    (unchanged : file.outcome = .unchanged) :
    Path.place disk.home file.outputPath ∉ Path.way disk.home file.outputPath := by
  obtain ⟨source, _, _, success⟩ := mem_compiled_iff.mp member
  have origin := origin_of_compileFile success
  rw [origin.named.outputPath]
  cases origin with
  | rebuilt _ _ rebuild =>
    rw [eq_of_rebuild rebuild] at unchanged
    cases unchanged
  | kept _ output _ _ =>
    obtain ⟨reaches, there⟩ := (Disk.read_eq_ok_iff ..).mp output
    intro onWay
    rw [reaches.way _ onWay] at there
    cases there

/-- The outputs of a database stand in each other's way only if they stand in their own. -/
theorem spread_of_straight (extension : Path.IsName compiler.renderer.fileExtension)
    (named : ∀ name ∈ database, Path.IsName name)
    (straight : ∀ file ∈ (compiler.compileAll sources database ledger disk).compiled,
      Path.place home file.outputPath ∉ Path.way home file.outputPath) :
    Spread home (compiler.compileAll sources database ledger disk).compiled := by
  have different := List.pairwise_map.mp (nodup_outputs_compiled compiler sources database ledger disk)
  refine different.imp_of_mem fun {file next} member member' different => ?_
  have straightFile := straight file member
  have straightNext := straight next member'
  obtain ⟨source, _, _, success⟩ := mem_compiled_iff.mp member
  obtain ⟨source', _, _, success'⟩ := mem_compiled_iff.mp member'
  rw [(origin_of_compileFile success).named.outputPath] at different straightFile ⊢
  rw [(origin_of_compileFile success').named.outputPath] at different straightNext ⊢
  rw [mem_way_outputPath extension] at straightFile straightNext
  constructor
  case places => exact fun same => different (outputPath_of_place extension named same)
  case onWay =>
    rw [mem_way_outputPath extension]
    exact straightFile
  case under =>
    rw [mem_way_outputPath extension]
    exact straightNext

/-- What a run leaves, by what it has compiled, when all names in it are ordinary. -/
theorem Commits.result (run : compiler.Commits sources database lockfile disk report state) (tree : disk.IsTree)
    (plain : '/' ∉ disk.process.toList) (extension : Path.IsName compiler.renderer.fileExtension)
    (named : ∀ name ∈ database, Path.IsName name) (entries : lockfile.entries disk = .ok ledger) :
    report = compiler.compileAll sources database ledger disk ∧
      Commit.Result report.compiled lockfile.path ledger disk (.ok (), state) := by
  obtain ⟨ledger', entries', rfl⟩ := compile_eq_ok_iff.mp run.compiled
  obtain rfl : ledger = ledger' := Except.ok.inj (entries.symm.trans entries')
  refine ⟨rfl, ?_⟩
  have committed := run.committed
  rw [Lockfile.asked_of_entries lockfile entries] at committed
  rw [← committed]
  refine Commit.result _ { lockfile with known := some ledger } tree rfl
    (spread_of_straight extension named fun file member => ?_) (Lockfile.place_ne_temporaryPlace lockfile.path plain)
  cases outcome : file.outcome with
  | unchanged => exact straight_of_kept member outcome
  | compiled =>
    unfold Commit.ofReport at committed
    split at committed
    · cases committed
    next added => exact Commit.straight_of_addAll tree rfl added file member outcome

end Compiler

/-- After a commit the temporary file would lie beside the lockfile. -/
theorem Commit.Result.temporary_outside {files : List CompiledFile} {path : String} {ledger : Ledger} {disk : Disk}
    {state : Commit} {directory : Location} (result : Commit.Result files path ledger disk (.ok (), state))
    (plain : '/' ∉ disk.process.toList) (outside : ¬ directory.Under (Path.place disk.home path)) :
    ¬ directory.Under (Lockfile.temporaryPlace path disk) := by
  cases result with
  | done _ _ saved =>
    obtain ⟨name, named⟩ := Disk.fileName?_of_read saved.tree saved.content
    rw [Lockfile.temporaryPlace_of_fileName? named plain]
    rw [Path.place_of_fileName? named] at outside
    exact fun under => outside (under.beside name)

namespace Compiler

variable {compiler : Compiler} {sources : List String} {path source : String} {database other : Option String}
  {ledger : Ledger} {disk : Disk} {file : CompiledFile} {state : Commit}

/-- Two databases with ordinary names, and a lockfile that is not among their outputs. -/
structure TwoScopes (compiler : Compiler) (database other : Option String) (lockfile : String) (disk : Disk) :
    Prop where
  different : database ≠ other
  named : ∀ name ∈ database, Path.IsName name
  otherNamed : ∀ name ∈ other, Path.IsName name
  extension : Path.IsName compiler.renderer.fileExtension
  process : '/' ∉ disk.process.toList
  lockfile : ¬ (compiler.outputPlace disk.home).Under (Path.place disk.home lockfile)

namespace TwoScopes

theorem symm (scopes : compiler.TwoScopes database other path disk) : compiler.TwoScopes other database path disk :=
  ⟨scopes.different.symm, scopes.otherNamed, scopes.named, scopes.extension, scopes.process, scopes.lockfile⟩

/-- No file that is compiled for one database has its output where an output of another is. -/
theorem place_ne (scopes : compiler.TwoScopes database other path disk)
    (member : file ∈ (compiler.compileAll sources database ledger disk).compiled) (source : String) :
    Path.place disk.home (compiler.outputPath source other) ≠ Path.place disk.home file.outputPath := by
  obtain ⟨path, _, _, success⟩ := mem_compiled_iff.mp member
  rw [(origin_of_compileFile success).named.outputPath]
  exact place_ne_of_scope scopes.extension scopes.different.symm scopes.otherNamed scopes.named source path

/-- No source that is compiled for one database has the key of a file of another. -/
theorem key_ne (scopes : compiler.TwoScopes database other path disk) (tree : disk.IsTree) {label : String}
    (plain : '/' ∉ label.toList) (member : file ∈ (compiler.compileAll sources database ledger disk).compiled) :
    file.key ≠ Ledger.key label other := by
  obtain ⟨source, isNamed, plainSource⟩ := named_of_mem tree member
  rw [isNamed.key]
  exact fun same => scopes.different (Ledger.key_injective plainSource plain same).2

/-- No output is where the lockfile is. -/
theorem output_ne_lockfile (scopes : compiler.TwoScopes database other path disk) (source : String) :
    Path.place disk.home (compiler.outputPath source other) ≠ Path.place disk.home path := fun same =>
  scopes.lockfile (same ▸ under_outputPath scopes.extension scopes.otherNamed source)

/-- No output is where the temporary file was. -/
theorem output_ne_temporary (scopes : compiler.TwoScopes database other path disk) {files : List CompiledFile}
    (result : Commit.Result files path ledger disk (.ok (), state)) (source : String) :
    Path.place disk.home (compiler.outputPath source other) ≠ Lockfile.temporaryPlace path disk := fun same =>
  result.temporary_outside scopes.process scopes.lockfile
    (same ▸ under_outputPath scopes.extension scopes.otherNamed source)

section

variable (scopes : compiler.TwoScopes database other path disk)
  (result : Commit.Result (compiler.compileAll sources database ledger disk).compiled path ledger disk (.ok (), state))

include scopes result

/-- A commit for one database does no more to the outputs of another than to make directories where nothing was. -/
theorem node (source : String) :
    let output := Path.place disk.home (compiler.outputPath source other)
    state.disk.node? output = disk.node? output ∨
      disk.node? output = none ∧ state.disk.node? output = some .directory ∧
        (output ∈ Path.way disk.home path ∨ ∃ file ∈ (compiler.compileAll sources database ledger disk).compiled,
          file.outcome = .compiled ∧ output ∈ Path.way disk.home file.outputPath) := by
  intro output
  rcases result.node output (scopes.output_ne_lockfile source) (scopes.output_ne_temporary result source) with
    same | made | ⟨file, member, _, here, _⟩
  · exact .inl same
  · exact .inr made
  · exact absurd here (scopes.place_ne member source)

/-- An output of another database that is there is left alone. -/
theorem read {content : ByteArray} (read : disk.read (compiler.outputPath source other) = .ok content) :
    state.disk.read (compiler.outputPath source other) = .ok content := by
  obtain ⟨reaches, there⟩ := (Disk.read_eq_ok_iff ..).mp read
  refine (Disk.read_eq_ok_iff ..).mpr ⟨result.reaches reaches, ?_⟩
  rw [result.home]
  rcases scopes.node result source with same | ⟨absent, _⟩
  · rw [same, there]
  · rw [there] at absent
    cases absent

end

end TwoScopes

/-- What a run leaves as it was for another database: the outputs that were there, and the records. -/
structure Spares (compiler : Compiler) (database : Option String) (disk after : Disk) (before remembered : Ledger) :
    Prop where
  output : ∀ source content, disk.read (compiler.outputPath source database) = .ok content →
    after.read (compiler.outputPath source database) = .ok content
  record : ∀ file : String, '/' ∉ file.toList →
    Entries.get? remembered (Ledger.key file database) = Entries.get? before (Ledger.key file database)

/-- A run for one database spares another. -/
theorem Commits.spares {lockfile : Lockfile} {report : Report}
    (run : compiler.Commits sources database lockfile disk report state)
    (scopes : compiler.TwoScopes database other lockfile.path disk) (tree : disk.IsTree)
    (ordered : ∀ known, lockfile.known = some known → Entries.Ordered known) :
    ∃ before after, lockfile.entries disk = .ok before ∧ Lockfile.read lockfile.path state.disk = .ok after ∧
      compiler.Spares other disk state.disk before after := by
  obtain ⟨before, entries, -⟩ := compile_eq_ok_iff.mp run.compiled
  obtain ⟨rfl, result⟩ := run.result tree scopes.process scopes.extension scopes.named entries
  refine ⟨before, _, entries, result.remembers (Lockfile.ordered_of_entries ordered entries), ?_, ?_⟩
  · exact fun source content => scopes.read result
  · exact fun file plain => Ledger.get?_remember_of_not_mem fun compiled member => scopes.key_ne tree plain member

/-- Sources with names have different keys and outputs for different databases. -/
theorem TwoScopes.apart (scopes : compiler.TwoScopes database other path disk) {source source' name name' : String}
    (named : Path.fileName? source = some name) (named' : Path.fileName? source' = some name') :
    Ledger.key (Path.label source) database ≠ Ledger.key (Path.label source') other ∧
      compiler.outputPath source database ≠ compiler.outputPath source' other ∧
      ∀ home, Path.place home (compiler.outputPath source database) ≠
        Path.place home (compiler.outputPath source' other) := by
  have places (home : Location) : Path.place home (compiler.outputPath source database) ≠
      Path.place home (compiler.outputPath source' other) :=
    place_ne_of_scope scopes.extension scopes.different scopes.named scopes.otherNamed source source'
  refine ⟨fun same => ?_, fun same => places disk.home (by rw [same]), places⟩
  rw [Path.label, Path.label, named, named'] at same
  exact scopes.different (Ledger.key_injective (Path.isName_of_fileName? named).plain
    (Path.isName_of_fileName? named').plain same).2

end Compiler

end SafeMigration
