import SafeMigration.Proofs.Compile.Overlay
import SafeMigration.Proofs.Compile.Scopes

/-!
Two databases in either order.

A run for one database changes nothing that decides what becomes of the sources for another: their content, their
records, and what the paths to their outputs lead to. So what is compiled for both does not depend on which is first,
and neither does what is left of both runs.

There are two exceptions to this. A source or an output whose path leads by two dots out of a directory that the first
run makes can be found by the second, and a source that lies where the temporary file of the lockfile is put is gone by
then.
-/

namespace SafeMigration

namespace Compiler

variable {compiler : Compiler} {sources others : List String} {path source : String} {database other : Option String}
  {ledger later : Ledger} {disk after : Disk} {file : CompiledFile} {state state' final : Commit}

/-- Whether a source is compiled, and to what, is decided by its content, its record and what its output's path leads
to. -/
theorem compiledOf_congr (read : ∀ content, after.read source = .ok content ↔ disk.read source = .ok content)
    (record : ∀ content, disk.read source = .ok content →
      Entries.get? later (Ledger.key (Path.label source) database) =
        Entries.get? ledger (Ledger.key (Path.label source) database))
    (output : after.find? (compiler.outputPath source database) = disk.find? (compiler.outputPath source database)) :
    compiler.compiledOf sources database later after source =
      compiler.compiledOf sources database ledger disk source := by
  unfold compiledOf
  cases found : disk.read source with
  | ok content =>
    have same : after.read source = disk.read source := ((read content).mpr found).trans found.symm
    rw [compileFile_congr same (record content found) output]
  | error fault =>
    cases found' : after.read source with
    | ok content =>
      rw [(read content).mp found'] at found
      cases found
    | error fault' =>
      rw [compileFile_of_unread found, compileFile_of_unread found']
      rfl

theorem mem_compiled_of_compiledOf (member : source ∈ sources)
    (compiled : compiler.compiledOf sources database ledger disk source = some file) :
    file ∈ (compiler.compileAll sources database ledger disk).compiled := by
  rw [compiled_compileAll]
  exact List.mem_filterMap.mpr ⟨source, member, compiled⟩

/-- Where no output is to be kept a source is written out. -/
theorem Origin.outcome_of_absent (origin : Origin compiler source database ledger disk file)
    (absent : disk.node? (Path.place disk.home (compiler.outputPath source database)) = none) :
    file.outcome = .compiled := by
  cases origin with
  | rebuilt _ _ rebuild =>
    rw [eq_of_rebuild rebuild]
    rfl
  | kept _ output _ _ =>
    rw [((Disk.read_eq_ok_iff ..).mp output).2] at absent
    cases absent

/-- The sources of a batch for a database that another commit leaves as they are: none lies among the outputs or where
the lockfile or its temporary file is, and neither a source nor its output is looked for along a path that leads by two
dots out of a directory that the commit makes. -/
structure Clear (compiler : Compiler) (sources : List String) (database : Option String) (lockfile : String)
    (disk : Disk) (ways : List String) : Prop where
  outside : ∀ source ∈ sources, ¬ (compiler.outputPlace disk.home).Under (Path.place disk.home source)
  notLockfile : ∀ source ∈ sources, Path.place disk.home source ≠ Path.place disk.home lockfile
  notTemporary : ∀ source ∈ sources, Path.place disk.home source ≠ Lockfile.temporaryPlace lockfile disk
  source : ∀ source ∈ sources, ¬ disk.Leaves ways source
  output : ∀ source ∈ sources, ¬ disk.Leaves ways (compiler.outputPath source database)

section

variable (scopes : compiler.TwoScopes database other path disk) (tree : disk.IsTree)
  (result : Commit.Result (compiler.compileAll sources database ledger disk).compiled path ledger disk (.ok (), state))
  (isClear : compiler.Clear others other path disk
    (path :: (compiler.compileAll sources database ledger disk).compiled.map CompiledFile.outputPath))

include scopes tree result isClear

/-- The sources for another database are read as before. -/
theorem read_of_clear (member : source ∈ others) (content : ByteArray) :
    state.disk.read source = .ok content ↔ disk.read source = .ok content := by
  refine result.read_iff tree (isClear.source source member)
    ⟨isClear.notLockfile source member, isClear.notTemporary source member, fun file inside _ same => ?_⟩
    content
  obtain ⟨path, _, _, success⟩ := mem_compiled_iff.mp inside
  have under : (compiler.outputPlace disk.home).Under (Path.place disk.home (compiler.outputPath path database)) :=
    under_outputPath scopes.extension scopes.named path
  rw [← (origin_of_compileFile success).named.outputPath, ← same] at under
  exact isClear.outside source member under

/-- A source for another database is compiled as before if its output is found as before. -/
theorem compiledOf_of_find? (member : source ∈ others)
    (output : state.disk.find? (compiler.outputPath source other) = disk.find? (compiler.outputPath source other)) :
    compiler.compiledOf others other (ledger.remember (compiler.compileAll sources database ledger disk).compiled)
      state.disk source = compiler.compiledOf others other ledger disk source :=
  compiledOf_congr (read_of_clear scopes tree result isClear member)
    (fun _ read => Ledger.get?_remember_of_not_mem fun _ inside =>
      scopes.key_ne tree (plain_label_of_read tree read) inside) output

/-- A source is still not compiled where its output was to be and there is a directory now. -/
theorem uncompiled_of_directory (member : source ∈ others)
    (absent : disk.node? (Path.place disk.home (compiler.outputPath source other)) = none)
    (made : state.disk.node? (Path.place disk.home (compiler.outputPath source other)) = some .directory)
    (uncompiled : compiler.compiledOf others other ledger disk source = none) :
    compiler.compiledOf others other (ledger.remember (compiler.compileAll sources database ledger disk).compiled)
      state.disk source = none := by
  by_contra other'
  obtain ⟨file, compiled⟩ := Option.ne_none_iff_exists'.mp other'
  obtain ⟨alone, success⟩ := compiledOf_eq_some_iff.mp compiled
  cases origin_of_compileFile success with
  | @rebuilt content _ read _ rebuild =>
    have readBefore := (read_of_clear scopes tree result isClear member content).mp read
    have due : FileStatus.Due (Entries.get? ledger (Ledger.key (Path.label source) other)) (Digest.of content)
        (compiler.outputPath source other) disk := fun _ _ held =>
      absurd absent ((Disk.holds_eq_true_iff ..).mp held).2
    have before := compiledOf_eq_some_iff.mpr ⟨alone, (compileFile_of_due readBefore due).trans rebuild⟩
    rw [before] at uncompiled
    cases uncompiled
  | kept _ output _ _ =>
    have there := ((Disk.read_eq_ok_iff ..).mp output).2
    rw [result.home, made] at there
    cases there

variable (result' : Commit.Result (compiler.compileAll others other ledger disk).compiled path ledger disk
    (.ok (), state'))
  (isClear' : compiler.Clear sources database path disk
    (path :: (compiler.compileAll others other ledger disk).compiled.map CompiledFile.outputPath))
  (last : Commit.Result (compiler.compileAll sources database
      (ledger.remember (compiler.compileAll others other ledger disk).compiled) state'.disk).compiled path
    (ledger.remember (compiler.compileAll others other ledger disk).compiled) state'.disk (.ok (), final))

include result' isClear' last

omit result isClear in
/-- If both databases can be committed in the other order, no directory is made where an output is to be written: the
output that is written first would stand in the way. -/
theorem offWays_of_compiled (member : source ∈ others)
    (absent : disk.node? (Path.place disk.home (compiler.outputPath source other)) = none)
    (compiled : compiler.compiledOf others other ledger disk source = some file) :
    ¬ Disk.OnWays (compiler.compileAll sources database ledger disk).compiled path disk.home
      (Path.place disk.home (compiler.outputPath source other)) := by
  have inside := mem_compiled_of_compiledOf member compiled
  have origin := origin_of_compileFile (compiledOf_eq_some_iff.mp compiled).2
  have isCompiled : file.outcome = .compiled := origin.outcome_of_absent absent
  have written := result'.overlaid.written file inside isCompiled
  rw [origin.named.outputPath] at written
  have there := written (scopes.output_ne_lockfile source) (scopes.output_ne_temporary result' source)
  rintro (onWay | ⟨first, inFirst, firstCompiled, onWay⟩)
  · rw [result'.way onWay] at there
    cases there
  · obtain ⟨path', listed, alone, success⟩ := mem_compiled_iff.mp inFirst
    have output := (origin_of_compileFile success).named.outputPath
    rw [output] at onWay
    -- On neither disk the path to the other output can be followed, so it is found neither time.
    have unreached : ¬ disk.Reaches (compiler.outputPath path' database) := fun reaches => by
      rw [reaches.way _ onWay] at absent
      cases absent
    have unreached' : ¬ state'.disk.Reaches (compiler.outputPath path' database) := fun reaches => by
      rw [reaches.way _ (result'.home.symm ▸ onWay)] at there
      cases there
    have again := compiledOf_of_find? scopes.symm tree result' isClear' listed
      (by rw [Disk.find?_of_unreached unreached, Disk.find?_of_unreached unreached'])
    have accepted := last.accepted (mem_compiled_of_compiledOf listed
      (again.trans (compiledOf_eq_some_iff.mpr ⟨alone, success⟩))) firstCompiled
    rw [output] at accepted
    exact accepted.noFile _ (result'.home.symm ▸ onWay) _ there

/-- What is compiled for another database is the same before and after a run for the one. -/
theorem compiled_of_clear :
    (compiler.compileAll others other (ledger.remember (compiler.compileAll sources database ledger disk).compiled)
      state.disk).compiled = (compiler.compileAll others other ledger disk).compiled := by
  rw [compiled_compileAll compiler others other _ state.disk, compiled_compileAll compiler others other ledger disk]
  refine List.filterMap_congr fun source member => ?_
  rcases scopes.node result source with same | ⟨absent, made, onWays⟩
  · exact compiledOf_of_find? scopes tree result isClear member
      (result.find?_of_node tree (isClear.output source member) same)
  · have uncompiled : compiler.compiledOf others other ledger disk source = none := by
      by_contra compiled
      obtain ⟨file, compiled⟩ := Option.ne_none_iff_exists'.mp compiled
      exact offWays_of_compiled scopes tree result' isClear' last member absent compiled onWays
    rw [uncompiled]
    exact uncompiled_of_directory scopes tree result isClear member absent made uncompiled

end

/-- A list of sources is compiled for a database by what the lockfile says, and the commit of the report is done. -/
def Turn (compiler : Compiler) (sources : List String) (database : Option String) (path : String) (disk : Disk)
    (report : Report) (state : Commit) : Prop :=
  ∃ lockfile : Lockfile, lockfile.path = path ∧ lockfile.entries disk = Lockfile.read path disk ∧
    compiler.Commits sources database lockfile disk report state

theorem Turn.result {report : Report} (turn : compiler.Turn sources database path disk report state)
    (tree : disk.IsTree) (plain : '/' ∉ disk.process.toList) (extension : Path.IsName compiler.renderer.fileExtension)
    (named : ∀ name ∈ database, Path.IsName name) :
    ∃ ledger, Lockfile.read path disk = .ok ledger ∧ report = compiler.compileAll sources database ledger disk ∧
      Commit.Result report.compiled path ledger disk (.ok (), state) := by
  obtain ⟨lockfile, rfl, inStep, run⟩ := turn
  obtain ⟨ledger, entries, -⟩ := compile_eq_ok_iff.mp run.compiled
  obtain ⟨compiled, result⟩ := run.result tree plain extension named entries
  exact ⟨ledger, inStep ▸ entries, compiled, result⟩

/-- A turn after another one is by what the other has remembered. -/
theorem Turn.result_after {files : List CompiledFile} {report : Report}
    (turn : compiler.Turn sources database path state.disk report final)
    (before : Commit.Result files path ledger disk (.ok (), state)) (ordered : Entries.Ordered ledger)
    (plain : '/' ∉ disk.process.toList) (extension : Path.IsName compiler.renderer.fileExtension)
    (named : ∀ name ∈ database, Path.IsName name) :
    Commit.Result (compiler.compileAll sources database (ledger.remember files) state.disk).compiled path
      (ledger.remember files) state.disk (.ok (), final) := by
  obtain ⟨later, read, rfl, result⟩ :=
    turn.result before.tree (before.overlaid.process ▸ plain) extension named
  obtain rfl : ledger.remember files = later := Except.ok.inj ((before.remembers ordered).symm.trans read)
  exact result

/-- Two runs for two databases leave the same in either order. -/
theorem node_of_orders {report₁ report₁₂ report₂ report₂₁ : Report} {one oneTwo two twoOne : Commit}
    (scopes : compiler.TwoScopes database other path disk) (tree : disk.IsTree)
    (first : compiler.Turn sources database path disk report₁ one)
    (second : compiler.Turn others other path one.disk report₁₂ oneTwo)
    (first' : compiler.Turn others other path disk report₂ two)
    (second' : compiler.Turn sources database path two.disk report₂₁ twoOne)
    (isClear : compiler.Clear others other path disk (path :: report₁.compiled.map CompiledFile.outputPath))
    (isClear' : compiler.Clear sources database path disk (path :: report₂.compiled.map CompiledFile.outputPath)) :
    oneTwo.disk.home = twoOne.disk.home ∧ ∀ location, oneTwo.disk.node? location = twoOne.disk.node? location := by
  obtain ⟨ledger, read, rfl, result⟩ := first.result tree scopes.process scopes.extension scopes.named
  obtain ⟨ledger', read', rfl, result'⟩ := first'.result tree scopes.process scopes.extension scopes.otherNamed
  obtain rfl : ledger = ledger' := Except.ok.inj (read.symm.trans read')
  have ordered := Lockfile.ordered_of_read read
  have last := second.result_after result ordered scopes.process scopes.extension scopes.otherNamed
  have last' := second'.result_after result' ordered scopes.process scopes.extension scopes.named
  have same := compiled_of_clear scopes tree result isClear result' isClear' last'
  have same' := compiled_of_clear scopes.symm tree result' isClear' result isClear last
  rw [same] at last
  rw [same'] at last'
  have apart {file next : CompiledFile}
      (member : file ∈ (compiler.compileAll sources database ledger disk).compiled)
      (member' : next ∈ (compiler.compileAll others other ledger disk).compiled) :
      Path.place disk.home file.outputPath ≠ Path.place disk.home next.outputPath ∧ file.key ≠ next.key := by
    obtain ⟨source, isNamed, plain⟩ := named_of_mem tree member'
    rw [isNamed.outputPath, isNamed.key]
    exact ⟨(scopes.place_ne member source).symm, scopes.key_ne tree plain member⟩
  have unique {sources : List String} {database : Option String} :
      ∀ file ∈ (compiler.compileAll sources database ledger disk).compiled,
        ∀ next ∈ (compiler.compileAll sources database ledger disk).compiled, next.key = file.key → next = file :=
    fun _ member _ member' same => eq_of_key member' member same
  have both := result.overlaid.trans last.overlaid fun _ member _ member' => (apart member member').1
  have both' := result'.overlaid.trans last'.overlaid fun _ member' _ member => (apart member member').1.symm
  rw [Ledger.remember_comm ordered unique unique fun _ member' _ member => (apart member member').2.symm] at both'
  refine ⟨both.home.trans both'.home.symm, both.node_eq both' fun file => ?_⟩
  simp only [List.mem_append, or_comm]

/-- Databases are scopes of their own. A run for one of them leaves the outputs that there were for the other and all
its records as they are; no two sources with names share a key or an output between them; and if both are run in either
order, the same is left, so long as no run opens a way to the sources or the outputs of the other. -/
theorem scopes_independent (scopes : compiler.TwoScopes database other path disk) (tree : disk.IsTree) :
    (∀ (lockfile : Lockfile) sources report state, lockfile.path = path →
      (∀ known, lockfile.known = some known → Entries.Ordered known) →
      compiler.Commits sources database lockfile disk report state →
        ∃ before after, lockfile.entries disk = .ok before ∧ Lockfile.read path state.disk = .ok after ∧
          compiler.Spares other disk state.disk before after) ∧
      (∀ source source' name name', Path.fileName? source = some name → Path.fileName? source' = some name' →
        Ledger.key (Path.label source) database ≠ Ledger.key (Path.label source') other ∧
          compiler.outputPath source database ≠ compiler.outputPath source' other ∧
          ∀ home, Path.place home (compiler.outputPath source database) ≠
            Path.place home (compiler.outputPath source' other)) ∧
      ∀ (sources others : List String) (report₁ report₁₂ report₂ report₂₁ : Report) (one oneTwo two twoOne : Commit),
        compiler.Turn sources database path disk report₁ one →
        compiler.Turn others other path one.disk report₁₂ oneTwo →
        compiler.Turn others other path disk report₂ two →
        compiler.Turn sources database path two.disk report₂₁ twoOne →
        compiler.Clear others other path disk (path :: report₁.compiled.map CompiledFile.outputPath) →
        compiler.Clear sources database path disk (path :: report₂.compiled.map CompiledFile.outputPath) →
          oneTwo.disk.home = twoOne.disk.home ∧
            ∀ location, oneTwo.disk.node? location = twoOne.disk.node? location := by
  refine ⟨?_, fun source source' name name' => scopes.apart, ?_⟩
  · rintro lockfile sources report state rfl ordered run
    exact run.spares scopes tree ordered
  · intro sources others report₁ report₁₂ report₂ report₂₁ one oneTwo two twoOne
    exact node_of_orders scopes tree

/-- A run by a ledger. -/
def turnBy (compiler : Compiler) (sources : List String) (database : Option String) (path : String) (ledger : Ledger)
    (disk : Disk) : Except MigrationError Unit × Commit :=
  Commit.ofReport (compiler.compileAll sources database ledger disk) ⟨path, some ledger⟩ disk

theorem turn_of_success (read : Lockfile.read path disk = .ok ledger)
    (success : (compiler.turnBy sources database path ledger disk).1 = .ok ()) :
    compiler.Turn sources database path disk (compiler.compileAll sources database ledger disk)
      (compiler.turnBy sources database path ledger disk).2 := by
  have entries : Lockfile.entries { path } disk = .ok ledger := read
  refine ⟨{ path }, rfl, rfl, compile_eq_ok_iff.mpr ⟨ledger, entries, rfl⟩, ?_⟩
  rw [Lockfile.asked_of_entries _ entries]
  exact Prod.ext success rfl

/-- A run after another one, which is from a disk without a lockfile. -/
def turnAfter (compiler : Compiler) (sources : List String) (database : Option String) (others : List String)
    (other : Option String) (path : String) (disk : Disk) : Except MigrationError Unit × Commit :=
  compiler.turnBy others other path (Ledger.remember [] (compiler.compileAll sources database [] disk).compiled)
    (compiler.turnBy sources database path [] disk).2.disk

theorem turns_of_success (sources others : List String) (scopes : compiler.TwoScopes database other path disk)
    (tree : disk.IsTree) (read : Lockfile.read path disk = .ok [])
    (success : (compiler.turnBy sources database path [] disk).1 = .ok () ∧
      (compiler.turnAfter sources database others other path disk).1 = .ok ()) :
    compiler.Turn sources database path disk (compiler.compileAll sources database [] disk)
        (compiler.turnBy sources database path [] disk).2 ∧
      ∃ report, compiler.Turn others other path (compiler.turnBy sources database path [] disk).2.disk report
        (compiler.turnAfter sources database others other path disk).2 := by
  have first := turn_of_success read success.1
  refine ⟨first, _, turn_of_success ?_ success.2⟩
  obtain ⟨ledger, read', -, result⟩ := first.result tree scopes.process scopes.extension scopes.named
  obtain rfl : [] = ledger := Except.ok.inj (read.symm.trans read')
  exact result.remembers .nil

/-- No database, and one with a name. -/
theorem twoScopes_of_default (different : database ≠ other) (named : database = none ∨ database = some "p")
    (otherNamed : other = none ∨ other = some "p") (process : '/' ∉ disk.process.toList)
    (lockfile : ¬ (outputPlace {} disk.home).Under (Path.place disk.home path)) :
    TwoScopes {} database other path disk := by
  have isName : Path.IsName "p" := ⟨by decide, by decide, by decide, by decide⟩
  constructor
  case different => exact different
  case named =>
    rintro name same
    rcases named with rfl | rfl <;> cases same
    exact isName
  case otherNamed =>
    rintro name same
    rcases otherNamed with rfl | rfl <;> cases same
    exact isName
  case extension => exact ⟨by decide, by decide, by decide, by decide⟩
  case process => exact process
  case lockfile => exact lockfile

/-- A migration is compiled for both databases, in either order. -/
theorem scopes_independent_oneMigration :
    ∃ (report₁ report₁₂ report₂ report₂₁ : Report) (one oneTwo two twoOne : Commit),
    TwoScopes {} none (some "p") "oxide-guard.lock" byWay ∧ byWay.IsTree ∧
      Turn {} ["m/b.yml"] none "oxide-guard.lock" byWay report₁ one ∧
      Turn {} ["m/b.yml"] (some "p") "oxide-guard.lock" one.disk report₁₂ oneTwo ∧
      Turn {} ["m/b.yml"] (some "p") "oxide-guard.lock" byWay report₂ two ∧
      Turn {} ["m/b.yml"] none "oxide-guard.lock" two.disk report₂₁ twoOne ∧
      report₁.compiled.length = 1 ∧ report₂.compiled.length = 1 ∧
      Clear {} ["m/b.yml"] (some "p") "oxide-guard.lock" byWay
        ("oxide-guard.lock" :: report₁.compiled.map CompiledFile.outputPath) ∧
      Clear {} ["m/b.yml"] none "oxide-guard.lock" byWay
        ("oxide-guard.lock" :: report₂.compiled.map CompiledFile.outputPath) ∧
      ∀ location, oneTwo.disk.node? location = twoOne.disk.node? location := by
  have scopes : TwoScopes {} none (some "p") "oxide-guard.lock" byWay :=
    twoScopes_of_default (by decide) (by decide) (by decide) (by decide +kernel) (by decide +kernel)
  have tree : byWay.IsTree := Disk.isTree_holding _
  have read : Lockfile.read "oxide-guard.lock" byWay = .ok [] := by decide +kernel
  obtain ⟨first, report₁₂, second⟩ := turns_of_success ["m/b.yml"] ["m/b.yml"] scopes tree read (by decide +kernel)
  obtain ⟨first', report₂₁, second'⟩ := turns_of_success ["m/b.yml"] ["m/b.yml"] scopes.symm tree read
    (by decide +kernel)
  have isClear (database : Option String) (outputStays : ".." ∉ Path.segments (outputPath {} "m/b.yml" database))
      (ways : List String) : Clear {} ["m/b.yml"] database "oxide-guard.lock" byWay ways :=
    ⟨by decide +kernel, by decide +kernel, by decide +kernel,
      List.forall_mem_singleton.mpr (Disk.not_leaves (by decide)),
      List.forall_mem_singleton.mpr (Disk.not_leaves outputStays)⟩
  obtain ⟨-, -, orders⟩ := scopes_independent scopes tree
  obtain ⟨-, same⟩ := orders _ _ _ _ _ _ _ _ _ _ first second first' second' (isClear _ (by decide) _)
    (isClear _ (by decide) _)
  exact ⟨_, report₁₂, _, report₂₁, _, _, _, _, scopes, tree, first, second, first', second', by decide +kernel,
    by decide +kernel, isClear _ (by decide) _, isClear _ (by decide) _, same⟩

/-- An output that is there if a database is run before another, and not if it is run after it. -/
def Disagree (compiler : Compiler) (sources : List String) (database : Option String) (others : List String)
    (other : Option String) (path : String) (disk : Disk) (output : String) : Prop :=
  ∃ (report₁ report₁₂ report₂ report₂₁ : Report) (one oneTwo two twoOne : Commit),
    compiler.Turn sources database path disk report₁ one ∧
      compiler.Turn others other path one.disk report₁₂ oneTwo ∧
      compiler.Turn others other path disk report₂ two ∧
      compiler.Turn sources database path two.disk report₂₁ twoOne ∧
      oneTwo.disk.holds output = true ∧ twoOne.disk.holds output = false

theorem disagree_of_success (sources others : List String) (output : String)
    (scopes : compiler.TwoScopes database other path disk) (tree : disk.IsTree)
    (read : Lockfile.read path disk = .ok [])
    (success : ((compiler.turnBy sources database path [] disk).1 = .ok () ∧
      (compiler.turnAfter sources database others other path disk).1 = .ok ()) ∧
        (compiler.turnAfter sources database others other path disk).2.disk.holds output = true)
    (success' : ((compiler.turnBy others other path [] disk).1 = .ok () ∧
      (compiler.turnAfter others other sources database path disk).1 = .ok ()) ∧
        (compiler.turnAfter others other sources database path disk).2.disk.holds output = false) :
    compiler.Disagree sources database others other path disk output := by
  obtain ⟨first, _, second⟩ := turns_of_success sources others scopes tree read success.1
  obtain ⟨first', _, second'⟩ := turns_of_success others sources scopes.symm tree read success'.1
  exact ⟨_, _, _, _, _, _, _, _, first, second, first', second', success.2, success'.2⟩

/-- A disk with a migration where the temporary file of a lockfile would be. -/
def overTemporary : Disk :=
  .holding [("m/b.yml", "up: []\ndown: []\n"), ("oxide-guard.lock.1.tmp", "up: []\ndown: []\n")]

/-- A migration that is looked for by way of the outputs is compiled only after another one was committed, and one that
lies where the temporary file of the lockfile would be is compiled only before. -/
theorem not_independent_byWay :
    (TwoScopes {} none (some "p") "oxide-guard.lock" byWay ∧ byWay.IsTree ∧
      (∀ source ∈ ["m/b.yml", "compiled/../m/a.yml"],
        ¬ (outputPlace {} byWay.home).Under (Path.place byWay.home source)) ∧
      Disagree {} ["m/b.yml"] none ["compiled/../m/a.yml"] (some "p") "oxide-guard.lock" byWay "compiled/p/a.sql") ∧
    TwoScopes {} (some "p") none "oxide-guard.lock" overTemporary ∧ overTemporary.IsTree ∧
      (∀ source ∈ ["oxide-guard.lock.1.tmp", "m/b.yml"],
        ¬ (outputPlace {} overTemporary.home).Under (Path.place overTemporary.home source)) ∧
      Disagree {} ["oxide-guard.lock.1.tmp"] (some "p") ["m/b.yml"] none "oxide-guard.lock" overTemporary
        "compiled/p/oxide-guard.lock.1.sql" := by
  refine ⟨?_, ?_⟩
  · have scopes : TwoScopes {} none (some "p") "oxide-guard.lock" byWay :=
      twoScopes_of_default (by decide) (by decide) (by decide) (by decide +kernel) (by decide +kernel)
    have tree : byWay.IsTree := Disk.isTree_holding _
    exact ⟨scopes, tree, by decide +kernel, disagree_of_success _ _ _ scopes tree (by decide +kernel)
      (by decide +kernel) (by decide +kernel)⟩
  · have scopes : TwoScopes {} (some "p") none "oxide-guard.lock" overTemporary :=
      twoScopes_of_default (by decide) (by decide) (by decide) (by decide +kernel) (by decide +kernel)
    have tree : overTemporary.IsTree := Disk.isTree_holding _
    exact ⟨scopes, tree, by decide +kernel, disagree_of_success _ _ _ scopes tree (by decide +kernel)
      (by decide +kernel) (by decide +kernel)⟩

end Compiler

end SafeMigration
