import SafeMigration.Proofs.Compile.Frame

/-!
Commits that are stopped.

A commit can be stopped when it has written some of the outputs, and while it saves the lockfile, up to the moment when
the temporary file takes the place of the lockfile. What is left then differs from what was there by whole outputs, by
directories and by the temporary file alone.
-/

namespace SafeMigration

/-- A disk as another process sees it. -/
def Disk.as (disk : Disk) (process : String) : Disk := { disk with process := process }

@[simp] theorem Disk.home_as (disk : Disk) (process : String) : (disk.as process).home = disk.home := rfl

@[simp] theorem Disk.node?_as (disk : Disk) (process : String) (location : Location) :
    (disk.as process).node? location = disk.node? location := rfl

/-- The disks that a commit leaves when it is stopped before the lockfile is replaced. -/
inductive Interrupted (files : List CompiledFile) (lockfile : Lockfile) (disk : Disk) : Disk → Prop
  /-- Some of the outputs have been written. -/
  | writing {count : Nat} {state : Commit}
      (added : ({ disk := disk, lockfile := lockfile } : Commit).addAll (files.take count) = (.ok (), state)) :
      Interrupted files lockfile disk state.disk
  /-- The directories around the lockfile have been made, or some of them. -/
  | making {state : Commit}
      (added : ({ disk := disk, lockfile := lockfile } : Commit).addAll files = (.ok (), state)) :
      Interrupted files lockfile disk (state.disk.makeDirectories (Path.around lockfile.path)).2
  /-- The temporary file has been written, or some of it. -/
  | saving {state : Commit} {between stopped : Disk} {content : ByteArray}
      (added : ({ disk := disk, lockfile := lockfile } : Commit).addAll files = (.ok (), state))
      (made : state.disk.makeDirectories (Path.around lockfile.path) = (.ok (), between))
      (written : between.write (Lockfile.temporaryOf lockfile.path disk.process) content = .ok stopped) :
      Interrupted files lockfile disk stopped

/-- Some of the outputs have been written whole, directories have been made on the ways to outputs and to the lockfile,
a temporary file may have been written, and nothing else has changed. -/
structure Disk.Partly (files : List CompiledFile) (path : String) (before after : Disk) : Prop where
  home : after.home = before.home
  tree : after.IsTree
  node : ∀ location, location ≠ Lockfile.temporaryPlace path before →
    after.node? location = before.node? location ∨
      (before.node? location = none ∧ after.node? location = some .directory ∧
        (location ∈ Path.way before.home path ∨
          ∃ file ∈ files, file.outcome = .compiled ∧ location ∈ Path.way before.home file.outputPath)) ∨
      ∃ file ∈ files, file.outcome = .compiled ∧ location = Path.place before.home file.outputPath ∧
        after.node? location = some (.file file.body.toUTF8) ∧ before.node? location ≠ some .directory
  temporary : after.node? (Lockfile.temporaryPlace path before) = before.node? (Lockfile.temporaryPlace path before) ∨
    before.node? (Lockfile.temporaryPlace path before) ≠ some .directory ∧
      ∃ content, after.node? (Lockfile.temporaryPlace path before) = some (.file content)

section

variable {compiler : Compiler} {sources : List String} {database : Option String} {ledger : Ledger} {path : String}
  {files : List CompiledFile} {disk before after stopped : Disk} {lockfile : Lockfile}

namespace Disk

theorem IsTree.as (tree : disk.IsTree) (process : String) : (disk.as process).IsTree := ⟨tree.home, tree.around⟩

/-- What is left after outputs were written and directories were made. -/
theorem Partly.of_grows {between : Disk} (wrote : Wrote files before between)
    (grows : Grows (Path.way before.home path) between after) (tree : after.IsTree)
    (outputs : ∀ file ∈ files, Path.Apart before.home file.outputPath (Lockfile.temporaryOf path before.process))
    (around : Path.Apart before.home path (Lockfile.temporaryOf path before.process)) :
    Partly files path before after := by
  refine ⟨grows.home.trans wrote.home, tree, fun location _ => wrote.node_of_grows (grows.node location), .inl ?_⟩
  rw [Lockfile.temporaryPlace, grows.elsewhere around.under]
  exact wrote.elsewhere fun file member _ => ⟨(outputs file member).places.symm, (outputs file member).under⟩

/-- So it is after the temporary file was written as well. -/
theorem Partly.of_write {between : Disk} {content : ByteArray} (partly : Partly files path before between)
    (written : between.write (Lockfile.temporaryOf path before.process) content = .ok after)
    (vacant : before.node? (Lockfile.temporaryPlace path before) ≠ some .directory) :
    Partly files path before after := by
  obtain ⟨reaches, vacantNow, rfl⟩ := (write_eq_ok_iff ..).mp written
  have around := (reaches.ending partly.tree).resolve_left vacantNow
  have place : Path.place between.home (Lockfile.temporaryOf path before.process) =
      Lockfile.temporaryPlace path before := by rw [partly.home, Lockfile.temporaryPlace]
  rw [place] at vacantNow around ⊢
  refine ⟨partly.home, partly.tree.put vacantNow around.2 _, fun location different => ?_, .inr ⟨vacant, content, ?_⟩⟩
  · rw [node?_put between (ne_root_of_vacant vacantNow), if_neg different]
    exact partly.node location different
  · rw [node?_put between (ne_root_of_vacant vacantNow), if_pos rfl]

end Disk

/-- A commit that wrote some of the outputs can be stopped then. -/
theorem Interrupted.of_success {count : Nat}
    (success : (({ disk := disk, lockfile := lockfile } : Commit).addAll (files.take count)).1 = .ok ()) :
    Interrupted files lockfile disk
      (({ disk := disk, lockfile := lockfile } : Commit).addAll (files.take count)).2.disk :=
  .writing (by rw [← success])

/-- Whenever a commit is stopped, this is what is left. -/
theorem partly_of_interrupted (tree : disk.IsTree)
    (separate : compiler.Separate sources database lockfile.path disk) (known : lockfile.known = some ledger)
    (interrupted : Interrupted (compiler.compileAll sources database ledger disk).compiled lockfile disk stopped) :
    Disk.Partly (compiler.compileAll sources database ledger disk).compiled lockfile.path disk stopped := by
  have outputs : ∀ file ∈ (compiler.compileAll sources database ledger disk).compiled,
      Path.Apart disk.home file.outputPath (Lockfile.temporaryOf lockfile.path disk.process) :=
    fun file member => separate.output_temporary (Compiler.output_of_compiled member)
  have around := separate.fromTemporary _ List.mem_cons_self
  have spread : Spread disk.home (compiler.compileAll sources database ledger disk).compiled := separate.spread
  generalize (compiler.compileAll sources database ledger disk).compiled = files at *
  have whole : ∀ {state : Commit}, ({ disk := disk, lockfile := lockfile } : Commit).addAll files = (.ok (), state) →
      Disk.Stored files disk state.disk := fun added => by
    have result := Commit.addResult { disk := disk, lockfile := lockfile } tree known spread
    rw [added] at result
    cases result with
    | done stored _ => exact stored
  have growing : ∀ {state : Commit},
      ({ disk := disk, lockfile := lockfile } : Commit).addAll files = (.ok (), state) →
      Disk.Partly files lockfile.path disk (state.disk.makeDirectories (Path.around lockfile.path)).2 := fun added => by
    have wrote := (whole added).wrote
    obtain ⟨made, grows⟩ := Lockfile.made_around wrote.tree lockfile.path
    rw [wrote.home] at grows
    exact .of_grows wrote grows made.tree outputs around
  cases interrupted with
  | @writing count state added =>
    have result := Commit.addResult { disk := disk, lockfile := lockfile } tree known
      (spread.sublist (List.take_sublist count files))
    rw [added] at result
    cases result with
    | done stored _ =>
      exact .of_grows (stored.wrote.mono fun _ => List.mem_of_mem_take) (.refl _ _) stored.wrote.tree outputs around
  | making added => exact growing added
  | @saving state between stopped content added made written =>
    have partly := growing added
    rw [made] at partly
    refine partly.of_write written fun directory => ?_
    have vacant := ((Disk.write_eq_ok_iff ..).mp written).2.1
    rw [partly.home, ← Lockfile.temporaryPlace] at vacant
    rcases partly.temporary with same | ⟨vacantBefore, _⟩
    · exact vacant (same.trans directory)
    · exact vacantBefore directory

namespace Disk.Partly

theorem directory (partly : Partly files path before after) {location : Location}
    (directory : before.node? location = some .directory) : after.node? location = some .directory := by
  by_cases here : location = Lockfile.temporaryPlace path before
  · subst here
    exact (partly.temporary.resolve_right fun ⟨vacant, _⟩ => vacant directory).trans directory
  · rcases partly.node location here with same | ⟨_, made, _⟩ | ⟨_, _, _, _, _, vacant⟩
    · rw [same, directory]
    · exact made
    · exact absurd directory vacant

theorem reaches (partly : Partly files path before after) {other : String} (reaches : before.Reaches other) :
    after.Reaches other := reaches.mono partly.home fun _ _ => partly.directory

/-- Off the ways of the outputs and of the lockfile nothing but outputs has changed. -/
theorem node_of_offWay (partly : Partly files path before after) {location : Location}
    (notTemporary : location ≠ Lockfile.temporaryPlace path before) (offWay : location ∉ Path.way before.home path)
    (outputs : ∀ file ∈ files, file.outcome = .compiled → location ∉ Path.way before.home file.outputPath) :
    after.node? location = before.node? location ∨
      ∃ file ∈ files, file.outcome = .compiled ∧ location = Path.place before.home file.outputPath ∧
        after.node? location = some (.file file.body.toUTF8) := by
  rcases partly.node location notTemporary with
    same | ⟨_, _, onWay | ⟨file, member, compiled, onWay⟩⟩ | ⟨file, member, compiled, here, written, _⟩
  · exact .inl same
  · exact absurd onWay offWay
  · exact absurd onWay (outputs file member compiled)
  · exact .inr ⟨file, member, compiled, here, written⟩

variable (separate : compiler.Separate sources database path disk)
  (partly : Partly (compiler.compileAll sources database ledger disk).compiled path disk after)

include separate partly

/-- The lockfile is as it was. -/
theorem node_lockfile (straight : Path.place disk.home path ∉ Path.way disk.home path) :
    after.node? (Path.place disk.home path) = disk.node? (Path.place disk.home path) := by
  have apart : ∀ file ∈ (compiler.compileAll sources database ledger disk).compiled,
      Path.Apart disk.home file.outputPath path :=
    fun file member => separate.output_lockfile (Compiler.output_of_compiled member)
  rcases partly.node_of_offWay separate.distinct straight fun file member _ => (apart file member).under with
    same | ⟨file, member, _, here, _⟩
  · exact same
  · exact absurd here.symm (apart file member).places

/-- An output is as it was, or has been written. -/
theorem node_output {output : String} (member : output ∈ compiler.outputs sources database)
    (straight : ∀ file ∈ (compiler.compileAll sources database ledger disk).compiled, file.outcome = .compiled →
      file.outputPath = output → Path.place disk.home output ∉ Path.way disk.home output) :
    after.node? (Path.place disk.home output) = disk.node? (Path.place disk.home output) ∨
      ∃ file ∈ (compiler.compileAll sources database ledger disk).compiled, file.outcome = .compiled ∧
        file.outputPath = output ∧ after.node? (Path.place disk.home output) = some (.file file.body.toUTF8) := by
  have fromLockfile := separate.output_lockfile member
  have apart : ∀ file ∈ (compiler.compileAll sources database ledger disk).compiled, file.outputPath ≠ output →
      Path.Apart disk.home output file.outputPath := fun file inside different =>
    separate.amongOutputs _ member _ (Compiler.output_of_compiled inside) different.symm
  have offWays : ∀ file ∈ (compiler.compileAll sources database ledger disk).compiled, file.outcome = .compiled →
      Path.place disk.home output ∉ Path.way disk.home file.outputPath := fun file inside compiled => by
    by_cases own : file.outputPath = output
    · rw [own]
      exact straight file inside compiled own
    · exact (apart file inside own).onWay
  rcases partly.node_of_offWay (separate.output_temporary member).places fromLockfile.onWay offWays with
    same | ⟨file, inside, compiled, here, written⟩
  · exact .inl same
  · by_cases own : file.outputPath = output
    · exact .inr ⟨file, inside, compiled, own, written⟩
    · exact absurd here (apart file inside own).places

/-- An output that was not to be written is as it was. -/
theorem node_unwritten {output : String} (member : output ∈ compiler.outputs sources database)
    (unwritten : ∀ file ∈ (compiler.compileAll sources database ledger disk).compiled, file.outcome = .compiled →
      file.outputPath ≠ output) :
    after.node? (Path.place disk.home output) = disk.node? (Path.place disk.home output) := by
  rcases partly.node_output separate member fun file inside compiled own =>
    absurd own (unwritten file inside compiled) with same | ⟨file, inside, compiled, own, _⟩
  · exact same
  · exact absurd own (unwritten file inside compiled)

/-- Sources are as they were. -/
theorem node_source {source : String} (member : source ∈ sources) :
    after.node? (Path.place disk.home source) = disk.node? (Path.place disk.home source) := by
  have fromOutputs : ∀ file ∈ (compiler.compileAll sources database ledger disk).compiled,
      Path.Apart disk.home source file.outputPath :=
    fun file inside => separate.fromOutputs _ member _ (Compiler.output_of_compiled inside)
  have fromTemporary := separate.fromTemporary source (List.mem_cons_of_mem _ (List.mem_append_left _ member))
  have fromLockfile := separate.fromLockfile source (List.mem_append_left _ member)
  rcases partly.node_of_offWay fromTemporary.places fromLockfile.onWay
    fun file inside _ => (fromOutputs file inside).onWay with same | ⟨file, inside, _, here, _⟩
  · exact same
  · exact absurd here (fromOutputs file inside).places

end Disk.Partly

end

end SafeMigration
