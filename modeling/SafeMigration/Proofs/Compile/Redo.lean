import SafeMigration.Proofs.Compile.History
import SafeMigration.Proofs.Compile.Interrupt

/-!
Compiling again after a commit was stopped.

In a history whose edits leave the directories around outputs and the lockfile, every output that is remembered can be
looked at. So a source that has an output now and had none before the commit got it from the commit, and it is what the
source would be written out to again: it is kept, where it was compiled before. All other results are the same.
-/

namespace SafeMigration

/-- A change of a disk that leaves the directories on the ways to the lockfile and to outputs that were committed. -/
def Disk.KeepsWays (lockfile : String) (log : List CompiledFile) (before after : Disk) : Prop :=
  ∀ path ∈ lockfile :: log.map CompiledFile.outputPath, ∀ location ∈ Path.way before.home path,
    before.node? location = some .directory → after.node? location = some .directory

/-- A disk on which the lockfile and all outputs that are remembered can be looked at. -/
structure Disk.Tidy (compiler : Compiler) (lockfile : String) (log : List CompiledFile) (disk : Disk) : Prop where
  lock : disk.node? (Path.place disk.home lockfile) = none ∨ disk.Reaches lockfile
  recorded : ∀ ledger, Lockfile.read lockfile disk = .ok ledger → ∀ key record,
    Entries.get? ledger key = some record → ∃ file ∈ log, file.key = key
  output : ∀ file ∈ log, disk.Reaches file.outputPath
  named : ∀ file ∈ log, ∃ path database, compiler.Named path database file ∧ '/' ∉ (Path.label path).toList

section

variable {compiler : Compiler} {sources : List String} {database : Option String} {lockfile path : String}
  {contents : Set ByteArray} {log : List CompiledFile} {disk before after again : Disk} {report : Report}
  {state : Commit} {ledger : Ledger} {file : CompiledFile} {content : ByteArray}

theorem Disk.Tidy.start (fresh : disk.node? (Path.place disk.home lockfile) = none) :
    disk.Tidy compiler lockfile [] := by
  refine ⟨.inl fresh, fun ledger read key record found => ?_, by simp, by simp⟩
  rw [Lockfile.read_of_absent fresh] at read
  cases read
  cases found

/-- What is left of the lockfile and of the directories decides whether all can still be looked at. -/
theorem Disk.Tidy.mono (tidy : before.Tidy compiler lockfile log) (home : after.home = before.home)
    (node : after.node? (Path.place before.home lockfile) = before.node? (Path.place before.home lockfile))
    (kept : before.KeepsWays lockfile log after) : after.Tidy compiler lockfile log := by
  obtain ⟨keptLockfile, keptOutputs⟩ := List.forall_mem_cons.mp kept
  have same : after.find? lockfile = before.find? lockfile := Disk.find?_of_kept home node keptLockfile tidy.lock
  refine ⟨?_, fun ledger read => tidy.recorded ledger (Lockfile.read_congr same.symm read), fun file member => ?_,
    tidy.named⟩
  · rw [home, node]
    exact tidy.lock.imp_right fun reaches => reaches.mono home keptLockfile
  · exact (tidy.output file member).mono home (keptOutputs _ (List.mem_map_of_mem member))

theorem Disk.Tidy.run (tidy : before.Tidy compiler lockfile log) (sound : before.Sound compiler lockfile contents)
    (run : Run compiler sources database lockfile before report (.ok ()) state) :
    state.disk.Tidy compiler lockfile (report.compiled.reverse ++ log) := by
  obtain ⟨ledger, read, ledgerSound⟩ := sound.read
  obtain ⟨rfl, result⟩ := run.result sound.tree read
  have separate := run.separate
  constructor
  case lock =>
    cases result with
    | done _ _ saved => exact .inr saved.reaches
  case recorded =>
    intro after readAfter key record found
    have saved : Lockfile.read lockfile state.disk =
        .ok (ledger.remember (compiler.compileAll sources database ledger before).compiled) := by
      cases result with
      | done _ _ saved => exact saved.read (Ledger.ordered_remember ledgerSound.ordered _)
    rw [saved] at readAfter
    cases readAfter
    rcases Ledger.get?_remember_cases found with ⟨file, member, same, _⟩ | earlier
    · exact ⟨file, List.mem_append_left _ (List.mem_reverse.mpr member), same⟩
    · obtain ⟨file, member, same⟩ := tidy.recorded ledger read key record earlier
      exact ⟨file, List.mem_append_right _ member, same⟩
  case output =>
    intro file member
    rcases List.mem_append.mp member with new | old
    · exact ((Disk.read_eq_ok_iff ..).mp
        (Compiler.read_of_compiled separate result (List.mem_reverse.mp new))).1
    · exact result.reaches (tidy.output file old)
  case named =>
    intro file member
    rcases List.mem_append.mp member with new | old
    · obtain ⟨path, named⟩ := Compiler.named_of_mem sound.tree (List.mem_reverse.mp new)
      exact ⟨path, database, named⟩
    · exact tidy.named file old

theorem Disk.Tidy.failed {error : MigrationError} (tidy : before.Tidy compiler lockfile log)
    (sound : before.Sound compiler lockfile contents)
    (run : Run compiler sources database lockfile before report (.error error) state) :
    state.disk.Tidy compiler lockfile log := by
  obtain ⟨ledger, read, _⟩ := sound.read
  obtain ⟨rfl, result⟩ := run.result sound.tree read
  have separate := run.separate
  refine tidy.mono result.home (result.lockfile_of_error (fun file member =>
    separate.output_lockfile (Compiler.output_of_compiled member)) sound.straight separate.distinct)
    fun _ _ _ _ => result.directory

/-- In a history that keeps the ways, the lockfile and all outputs that are remembered can be looked at. -/
theorem Reached.tidy (reached : Reached compiler lockfile (Disk.KeepsWays lockfile) contents log disk) :
    disk.Tidy compiler lockfile log := by
  induction reached with
  | start _ _ fresh _ => exact .start fresh
  | edit _ edited kept _ ih => exact ih.mono edited.home edited.lockfile kept
  | run reached run _ ih => exact ih.run reached.sound run
  | failed reached run _ ih => exact ih.failed reached.sound run

/-- A path that does not lead by two dots out of a directory that is missing on the ways to some others. -/
def Disk.Inside (disk : Disk) (others : List String) (path : String) : Prop :=
  ∀ other ∈ others, ∀ location ∈ Path.way disk.home other, disk.node? location = none →
    location ∈ Path.way disk.home path → location <:+ Path.place disk.home path

instance (disk : Disk) (others : List String) (path : String) : Decidable (disk.Inside others path) :=
  inferInstanceAs (Decidable (∀ other ∈ others, ∀ location ∈ Path.way disk.home other, disk.node? location = none →
    location ∈ Path.way disk.home path → location <:+ Path.place disk.home path))

/-- Everything around something that is there is a directory. -/
theorem Disk.IsTree.suffix (tree : disk.IsTree) {location around : Location} (there : disk.node? location ≠ none)
    (inside : around <:+ location) (different : around ≠ location) : disk.node? around = some .directory := by
  induction location with
  | nil => exact absurd (List.suffix_nil.mp inside) different
  | cons name location ih =>
    have directory := tree.around _ there
    rcases List.suffix_cons_iff.mp inside with same | further
    · exact absurd same different
    · by_cases here : around = location
      · rw [here]
        exact directory
      · exact ih (by rw [List.tail_cons] at directory; rw [directory]; exact Option.some_ne_none _) further here

section

variable (separate : compiler.Separate sources database lockfile disk)
  (partly : Disk.Partly (compiler.compileAll sources database ledger disk).compiled lockfile disk again)

include separate partly

/-- A source can be read when a commit was stopped if it could be read before. -/
theorem Disk.Partly.read_source (tree : disk.IsTree) {source : String} (member : source ∈ sources)
    (inside : disk.Inside
      (lockfile :: (compiler.compileAll sources database ledger disk).compiled.map CompiledFile.outputPath) source)
    (content : ByteArray) : again.read source = .ok content ↔ disk.read source = .ok content := by
  obtain ⟨aroundLockfile, aroundOutputs⟩ := List.forall_mem_cons.mp inside
  have node := partly.node_source separate member
  have fromTemporary := separate.fromTemporary source (List.mem_cons_of_mem _ (List.mem_append_left _ member))
  rw [Disk.read_eq_ok_iff, Disk.read_eq_ok_iff, partly.home, node]
  refine ⟨fun ⟨reaches, there⟩ => ⟨⟨reaches.legal, fun location onWay => ?_⟩, there⟩,
    fun ⟨reaches, there⟩ => ⟨partly.reaches reaches, there⟩⟩
  have directory := reaches.way location (by rwa [partly.home])
  have notTemporary : location ≠ Lockfile.temporaryPlace lockfile disk := fun same => by
    rw [same] at onWay
    exact fromTemporary.under onWay
  rcases partly.node location notTemporary with same | ⟨absent, _, made⟩ | ⟨_, _, _, _, written, _⟩
  · rw [← same, directory]
  · -- A directory that was made lies around the source, which was there before.
    have different : location ≠ Path.place disk.home source := fun same => by
      rw [same, there] at absent
      cases absent
    have around : location <:+ Path.place disk.home source := by
      rcases made with onLockfile | ⟨file, compiled, _, onOutput⟩
      · exact aroundLockfile location onLockfile absent onWay
      · exact aroundOutputs _ (List.mem_map_of_mem compiled) location onOutput absent onWay
    exact tree.suffix (by rw [there]; exact Option.some_ne_none _) around different
  · rw [written] at directory
    cases directory

/-- A source whose output is not written anew is compiled to the same again. -/
theorem Compiler.Known.compileFile_of_unwritten {known : DigestRecord}
    (isKnown : compiler.Known path database ledger disk content known) (listed : path ∈ sources)
    (source : again.read path = .ok content)
    (unwritten : ∀ file ∈ (compiler.compileAll sources database ledger disk).compiled, file.outcome = .compiled →
      file.outputPath ≠ compiler.outputPath path database) :
    compiler.compileFile path database ledger again = compiler.compileFile path database ledger disk := by
  obtain ⟨reaches, _⟩ := (Disk.holds_eq_true_iff ..).mp isKnown.held
  have same : again.find? (compiler.outputPath path database) = disk.find? (compiler.outputPath path database) :=
    Disk.find?_of_kept partly.home (partly.node_unwritten separate (Compiler.output_mem listed) unwritten)
      (fun _ _ => partly.directory) (.inr reaches)
  have held : again.holds (compiler.outputPath path database) = true := by rw [Disk.holds, same]; exact isKnown.held
  have knownAgain : compiler.Known path database ledger again content known :=
    ⟨source, isKnown.remembered, held, isKnown.same⟩
  rw [Compiler.compileFile_of_read source, Compiler.compileFile_of_read isKnown.source, knownAgain.detect,
    isKnown.detect, Disk.read_of_find? held same]

/-- An output that is remembered, was not there before and is there now has been written by the commit. -/
theorem Compiler.Known.read_of_missing {known : DigestRecord}
    (isKnown : compiler.Known path database ledger again content known) (tidy : disk.Tidy compiler lockfile log)
    (read : Lockfile.read lockfile disk = .ok ledger) (listed : path ∈ sources)
    (missing : disk.holds (compiler.outputPath path database) = false)
    (member : file ∈ (compiler.compileAll sources database ledger disk).compiled)
    (output : file.outputPath = compiler.outputPath path database) :
    again.read (compiler.outputPath path database) = .ok file.body.toUTF8 := by
  obtain ⟨other, inside, key⟩ := tidy.recorded ledger read _ known isKnown.remembered
  obtain ⟨source, database', named, plain⟩ := tidy.named other inside
  obtain ⟨label, same⟩ :=
    Ledger.key_injective plain (plain_label_of_read partly.tree isKnown.source) (named.key.symm.trans key)
  have reaches : disk.Reaches (compiler.outputPath path database) := by
    rw [← Compiler.outputPath_of_label label, ← same, ← named.outputPath]
    exact tidy.output other inside
  have absent : disk.node? (Path.place disk.home (compiler.outputPath path database)) = none := by
    by_contra there
    rw [(Disk.holds_eq_true_iff ..).mpr ⟨reaches, there⟩] at missing
    cases missing
  have straight : Path.place disk.home (compiler.outputPath path database) ∉
      Path.way disk.home (compiler.outputPath path database) := fun onWay => by
    rw [reaches.way _ onWay] at absent
    cases absent
  refine (Disk.read_eq_ok_iff ..).mpr ⟨partly.reaches reaches, ?_⟩
  rw [partly.home]
  rcases partly.node_output separate (Compiler.output_mem listed) fun _ _ _ _ => straight with
    unchanged | ⟨made, insideMade, _, outputMade, written⟩
  · have held := ((Disk.holds_eq_true_iff ..).mp isKnown.held).2
    rw [partly.home, unchanged, absent] at held
    exact absurd rfl held
  · have distinct := Compiler.nodup_outputs_compiled compiler sources database ledger disk
    rwa [List.inj_on_of_nodup_map distinct insideMade member (outputMade.trans output.symm)] at written

end

/-- A file as it is compiled again: to the same, or kept because its output is there. -/
inductive Redone (again : Disk) : CompiledFile → CompiledFile → Prop
  | same {file : CompiledFile} : Redone again file file
  | kept {file : CompiledFile} (compiled : file.outcome = .compiled)
      (written : again.read file.outputPath = .ok file.body.toUTF8) :
      Redone again file { file with outcome := .unchanged }

/-- The output of a source that is as it was remembered is not written. -/
theorem Compiler.Known.unwritten {known : DigestRecord}
    (isKnown : compiler.Known path database ledger disk content known) (listed : path ∈ sources)
    (alone : compiler.Alone sources database path) :
    ∀ file ∈ (compiler.compileAll sources database ledger disk).compiled, file.outcome = .compiled →
      file.outputPath ≠ compiler.outputPath path database := by
  intro file member compiled same
  cases result : compiler.compiledOf sources database ledger disk path with
  | none => exact Compiler.Failed.output_ne ⟨listed, result⟩ member same
  | some own =>
    have success := (Compiler.compiledOf_eq_some_iff.mp result).2
    have origin := Compiler.origin_of_compileFile success
    have memberOwn := Compiler.mem_compiled_iff.mpr ⟨path, listed, alone, success⟩
    have distinct := Compiler.nodup_outputs_compiled compiler sources database ledger disk
    rw [List.inj_on_of_nodup_map distinct member memberOwn (same.trans origin.named.outputPath.symm)] at compiled
    cases origin with
    | rebuilt source due _ =>
      rw [isKnown.source] at source
      cases source
      exact due known isKnown.remembered isKnown.held isKnown.same
    | kept _ _ _ reuse =>
      rw [Compiler.eq_of_reuse reuse] at compiled
      cases compiled

section

variable (tidy : disk.Tidy compiler lockfile log) (sound : disk.Sound compiler lockfile contents)
  (read : Lockfile.read lockfile disk = .ok ledger) (ledgerSound : ledger.Sound compiler contents)
  (injective : Set.InjOn Digest.of contents) (separate : compiler.Separate sources database lockfile disk)
  (partly : Disk.Partly (compiler.compileAll sources database ledger disk).compiled lockfile disk again)
  (inside : ∀ source ∈ sources, disk.Inside
    (lockfile :: (compiler.compileAll sources database ledger disk).compiled.map CompiledFile.outputPath) source)

include tidy sound read ledgerSound injective separate partly inside

theorem redone_of_source (listed : path ∈ sources) :
    Option.Rel (Redone again) (compiler.compiledOf sources database ledger disk path)
      (compiler.compiledOf sources database ledger again path) := by
  by_cases alone : compiler.Alone sources database path
  swap
  · rw [Compiler.compiledOf, Compiler.compiledOf, if_neg alone, if_neg alone]
    exact .none
  have refl : ∀ result : Option CompiledFile, Option.Rel (Redone again) result result := fun result => by
    cases result with
    | none => exact .none
    | some file => exact .some .same
  have sourceIff := partly.read_source separate sound.tree listed (inside path listed)
  rw [Compiler.compiledOf, Compiler.compiledOf, if_pos alone, if_pos alone]
  cases source : disk.read path with
  | error fault =>
    cases sourceAgain : again.read path with
    | error fault' =>
      rw [Compiler.compileFile_of_unread source, Compiler.compileFile_of_unread sourceAgain]
      exact .none
    | ok content =>
      rw [(sourceIff content).mp sourceAgain] at source
      cases source
  | ok content =>
    have sourceAgain := (sourceIff content).mpr source
    rcases Compiler.due_or_known compiler database ledger source with due | ⟨known, isKnown⟩
    swap
    · rw [isKnown.compileFile_of_unwritten separate partly listed sourceAgain (isKnown.unwritten listed alone)]
      exact refl _
    rcases Compiler.due_or_known compiler database ledger sourceAgain with dueAgain | ⟨known, isKnown⟩
    · rw [Compiler.compileFile_of_due source due, Compiler.compileFile_of_due sourceAgain dueAgain]
      exact refl _
    -- The source is as it was remembered, so the commit has written its output.
    have missing : disk.holds (compiler.outputPath path database) = false := by
      by_contra held
      exact due known isKnown.remembered (Bool.not_eq_false _ ▸ held) isKnown.same
    obtain ⟨file, rebuild, rfl, _⟩ := ledgerSound.rebuilt isKnown partly.tree injective
      (sound.within _ _ ((Disk.read_eq_ok_iff ..).mp source).2)
    have compiled : compiler.compileFile path database ledger disk = .ok file :=
      (Compiler.compileFile_of_due source due).trans rebuild
    have named := (Compiler.origin_of_compileFile compiled).named
    have written := isKnown.read_of_missing separate partly tidy read listed missing
      (Compiler.mem_compiled_iff.mpr ⟨path, listed, alone, compiled⟩) named.outputPath
    have kept : compiler.fileWith path database content file.body file.capabilities .unchanged =
        { file with outcome := .unchanged } := by
      rw [Compiler.eq_of_rebuild rebuild]
      rfl
    rw [compiled, isKnown.kept written named.compiledDigest, Compiler.reuse_of_rebuild rebuild, kept]
    refine .some (.kept ?_ (named.outputPath ▸ written))
    rw [Compiler.eq_of_rebuild rebuild]
    rfl

/-- The files that are compiled again are those that were compiled, in their order. -/
theorem redone : List.Forall₂ (Redone again) (compiler.compileAll sources database ledger disk).compiled
    (compiler.compileAll sources database ledger again).compiled := by
  rw [Compiler.compiled_compileAll, Compiler.compiled_compileAll]
  have each : ∀ path ∈ sources, Option.Rel (Redone again) (compiler.compiledOf sources database ledger disk path)
      (compiler.compiledOf sources database ledger again path) := fun _ listed =>
    redone_of_source tidy sound read ledgerSound injective separate partly inside listed
  have part : ∀ listed : List String, (∀ path ∈ listed, path ∈ sources) → List.Forall₂ (Redone again)
      (listed.filterMap (compiler.compiledOf sources database ledger disk))
      (listed.filterMap (compiler.compiledOf sources database ledger again)) := by
    intro listed
    induction listed with
    | nil => exact fun _ => .nil
    | cons path listed ih =>
      intro members
      obtain ⟨member, members⟩ := List.forall_mem_cons.mp members
      have first := each path member
      rw [List.filterMap_cons, List.filterMap_cons]
      generalize compiler.compiledOf sources database ledger disk path = result at first
      generalize compiler.compiledOf sources database ledger again path = result' at first
      cases first with
      | none => exact ih members
      | some redone => exact .cons redone (ih members)
  exact part sources fun _ member => member

end

end

end SafeMigration
