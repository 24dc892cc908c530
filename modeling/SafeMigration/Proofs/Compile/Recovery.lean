import SafeMigration.Proofs.Compile.Redo

/-!
A commit that was stopped is made up for by compiling and committing again.

Until the lockfile is replaced a commit leaves it alone, so what is compiled again is compiled by the same records. Then
all outputs get the bodies that they were to have, and the same is remembered of them. The new commit can do what the
first could: no output and no directory that was left behind is in its way.
-/

namespace SafeMigration

/-- The lockfile and the outputs of sources that failed are as they were. -/
structure Untouched (compiler : Compiler) (database : Option String) (lockfile : String) (report : Report)
    (before after : Disk) : Prop where
  lock : after.node? (Path.place before.home lockfile) = before.node? (Path.place before.home lockfile)
  output : ∀ failure ∈ report.failures,
    after.node? (Path.place before.home (compiler.outputPath failure.path database)) =
      before.node? (Path.place before.home (compiler.outputPath failure.path database))

section

variable {compiler : Compiler} {sources : List String} {database : Option String} {lockfile process : String}
  {contents : Set ByteArray} {log : List CompiledFile} {disk again between between' stopped : Disk} {report : Report}
  {ledger : Ledger} {file : CompiledFile} {location : Location} {final : Commit}

theorem Disk.Partly.as {files : List CompiledFile} (partly : Disk.Partly files lockfile disk stopped)
    (process : String) : Disk.Partly files lockfile disk (stopped.as process) :=
  ⟨partly.home, partly.tree.as process, by simpa using partly.node, by simpa using partly.temporary⟩

theorem Compiler.Separate.of_same {other : Disk} (separate : compiler.Separate sources database lockfile disk)
    (home : other.home = disk.home) (process : other.process = disk.process) :
    compiler.Separate sources database lockfile other := by
  obtain ⟨amongOutputs, fromOutputs, fromLockfile, fromTemporary⟩ := separate
  constructor <;> simp only [home, process] <;> assumption

section

variable {files rest : List CompiledFile} (redone : List.Forall₂ (Redone again) files rest)

include redone

/-- What is compiled anew when a commit was stopped had been compiled before. -/
theorem compiled_of_redone (member : file ∈ rest) (compiled : file.outcome = .compiled) : file ∈ files := by
  induction redone with
  | nil => cases member
  | cons first _ ih =>
    rcases List.mem_cons.mp member with rfl | later
    · cases first with
      | same => exact List.mem_cons_self
      | kept => cases compiled
    · exact List.mem_cons_of_mem _ (ih later)

/-- What had been compiled is compiled anew, or its output is there. -/
theorem redone_of_compiled (member : file ∈ files) :
    file ∈ rest ∨
      { file with outcome := .unchanged } ∈ rest ∧ again.read file.outputPath = .ok file.body.toUTF8 := by
  induction redone with
  | nil => cases member
  | cons first _ ih =>
    rcases List.mem_cons.mp member with rfl | later
    · cases first with
      | same => exact .inl List.mem_cons_self
      | kept _ written => exact .inr ⟨List.mem_cons_self, written⟩
    · exact (ih later).imp (List.mem_cons_of_mem _) (And.imp_left (List.mem_cons_of_mem _))

/-- The same is remembered. -/
theorem remember_of_redone (ledger : Ledger) : ledger.remember rest = ledger.remember files := by
  induction redone generalizing ledger with
  | nil => rfl
  | cons first _ ih =>
    simp only [Ledger.remember, List.foldl_cons] at ih ⊢
    rw [ih]
    cases first <;> rfl

end

section

variable (separate : compiler.Separate sources database lockfile disk)
  (partly : Disk.Partly (compiler.compileAll sources database ledger disk).compiled lockfile disk again)
  (redone : List.Forall₂ (Redone again) (compiler.compileAll sources database ledger disk).compiled
    (compiler.compileAll sources database ledger again).compiled)
  (stored : Disk.Stored (compiler.compileAll sources database ledger disk).compiled (disk.as process) between)
  (stored' : Disk.Stored (compiler.compileAll sources database ledger again).compiled again between')

section

include partly redone stored'

/-- On the way to an output there are directories in the end. -/
theorem directory_of_way (member : file ∈ (compiler.compileAll sources database ledger disk).compiled)
    (compiled : file.outcome = .compiled) (onWay : location ∈ Path.way disk.home file.outputPath) :
    between'.node? location = some .directory := by
  rcases redone_of_compiled redone member with same | ⟨_, written⟩
  · exact stored'.way file same compiled location (by rwa [partly.home])
  · obtain ⟨reaches, _⟩ := (Disk.read_eq_ok_iff ..).mp written
    exact stored'.wrote.directory (reaches.way location (by rwa [partly.home]))

include stored

/-- Where a commit would have left a directory there is one in the end. -/
theorem directory_of_stored (directory : between.node? location = some .directory) :
    between'.node? location = some .directory := by
  rcases stored.wrote.node location with same | ⟨_, _, file, member, compiled, onWay⟩ | ⟨_, _, _, _, written, _⟩
  · exact stored'.wrote.directory (partly.directory (same.symm.trans directory))
  · exact directory_of_way partly redone stored' member compiled onWay
  · rw [written] at directory
    cases directory

include separate

/-- Off the way to the lockfile, what is there in the end is what a commit would have left. -/
theorem node_of_stored (notTemporary : location ≠ Lockfile.temporaryPlace lockfile disk)
    (offWay : location ∉ Path.way disk.home lockfile) : between'.node? location = between.node? location := by
  by_cases placed : ∃ file ∈ (compiler.compileAll sources database ledger disk).compiled, file.outcome = .compiled ∧
      location = Path.place disk.home file.outputPath
  · obtain ⟨file, member, compiled, rfl⟩ := placed
    have written : between.node? (Path.place disk.home file.outputPath) = some (.file file.body.toUTF8) :=
      stored.file file member compiled
    rw [written]
    rcases redone_of_compiled redone member with same | ⟨kept, read⟩
    · rw [← partly.home]
      exact stored'.file file same compiled
    · have there := ((Disk.read_eq_ok_iff ..).mp read).2
      rw [partly.home] at there
      rw [stored'.wrote.elsewhere fun other inside compiledOther => ?_, there]
      have different : file.outputPath ≠ other.outputPath := fun same => by
        have distinct := Compiler.nodup_outputs_compiled compiler sources database ledger again
        rw [← List.inj_on_of_nodup_map distinct kept inside same] at compiledOther
        cases compiledOther
      have apart := separate.amongOutputs _ (Compiler.output_of_compiled member) _
        (Compiler.output_of_compiled (compiled_of_redone redone inside compiledOther)) different
      rw [partly.home]
      exact ⟨apart.places, apart.onWay⟩
  by_cases passed : ∃ file ∈ (compiler.compileAll sources database ledger disk).compiled, file.outcome = .compiled ∧
      location ∈ Path.way disk.home file.outputPath
  · obtain ⟨file, member, compiled, onWay⟩ := passed
    have directory : between.node? location = some .directory := stored.way file member compiled location onWay
    rw [directory]
    exact directory_of_way partly redone stored' member compiled onWay
  · have outside : ∀ file ∈ (compiler.compileAll sources database ledger disk).compiled, file.outcome = .compiled →
        location ≠ Path.place disk.home file.outputPath ∧ location ∉ Path.way disk.home file.outputPath :=
      fun file member compiled =>
        ⟨fun same => placed ⟨file, member, compiled, same⟩, fun onWay => passed ⟨file, member, compiled, onWay⟩⟩
    have before : between.node? location = disk.node? location := stored.wrote.elsewhere outside
    have after : between'.node? location = again.node? location := stored'.wrote.elsewhere
      fun file member compiled => partly.home ▸ outside file (compiled_of_redone redone member compiled) compiled
    rw [before, after]
    rcases partly.node_of_offWay notTemporary offWay fun file member compiled => (outside file member compiled).2 with
      same | ⟨file, member, compiled, here, _⟩
    · exact same
    · exact absurd here (outside file member compiled).1

end

include separate partly

/-- An output that a commit would have written can still be written when it was stopped. -/
theorem accepts_of_partly (member : file ∈ (compiler.compileAll sources database ledger disk).compiled)
    (accepts : (disk.as process).Accepts file.outputPath) : again.Accepts file.outputPath := by
  have listed := Compiler.output_of_compiled member
  refine ⟨accepts.legal, ?_, ?_, by rw [partly.home]; exact accepts.straight⟩
  · rw [partly.home]
    intro location onWay content found
    have notTemporary : location ≠ Lockfile.temporaryPlace lockfile disk := fun same => by
      rw [same] at onWay
      exact (separate.output_temporary listed).under onWay
    rcases partly.node location notTemporary with same | ⟨_, made, _⟩ | ⟨other, inside, _, rfl, _⟩
    · exact accepts.noFile location onWay content (same.symm.trans found)
    · rw [found] at made
      cases made
    · by_cases own : other.outputPath = file.outputPath
      · rw [own] at onWay
        exact accepts.straight onWay
      · exact (separate.amongOutputs _ (Compiler.output_of_compiled inside) _ listed own).onWay onWay
  · rw [partly.home]
    intro directory
    rcases partly.node_output separate listed fun _ _ _ _ => accepts.straight with same | ⟨_, _, _, _, written⟩
    · exact accepts.vacant (same.symm.trans directory)
    · rw [written] at directory
      cases directory

omit separate in
include stored stored' in
/-- The temporary file is called what it would have been called, and it would have been at the same place. -/
theorem temporary_of_stored (isProcess : again.process = process) : between'.process = between.process ∧
    Lockfile.temporaryPlace lockfile between' = Lockfile.temporaryPlace lockfile between := by
  have home' : between'.home = between.home :=
    (stored'.wrote.home.trans partly.home).trans stored.wrote.home.symm
  have processes : between'.process = between.process :=
    (stored'.wrote.process.trans isProcess).trans stored.wrote.process.symm
  exact ⟨processes, by rw [Lockfile.temporaryPlace, Lockfile.temporaryPlace, home', processes]⟩

include redone stored stored'

omit separate in
/-- A file that is there in the end and is not an output would have been there after the commit. -/
theorem file_of_stored {content : ByteArray} (notTemporary : location ≠ Lockfile.temporaryPlace lockfile disk)
    (notOutput : ∀ file ∈ (compiler.compileAll sources database ledger disk).compiled,
      location ≠ Path.place disk.home file.outputPath) (found : between'.node? location = some (.file content)) :
    between.node? location = some (.file content) := by
  have foundAgain : again.node? location = some (.file content) := stored'.wrote.file_of_file
    (fun file member compiled => partly.home ▸ notOutput file (compiled_of_redone redone member compiled)) found
  have foundBefore : disk.node? location = some (.file content) := by
    rcases partly.node location notTemporary with same | ⟨_, made, _⟩ | ⟨file, member, _, here, _⟩
    · rw [← same, foundAgain]
    · rw [foundAgain] at made
      cases made
    · exact absurd here (notOutput file member)
  rcases stored.wrote.node location with same | ⟨absent, _⟩ | ⟨file, member, _, here, _⟩
  · rw [same, Disk.node?_as, foundBefore]
  · rw [Disk.node?_as, foundBefore] at absent
    cases absent
  · exact absurd here (notOutput file member)

/-- There is no directory in the way of the temporary file if there would have been none. -/
theorem vacant_temporary_of_stored (separate' : compiler.Separate sources database lockfile (disk.as process))
    (vacant : between.node? (Lockfile.temporaryPlace lockfile (disk.as process)) ≠ some .directory) :
    between'.node? (Lockfile.temporaryPlace lockfile (disk.as process)) ≠ some .directory := by
  by_cases own : Lockfile.temporaryPlace lockfile (disk.as process) = Lockfile.temporaryPlace lockfile disk
  · have unwritten : between'.node? (Lockfile.temporaryPlace lockfile (disk.as process)) =
        again.node? (Lockfile.temporaryPlace lockfile (disk.as process)) := by
      refine stored'.wrote.elsewhere fun file member compiled => ?_
      have apart := separate'.output_temporary
        (Compiler.output_of_compiled (compiled_of_redone redone member compiled))
      rw [partly.home]
      exact ⟨apart.places.symm, apart.under⟩
    rw [unwritten, own]
    rw [own] at vacant
    rcases partly.temporary with same | ⟨_, content, written⟩
    · rw [same]
      exact fun directory => vacant (stored.wrote.directory (by rw [Disk.node?_as, directory]))
    · rw [written]
      exact fun directory => by cases directory
  · rw [node_of_stored separate partly redone stored stored' own
      (separate'.fromTemporary _ List.mem_cons_self).under]
    exact vacant

/-- A lockfile that a commit would have saved can still be saved. -/
theorem ready_of_stored (separate' : compiler.Separate sources database lockfile (disk.as process))
    (isProcess : again.process = process) (ready : Lockfile.Ready lockfile between) :
    Lockfile.Ready lockfile between' := by
  have home : between.home = disk.home := stored.wrote.home
  have home' : between'.home = disk.home := stored'.wrote.home.trans partly.home
  obtain ⟨processes, place'⟩ := temporary_of_stored partly stored stored' isProcess
  obtain ⟨legal, noFile, vacant, straight, bare, named, legalTemporary, wayTemporary, vacantTemporary,
    straightTemporary⟩ := ready
  have place : Lockfile.temporaryPlace lockfile between = Lockfile.temporaryPlace lockfile (disk.as process) := by
    rw [Lockfile.temporaryPlace, Lockfile.temporaryPlace, stored.wrote.home, stored.wrote.process]
  constructor
  case legal => exact legal
  case bare => exact bare
  case named => exact named
  case legalTemporary => rwa [processes]
  case straight =>
    rw [home', ← home]
    exact straight
  case straightTemporary =>
    rw [place', home', ← home]
    exact straightTemporary
  case noFile =>
    rw [home'] at *
    intro location onWay content found
    have notTemporary : location ≠ Lockfile.temporaryPlace lockfile disk := fun same => by
      rw [same] at onWay
      exact (separate.fromTemporary _ List.mem_cons_self).under onWay
    have notOutput : ∀ file ∈ (compiler.compileAll sources database ledger disk).compiled,
        location ≠ Path.place disk.home file.outputPath := fun file member same =>
      (separate.output_lockfile (Compiler.output_of_compiled member)).onWay (same ▸ onWay)
    exact noFile location (home ▸ onWay) content
      (file_of_stored partly redone stored stored' notTemporary notOutput found)
  case vacant =>
    rw [home] at vacant straight
    rw [home', node_of_stored separate partly redone stored stored' separate.distinct straight]
    exact vacant
  case wayTemporary =>
    intro location onWay
    rw [home', processes, ← home] at onWay
    rw [home', ← home]
    exact (wayTemporary location onWay).imp_left (directory_of_stored partly redone stored stored')
  case vacantTemporary =>
    rw [place', place]
    rw [place] at vacantTemporary
    exact vacant_temporary_of_stored separate partly redone stored stored' separate' vacantTemporary

/-- In the end there is what a commit would have left, but for the temporary file of another process. -/
theorem node_of_saved {state : Commit} (isProcess : again.process = process)
    (saved : Lockfile.Saved lockfile
      (ledger.remember (compiler.compileAll sources database ledger disk).compiled) between final.disk)
    (saved' : Lockfile.Saved lockfile
      (ledger.remember (compiler.compileAll sources database ledger again).compiled) between' state.disk)
    (other : location ≠ Lockfile.temporaryPlace lockfile disk ∨ process = disk.process) :
    state.disk.node? location = final.disk.node? location := by
  have home : between.home = disk.home := stored.wrote.home
  have home' : between'.home = disk.home := stored'.wrote.home.trans partly.home
  obtain ⟨_, place'⟩ := temporary_of_stored partly stored stored' isProcess
  by_cases isLockfile : location = Path.place disk.home lockfile
  · have file := saved.file
    have file' := saved'.file
    rw [home, ← isLockfile] at file
    rw [home', ← isLockfile, remember_of_redone redone] at file'
    rw [file, file']
  by_cases isTemporary : location = Lockfile.temporaryPlace lockfile between
  · rw [isTemporary, saved.temporary, ← place', saved'.temporary]
  by_cases onWay : location ∈ Path.way disk.home lockfile
  · rw [saved.reaches.way location (by rwa [saved.home, home]),
      saved'.reaches.way location (by rwa [saved'.home, home'])]
  have notTemporary : location ≠ Lockfile.temporaryPlace lockfile disk := by
    rcases other with different | same
    · exact different
    · rwa [Lockfile.temporaryPlace, home, stored.wrote.process, show (disk.as process).process = disk.process from same]
        at isTemporary
  have after : final.disk.node? location = between.node? location :=
    (saved.node location (home ▸ isLockfile) isTemporary).resolve_right fun made => onWay (home ▸ made.2.2)
  have isTemporary' : location ≠ Lockfile.temporaryPlace lockfile between' := by
    rw [place']
    exact isTemporary
  have after' : state.disk.node? location = between'.node? location :=
    (saved'.node location (home' ▸ isLockfile) isTemporary').resolve_right fun made => onWay (home' ▸ made.2.2)
  rw [after, after']
  exact node_of_stored separate partly redone stored stored' notTemporary onWay

end

/-- Compiling and committing again, by a process whose commit would have succeeded, leaves what it would have left. -/
theorem committed_again (tidy : disk.Tidy compiler lockfile log) (sound : disk.Sound compiler lockfile contents)
    (read : Lockfile.read lockfile disk = .ok ledger) (ledgerSound : ledger.Sound compiler contents)
    (injective : Set.InjOn Digest.of contents) (separate : compiler.Separate sources database lockfile disk)
    (partly : Disk.Partly (compiler.compileAll sources database ledger disk).compiled lockfile disk again)
    (inside : ∀ source ∈ sources, disk.Inside
      (lockfile :: (compiler.compileAll sources database ledger disk).compiled.map CompiledFile.outputPath) source)
    (isProcess : again.process = process) (separate' : compiler.Separate sources database lockfile (disk.as process))
    (committed : Commit.ofReport (compiler.compileAll sources database ledger disk)
      { path := lockfile, known := some ledger } (disk.as process) = (.ok (), final)) :
    ∃ report' final', compiler.compile sources database { path := lockfile } again = .ok report' ∧
      Commit.ofReport report' (Lockfile.asked { path := lockfile } again) again = (.ok (), final') ∧
      ∀ location, location ≠ Lockfile.temporaryPlace lockfile disk ∨ process = disk.process →
        final'.disk.node? location = final.disk.node? location := by
  have redone := redone tidy sound read ledgerSound injective separate partly inside
  have same : again.find? lockfile = disk.find? lockfile :=
    Disk.find?_of_kept partly.home (partly.node_lockfile separate sound.straight) (fun _ _ => partly.directory) tidy.lock
  have readAgain := Lockfile.read_congr same read
  have separateAgain : compiler.Separate sources database lockfile again := separate'.of_same partly.home isProcess
  rw [Lockfile.asked_of_read readAgain]
  have result := Commit.result (compiler.compileAll sources database ledger disk)
    { path := lockfile, known := some ledger } (sound.tree.as process) rfl separate.spread separate'.distinct
  rw [committed] at result
  cases result with
  | @done _ between stored ready saved =>
    obtain ⟨final', committed'⟩ := Commit.ofReport_ok (compiler.compileAll sources database ledger again)
      { path := lockfile, known := some ledger } partly.tree rfl separateAgain.spread separateAgain.distinct
      (fun file member isCompiled =>
        have before := compiled_of_redone redone member isCompiled
        accepts_of_partly separate partly before (stored.accepted file before isCompiled))
      (fun between' stored' => ready_of_stored separate partly redone stored stored' separate' isProcess ready)
    have result' := Commit.result (compiler.compileAll sources database ledger again)
      { path := lockfile, known := some ledger } partly.tree rfl separateAgain.spread separateAgain.distinct
    rw [committed'] at result'
    refine ⟨_, final', Compiler.compile_of_read readAgain, committed', fun location other => ?_⟩
    cases result' with
    | done stored' _ saved' =>
      exact node_of_saved separate partly redone stored stored' isProcess saved saved' other

/-- A commit that fails or is stopped leaves the lockfile and the outputs of sources that failed as they were. If it
could have been carried through, compiling and committing again leaves what it would have left, provided that no path
of a source leads by two dots out of a directory that the commit makes. -/
theorem commit_recovers (reached : Reached compiler lockfile (Disk.KeepsWays lockfile) contents log disk)
    (injective : Set.InjOn Digest.of contents) (separate : compiler.Separate sources database lockfile disk)
    (compiled : compiler.compile sources database { path := lockfile } disk = .ok report) :
    (∀ error state, Commit.ofReport report (Lockfile.asked { path := lockfile } disk) disk = (.error error, state) →
      Untouched compiler database lockfile report disk state.disk) ∧
    ∀ stopped, Interrupted report.compiled (Lockfile.asked { path := lockfile } disk) disk stopped →
      Untouched compiler database lockfile report disk stopped ∧
      ∀ process final,
        (∀ source ∈ sources, disk.Inside (lockfile :: report.compiled.map CompiledFile.outputPath) source) →
        compiler.Separate sources database lockfile (disk.as process) →
        Commit.ofReport report (Lockfile.asked { path := lockfile } disk) (disk.as process) = (.ok (), final) →
        ∃ report' final', compiler.compile sources database { path := lockfile } (stopped.as process) = .ok report' ∧
          Commit.ofReport report' (Lockfile.asked { path := lockfile } (stopped.as process)) (stopped.as process) =
            (.ok (), final') ∧
          ∀ location, location ≠ Lockfile.temporaryPlace lockfile disk ∨ process = disk.process →
            final'.disk.node? location = final.disk.node? location := by
  have sound := reached.sound
  have tidy := reached.tidy
  obtain ⟨ledger, read, ledgerSound⟩ := sound.read
  obtain rfl : compiler.compileAll sources database ledger disk = report :=
    Except.ok.inj ((Compiler.compile_of_read read).symm.trans compiled)
  have failed : ∀ failure ∈ (compiler.compileAll sources database ledger disk).failures,
      compiler.Failed sources database ledger disk failure.path := fun _ member => Compiler.failed_of_failure member
  refine ⟨fun error state committed => ?_, fun stopped interrupted => ?_⟩
  · have run : Run compiler sources database lockfile disk (compiler.compileAll sources database ledger disk)
        (.error error) state := ⟨separate, compiled, committed⟩
    have result := (run.result sound.tree read).2
    refine ⟨result.lockfile_of_error (fun file member => separate.output_lockfile (Compiler.output_of_compiled member))
      sound.straight separate.distinct, fun failure member => ?_⟩
    exact separate.node_output result
      (Compiler.output_mem (failed failure member).listed) fun file inside _ => (failed failure member).output_ne inside
  rw [Lockfile.asked_of_read read] at interrupted ⊢
  have partly := partly_of_interrupted sound.tree separate rfl interrupted
  refine ⟨⟨partly.node_lockfile separate sound.straight, fun failure member => ?_⟩, ?_⟩
  · exact partly.node_unwritten separate (Compiler.output_mem (failed failure member).listed) fun file inside _ =>
      (failed failure member).output_ne inside
  intro process final inside separate' committed
  exact committed_again tidy sound read ledgerSound injective separate (partly.as process) inside rfl separate' committed

end

/-- A disk with two migrations. -/
def twoUnwritten : Disk := .holding [("m/x.yml", "up: []\ndown: []\n"), ("m/y.yml", "up: []\ndown: []\n")]

/-- What the migrations are compiled to. -/
def twoReport : Report := Compiler.compileAll {} ["m/x.yml", "m/y.yml"] none [] twoUnwritten

/-- What is left of the commit when it is stopped after the first output. -/
def oneWritten : Commit :=
  (({ disk := twoUnwritten, lockfile := { path := "oxide-guard.lock", known := some [] } } : Commit).addAll
    (twoReport.compiled.take 1)).2

/-- Another process carries through what was stopped after the first output. -/
theorem commit_recovers_oneWritten : ∃ report final report' final',
    Compiler.compile {} ["m/x.yml", "m/y.yml"] none { path := "oxide-guard.lock" } twoUnwritten = .ok report ∧
      Interrupted report.compiled (Lockfile.asked { path := "oxide-guard.lock" } twoUnwritten) twoUnwritten
        oneWritten.disk ∧
      (oneWritten.disk.holds "compiled/x.sql" = true ∧ oneWritten.disk.holds "compiled/y.sql" = false) ∧
      Commit.ofReport report (Lockfile.asked { path := "oxide-guard.lock" } twoUnwritten) (twoUnwritten.as "2") =
        (.ok (), final) ∧
      Compiler.compile {} ["m/x.yml", "m/y.yml"] none { path := "oxide-guard.lock" } (oneWritten.disk.as "2") =
        .ok report' ∧
      Commit.ofReport report' (Lockfile.asked { path := "oxide-guard.lock" } (oneWritten.disk.as "2"))
        (oneWritten.disk.as "2") = (.ok (), final') ∧
      ∀ location, location ≠ Lockfile.temporaryPlace "oxide-guard.lock" twoUnwritten →
        final'.disk.node? location = final.disk.node? location := by
  have start : Reached {} "oxide-guard.lock" (Disk.KeepsWays "oxide-guard.lock") {"up: []\ndown: []\n".toUTF8} []
      twoUnwritten :=
    .start (Disk.isTree_holding _) (by decide +kernel) (by decide +kernel) (Disk.within_of_contents (by decide +kernel))
  have separate : Compiler.Separate {} ["m/x.yml", "m/y.yml"] none "oxide-guard.lock" twoUnwritten := by decide +kernel
  have separate' : Compiler.Separate {} ["m/x.yml", "m/y.yml"] none "oxide-guard.lock" (twoUnwritten.as "2") := by
    decide +kernel
  have read : Lockfile.read "oxide-guard.lock" twoUnwritten = .ok [] := by decide +kernel
  have asked : Lockfile.asked { path := "oxide-guard.lock" } twoUnwritten =
      { path := "oxide-guard.lock", known := some [] } := Lockfile.asked_of_read read
  have compiled : Compiler.compile {} ["m/x.yml", "m/y.yml"] none { path := "oxide-guard.lock" } twoUnwritten =
      .ok twoReport := Compiler.compile_of_read read
  have added : (({ disk := twoUnwritten, lockfile := { path := "oxide-guard.lock", known := some [] } } :
      Commit).addAll (twoReport.compiled.take 1)).1 = .ok () := by decide +kernel
  have interrupted : Interrupted twoReport.compiled (Lockfile.asked { path := "oxide-guard.lock" } twoUnwritten)
      twoUnwritten oneWritten.disk := by
    rw [asked, oneWritten]
    exact .of_success added
  have halfway : oneWritten.disk.holds "compiled/x.sql" = true ∧ oneWritten.disk.holds "compiled/y.sql" = false := by
    decide +kernel
  have inside : ∀ source ∈ ["m/x.yml", "m/y.yml"],
      twoUnwritten.Inside ("oxide-guard.lock" :: twoReport.compiled.map CompiledFile.outputPath) source := by
    decide +kernel
  have success : (Commit.ofReport twoReport (Lockfile.asked { path := "oxide-guard.lock" } twoUnwritten)
      (twoUnwritten.as "2")).1 = .ok () := by decide +kernel
  obtain ⟨final, committed⟩ := Commit.exists_state success
  obtain ⟨report', final', compiled', committed', same⟩ :=
    ((commit_recovers start (Set.injOn_singleton ..) separate compiled).2 _ interrupted).2 "2" final inside separate'
      committed
  exact ⟨_, final, report', final', compiled, interrupted, halfway, committed, compiled', committed',
    fun location other => same location (.inl other)⟩

/-- A disk with two migrations, one of which is to be looked for by way of the directory of the outputs. -/
def byWay : Disk := .holding [("m/a.yml", "up: []\ndown: []\n"), ("m/b.yml", "up: []\ndown: []\n")]

/-- What the migrations are compiled to as long as there is no such directory. -/
def byWayReport : Report := Compiler.compileAll {} ["m/b.yml", "compiled/../m/a.yml"] none [] byWay

/-- What is left of the commit when it is stopped after the first output. -/
def byWayStopped : Commit :=
  (({ disk := byWay, lockfile := { path := "oxide-guard.lock", known := some [] } } : Commit).addAll
    (byWayReport.compiled.take 1)).2

/-- What the migrations are compiled to then. -/
def byWayAgain : Report := Compiler.compileAll {} ["m/b.yml", "compiled/../m/a.yml"] none [] byWayStopped.disk

/-- A source that is looked for by way of a directory that the commit makes is compiled in the second attempt alone. -/
theorem not_recovered_byWay : ∃ final final',
    Reached {} "oxide-guard.lock" (Disk.KeepsWays "oxide-guard.lock") {"up: []\ndown: []\n".toUTF8} [] byWay ∧
      Compiler.Separate {} ["m/b.yml", "compiled/../m/a.yml"] none "oxide-guard.lock" byWay ∧
      Compiler.compile {} ["m/b.yml", "compiled/../m/a.yml"] none { path := "oxide-guard.lock" } byWay =
        .ok byWayReport ∧
      Interrupted byWayReport.compiled (Lockfile.asked { path := "oxide-guard.lock" } byWay) byWay byWayStopped.disk ∧
      Commit.ofReport byWayReport (Lockfile.asked { path := "oxide-guard.lock" } byWay) byWay = (.ok (), final) ∧
      Compiler.compile {} ["m/b.yml", "compiled/../m/a.yml"] none { path := "oxide-guard.lock" } byWayStopped.disk =
        .ok byWayAgain ∧
      Commit.ofReport byWayAgain (Lockfile.asked { path := "oxide-guard.lock" } byWayStopped.disk)
        byWayStopped.disk = (.ok (), final') ∧
      final.disk.holds "compiled/a.sql" = false ∧ final'.disk.holds "compiled/a.sql" = true := by
  have start : Reached {} "oxide-guard.lock" (Disk.KeepsWays "oxide-guard.lock") {"up: []\ndown: []\n".toUTF8} []
      byWay :=
    .start (Disk.isTree_holding _) (by decide +kernel) (by decide +kernel) (Disk.within_of_contents (by decide +kernel))
  have separate : Compiler.Separate {} ["m/b.yml", "compiled/../m/a.yml"] none "oxide-guard.lock" byWay := by
    decide +kernel
  have read : Lockfile.read "oxide-guard.lock" byWay = .ok [] := by decide +kernel
  have asked : Lockfile.asked { path := "oxide-guard.lock" } byWay =
      { path := "oxide-guard.lock", known := some [] } := Lockfile.asked_of_read read
  have compiled : Compiler.compile {} ["m/b.yml", "compiled/../m/a.yml"] none { path := "oxide-guard.lock" } byWay =
      .ok byWayReport := Compiler.compile_of_read read
  have added : (({ disk := byWay, lockfile := { path := "oxide-guard.lock", known := some [] } } : Commit).addAll
      (byWayReport.compiled.take 1)).1 = .ok () := by decide +kernel
  have interrupted : Interrupted byWayReport.compiled (Lockfile.asked { path := "oxide-guard.lock" } byWay) byWay
      byWayStopped.disk := by
    rw [asked, byWayStopped]
    exact .of_success added
  have success : (Commit.ofReport byWayReport (Lockfile.asked { path := "oxide-guard.lock" } byWay) byWay).1 =
      .ok () := by decide +kernel
  have absent : (Commit.ofReport byWayReport (Lockfile.asked { path := "oxide-guard.lock" } byWay)
      byWay).2.disk.holds "compiled/a.sql" = false := by decide +kernel
  obtain ⟨final, committed⟩ := Commit.exists_state success
  rw [committed] at absent
  have readAgain : Lockfile.read "oxide-guard.lock" byWayStopped.disk = .ok [] := by decide +kernel
  have compiledAgain : Compiler.compile {} ["m/b.yml", "compiled/../m/a.yml"] none { path := "oxide-guard.lock" }
      byWayStopped.disk = .ok byWayAgain := Compiler.compile_of_read readAgain
  have successAgain : (Commit.ofReport byWayAgain (Lockfile.asked { path := "oxide-guard.lock" } byWayStopped.disk)
      byWayStopped.disk).1 = .ok () := by decide +kernel
  have present : (Commit.ofReport byWayAgain (Lockfile.asked { path := "oxide-guard.lock" } byWayStopped.disk)
      byWayStopped.disk).2.disk.holds "compiled/a.sql" = true := by decide +kernel
  obtain ⟨final', committedAgain⟩ := Commit.exists_state successAgain
  rw [committedAgain] at present
  exact ⟨final, final', start, separate, compiled, interrupted, committed, compiledAgain, committedAgain, absent,
    present⟩

end SafeMigration
