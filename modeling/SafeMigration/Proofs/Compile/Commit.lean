import SafeMigration.Compile.Commit
import SafeMigration.Proofs.Compile.Batch
import SafeMigration.Proofs.Lockfile.Save

/-!
What a commit leaves on the disk.

The outputs are written one after the other. At every moment the disk is as before but for outputs that have been
written whole and for directories on the way to outputs; once all are written, a lockfile that remembers them is saved.
-/

namespace SafeMigration

namespace Path

/-- Two paths neither of which leads to, or through, the place of the other. -/
structure Apart (home : Location) (path other : String) : Prop where
  places : place home path ≠ place home other
  onWay : place home path ∉ way home other
  under : place home other ∉ way home path

instance (home : Location) (path other : String) : Decidable (Apart home path other) :=
  decidable_of_iff (place home path ≠ place home other ∧ place home path ∉ way home other ∧
    place home other ∉ way home path) ⟨fun ⟨places, onWay, under⟩ => ⟨places, onWay, under⟩, fun apart =>
      ⟨apart.places, apart.onWay, apart.under⟩⟩

end Path

/-- A ledger with the records of some files, the later ones in place of the earlier. -/
def Ledger.remember (ledger : Ledger) (files : List CompiledFile) : Ledger :=
  files.foldl (fun ledger file => Entries.put ledger file.key file.record) ledger

namespace Disk

variable {files more : List CompiledFile} {file : CompiledFile} {before between after : Disk}

/-- Some of the files have been written whole, directories on their ways have been made, and nothing else has
changed. -/
structure Wrote (files : List CompiledFile) (before after : Disk) : Prop where
  home : after.home = before.home
  process : after.process = before.process
  tree : after.IsTree
  node : ∀ location, after.node? location = before.node? location ∨
    (before.node? location = none ∧ after.node? location = some .directory ∧
      ∃ file ∈ files, file.outcome = .compiled ∧ location ∈ Path.way before.home file.outputPath) ∨
    ∃ file ∈ files, file.outcome = .compiled ∧ location = Path.place before.home file.outputPath ∧
      after.node? location = some (.file file.body.toUTF8) ∧ before.node? location ≠ some .directory

/-- All of the files have been written. -/
structure Stored (files : List CompiledFile) (before after : Disk) : Prop where
  wrote : Wrote files before after
  accepted : ∀ file ∈ files, file.outcome = .compiled → before.Accepts file.outputPath
  file : ∀ file ∈ files, file.outcome = .compiled →
    after.node? (Path.place before.home file.outputPath) = some (.file file.body.toUTF8)
  way : ∀ file ∈ files, file.outcome = .compiled → ∀ location ∈ Path.way before.home file.outputPath,
    after.node? location = some .directory

namespace Wrote

theorem refl (tree : before.IsTree) : Wrote files before before := ⟨rfl, rfl, tree, fun _ => .inl rfl⟩

theorem of_grows (tree : after.IsTree) (member : file ∈ files) (compiled : file.outcome = .compiled)
    (grows : Grows (Path.way before.home file.outputPath) before after) : Wrote files before after :=
  ⟨grows.home, grows.process, tree, fun location => (grows.node location).imp_right fun ⟨absent, made, inside⟩ =>
    .inl ⟨absent, made, file, member, compiled, inside⟩⟩

theorem of_deposited (member : file ∈ files) (compiled : file.outcome = .compiled)
    (deposited : Deposited file.outputPath file.body.toUTF8 before after) : Wrote files before after := by
  refine ⟨deposited.home, deposited.process, deposited.tree, fun location => ?_⟩
  by_cases here : location = Path.place before.home file.outputPath
  · subst here
    exact .inr (.inr ⟨file, member, compiled, rfl, deposited.file, deposited.accepted.vacant⟩)
  by_cases onWay : location ∈ Path.way before.home file.outputPath
  · cases found : before.node? location with
    | none => exact .inr (.inl ⟨rfl, deposited.way location onWay, file, member, compiled, onWay⟩)
    | some node =>
      cases node with
      | file content => exact absurd found (deposited.accepted.noFile location onWay content)
      | directory => exact .inl (deposited.way location onWay)
  · exact .inl (deposited.other location here onWay)

theorem directory (wrote : Wrote files before after) {location : Location}
    (directory : before.node? location = some .directory) : after.node? location = some .directory := by
  rcases wrote.node location with same | ⟨_, made, _⟩ | ⟨_, _, _, _, _, vacant⟩
  · rw [same, directory]
  · exact made
  · exact absurd directory vacant

theorem trans (first : Wrote files before between) (second : Wrote files between after) :
    Wrote files before after := by
  refine ⟨second.home.trans first.home, second.process.trans first.process, second.tree, fun location => ?_⟩
  have rest := second.node location
  rw [first.home] at rest
  rcases rest with same | ⟨absent, made, there⟩ | ⟨file, member, compiled, here, written, vacant⟩
  · rw [same]
    exact first.node location
  · rcases first.node location with same | ⟨_, directory, _⟩ | ⟨_, _, _, _, file, _⟩
    · exact .inr (.inl ⟨same ▸ absent, made, there⟩)
    · rw [absent] at directory
      cases directory
    · rw [absent] at file
      cases file
  · exact .inr (.inr ⟨file, member, compiled, here, written, fun directory => vacant (first.directory directory)⟩)

theorem mono (wrote : Wrote files before after) (wider : ∀ file ∈ files, file ∈ more) : Wrote more before after :=
  ⟨wrote.home, wrote.process, wrote.tree, fun location => by
    rcases wrote.node location with same | ⟨absent, made, file, member, rest⟩ | ⟨file, member, rest⟩
    · exact .inl same
    · exact .inr (.inl ⟨absent, made, file, wider file member, rest⟩)
    · exact .inr (.inr ⟨file, wider file member, rest⟩)⟩

/-- The directories around another path can be made after outputs were written. -/
theorem node_of_grows (wrote : Wrote files before between) {path : String} {location : Location}
    (grown : after.node? location = between.node? location ∨ between.node? location = none ∧
      after.node? location = some .directory ∧ location ∈ Path.way before.home path) :
    after.node? location = before.node? location ∨
      (before.node? location = none ∧ after.node? location = some .directory ∧
        (location ∈ Path.way before.home path ∨
          ∃ file ∈ files, file.outcome = .compiled ∧ location ∈ Path.way before.home file.outputPath)) ∨
      ∃ file ∈ files, file.outcome = .compiled ∧ location = Path.place before.home file.outputPath ∧
        after.node? location = some (.file file.body.toUTF8) ∧ before.node? location ≠ some .directory := by
  rcases wrote.node location with same | ⟨absent, made, inside⟩ | ⟨file, member, compiled, here, written, vacant⟩
  · rw [same] at grown
    exact grown.imp_right fun ⟨absent, made, onWay⟩ => .inl ⟨absent, made, .inl onWay⟩
  · rcases grown with same | ⟨absentNow, _⟩
    · exact .inr (.inl ⟨absent, same.trans made, .inr inside⟩)
    · rw [made] at absentNow
      cases absentNow
  · rcases grown with same | ⟨absentNow, _⟩
    · exact .inr (.inr ⟨file, member, compiled, here, same.trans written, vacant⟩)
    · rw [written] at absentNow
      cases absentNow

/-- A location that is on no way and that no output has is left alone. -/
theorem elsewhere (wrote : Wrote files before after) {location : Location}
    (apart : ∀ file ∈ files, file.outcome = .compiled → location ≠ Path.place before.home file.outputPath ∧
      location ∉ Path.way before.home file.outputPath) : after.node? location = before.node? location := by
  rcases wrote.node location with same | ⟨_, _, file, member, compiled, onWay⟩ | ⟨file, member, compiled, here, _⟩
  · exact same
  · exact absurd onWay (apart file member compiled).2
  · exact absurd here (apart file member compiled).1

/-- No file comes to be where no output is. -/
theorem file_of_file (wrote : Wrote files before after) {location : Location} {content : ByteArray}
    (apart : ∀ file ∈ files, file.outcome = .compiled → location ≠ Path.place before.home file.outputPath)
    (found : after.node? location = some (.file content)) : before.node? location = some (.file content) := by
  rcases wrote.node location with same | ⟨_, made, _⟩ | ⟨file, member, compiled, here, _⟩
  · rw [← same, found]
  · rw [found] at made
    cases made
  · exact absurd here (apart file member compiled)

end Wrote

/-- Writing outputs makes no difference to whether a path that is apart from them accepts a file. -/
theorem Wrote.accepts_iff (wrote : Wrote files before after) {path : String}
    (apart : ∀ file ∈ files, file.outcome = .compiled → Path.Apart before.home file.outputPath path) :
    after.Accepts path ↔ before.Accepts path := by
  have notPlace : ∀ location ∈ Path.way before.home path, ∀ file ∈ files, file.outcome = .compiled →
      location ≠ Path.place before.home file.outputPath := fun location onWay file member compiled same =>
    (apart file member compiled).onWay (same ▸ onWay)
  constructor
  · rintro ⟨legal, noFile, vacant, straight⟩
    rw [wrote.home] at noFile vacant straight
    refine ⟨legal, fun location onWay content found => ?_, fun directory => vacant (wrote.directory directory),
      straight⟩
    rcases wrote.node location with same | ⟨absent, _⟩ | ⟨file, member, compiled, here, _⟩
    · exact noFile location onWay content (same ▸ found)
    · rw [absent] at found
      cases found
    · exact notPlace location onWay file member compiled here
  · rintro ⟨legal, noFile, vacant, straight⟩
    refine ⟨legal, fun location onWay content found => ?_, fun directory => vacant ?_, by rwa [wrote.home]⟩
    · rw [wrote.home] at onWay
      exact noFile location onWay content (wrote.file_of_file (notPlace location onWay) found)
    · rw [wrote.home] at directory
      rwa [wrote.elsewhere fun file member compiled =>
        ⟨(apart file member compiled).places.symm, (apart file member compiled).under⟩] at directory

namespace Stored

theorem nil (tree : before.IsTree) : Stored [] before before := ⟨.refl tree, by simp, by simp, by simp⟩

/-- A file whose output is kept adds nothing to what is written. -/
theorem cons_unchanged (unchanged : file.outcome = .unchanged) (stored : Stored files before after) :
    Stored (file :: files) before after := by
  have among : ∀ other ∈ file :: files, other.outcome = .compiled → other ∈ files := fun other member compiled =>
    (List.mem_cons.mp member).resolve_left fun same => by
      rw [same, unchanged] at compiled
      cases compiled
  exact ⟨stored.wrote.mono fun _ => List.mem_cons_of_mem _,
    fun other member compiled => stored.accepted other (among other member compiled) compiled,
    fun other member compiled => stored.file other (among other member compiled) compiled,
    fun other member compiled => stored.way other (among other member compiled) compiled⟩

/-- A file that was put at its path stays there while others are written. -/
theorem cons (compiled : file.outcome = .compiled)
    (deposited : Deposited file.outputPath file.body.toUTF8 before between) (stored : Stored files between after)
    (apart : ∀ other ∈ files, Path.Apart before.home file.outputPath other.outputPath) :
    Stored (file :: files) before after := by
  have first : Wrote (file :: files) before between := .of_deposited List.mem_cons_self compiled deposited
  have single : Wrote [file] before between := .of_deposited List.mem_cons_self compiled deposited
  have home := deposited.home
  refine ⟨first.trans (stored.wrote.mono fun _ => List.mem_cons_of_mem _), ?_, ?_, ?_⟩
  · refine List.forall_mem_cons.mpr ⟨fun _ => deposited.accepted, fun other member isCompiled => ?_⟩
    refine (single.accepts_iff ?_).mp (stored.accepted other member isCompiled)
    simpa using fun _ => apart other member
  · refine List.forall_mem_cons.mpr ⟨fun _ => ?_, fun other member isCompiled => ?_⟩
    · rw [stored.wrote.elsewhere fun other member _ => ?_, deposited.file]
      rw [home]
      exact ⟨(apart other member).places, (apart other member).onWay⟩
    · rw [← home]
      exact stored.file other member isCompiled
  · refine List.forall_mem_cons.mpr ⟨fun _ location onWay => ?_, fun other member isCompiled => ?_⟩
    · exact stored.wrote.directory (deposited.way location onWay)
    · rw [← home]
      exact stored.way other member isCompiled

end Stored

end Disk

/-- The outputs of some files, no two of which stand in each other's way. -/
def Spread (home : Location) (files : List CompiledFile) : Prop :=
  files.Pairwise fun file other => Path.Apart home file.outputPath other.outputPath

namespace Commit

variable {files : List CompiledFile} {file : CompiledFile} {state : Commit} {ledger : Ledger} {report : Report}
  {lockfile : Lockfile} {disk : Disk}

theorem record_of_known (known : lockfile.known = some ledger) (key : String) (record : DigestRecord) :
    lockfile.record disk key record = .ok { lockfile with known := some (Entries.put ledger key record) } := by
  simp only [Lockfile.record, Lockfile.entries, known]
  rfl

/-- A file is remembered as soon as its output is there. -/
theorem add_of_write (known : state.lockfile.known = some ledger) {after : Disk}
    (written : file.write state.disk = (.ok (), after)) :
    ∃ next, state.add file = (.ok (), next) ∧ next.disk = after ∧
      next.lockfile = { state.lockfile with known := some (Entries.put ledger file.key file.record) } := by
  simp only [add, written, record_of_known known]
  exact ⟨_, rfl, rfl, rfl⟩

theorem addAll_of_add {next : Commit} (added : state.add file = (.ok (), next)) :
    state.addAll (file :: files) = next.addAll files := by rw [addAll, added]

/-- What adding one file leaves: its output is kept or was written, and it is remembered; or it was refused. -/
inductive Added (file : CompiledFile) (state : Commit) (ledger : Ledger) : Except MigrationError Unit × Commit → Prop
  | kept {next : Commit} (unchanged : file.outcome = .unchanged) (sameDisk : next.disk = state.disk)
      (remembers : next.lockfile = { state.lockfile with known := some (Entries.put ledger file.key file.record) }) :
      Added file state ledger (.ok (), next)
  | written {next : Commit} (compiled : file.outcome = .compiled)
      (deposited : Disk.Deposited file.outputPath file.body.toUTF8 state.disk next.disk)
      (remembers : next.lockfile = { state.lockfile with known := some (Entries.put ledger file.key file.record) }) :
      Added file state ledger (.ok (), next)
  | failed {next : Commit} (error : MigrationError) (compiled : file.outcome = .compiled)
      (refused : ¬ state.disk.Accepts file.outputPath) (tree : next.disk.IsTree)
      (grows : Disk.Grows (Path.way state.disk.home file.outputPath) state.disk next.disk) :
      Added file state ledger (.error error, next)

theorem added (state : Commit) (tree : state.disk.IsTree) (known : state.lockfile.known = some ledger)
    (file : CompiledFile) : Added file state ledger (state.add file) := by
  cases outcome : file.outcome with
  | unchanged =>
    have written : file.write state.disk = (.ok (), state.disk) := by rw [CompiledFile.write, outcome]
    obtain ⟨next, success, sameDisk, remembers⟩ := add_of_write known written
    rw [success]
    exact .kept outcome sameDisk remembers
  | compiled =>
    have written : file.write state.disk = state.disk.deposit file.outputPath file.body.toUTF8 := by
      rw [CompiledFile.write, outcome]
    have result := Disk.depositResult tree file.outputPath file.body.toUTF8
    rw [← written] at result
    generalize write : file.write state.disk = wrote at result
    cases result with
    | failed error treeAfter grows =>
      have refused : ¬ state.disk.Accepts file.outputPath := fun accepts => by
        obtain ⟨after, deposit⟩ := accepts.deposit tree file.body.toUTF8
        rw [written, deposit] at write
        cases write
      simp only [add, write]
      exact .failed error outcome refused treeAfter grows
    | done deposited =>
      obtain ⟨next, success, rfl, remembers⟩ := add_of_write known write
      rw [success]
      exact .written outcome deposited remembers

/-- What adding some files leaves: all are written and remembered, or some of them are written. -/
inductive AddResult (files : List CompiledFile) (lockfile : Lockfile) (ledger : Ledger) (disk : Disk) :
    Except MigrationError Unit × Commit → Prop
  | done {state : Commit} (stored : Disk.Stored files disk state.disk)
      (remembers : state.lockfile = { lockfile with known := some (ledger.remember files) }) :
      AddResult files lockfile ledger disk (.ok (), state)
  | failed {state : Commit} (error : MigrationError) (wrote : Disk.Wrote files disk state.disk) :
      AddResult files lockfile ledger disk (.error error, state)

theorem addResult (state : Commit) (tree : state.disk.IsTree) (known : state.lockfile.known = some ledger)
    (spread : Spread state.disk.home files) :
    AddResult files state.lockfile ledger state.disk (state.addAll files) := by
  induction files generalizing state ledger with
  | nil =>
    refine .done (.nil tree) ?_
    rw [Ledger.remember, List.foldl_nil, ← known]
  | cons file files ih =>
    obtain ⟨apart, spread⟩ := List.pairwise_cons.mp spread
    have added := added state tree known file
    rw [addAll]
    generalize state.add file = result at added
    cases added with
    | @kept next unchanged sameDisk remembers =>
      have rest := ih next (sameDisk ▸ tree) (by rw [remembers]) (sameDisk ▸ spread)
      rw [sameDisk, remembers] at rest
      simp only
      generalize next.addAll files = result at rest
      cases rest with
      | done stored remembers => exact .done (stored.cons_unchanged unchanged) remembers
      | failed error wrote => exact .failed error (wrote.mono fun _ => List.mem_cons_of_mem _)
    | @written next compiled deposited remembers =>
      have rest := ih next deposited.tree (by rw [remembers]) (deposited.home ▸ spread)
      rw [remembers] at rest
      simp only
      generalize next.addAll files = result at rest
      cases rest with
      | done stored remembers => exact .done (stored.cons compiled deposited apart) remembers
      | failed error wrote =>
        exact .failed error ((Disk.Wrote.of_deposited List.mem_cons_self compiled deposited).trans
          (wrote.mono fun _ => List.mem_cons_of_mem _))
    | failed error compiled _ treeAfter grows =>
      exact .failed error (.of_grows treeAfter List.mem_cons_self compiled grows)

/-- All files are added when the disk accepts each of their outputs. -/
theorem addAll_ok (state : Commit) (tree : state.disk.IsTree) (known : state.lockfile.known = some ledger)
    (spread : Spread state.disk.home files)
    (accepts : ∀ file ∈ files, file.outcome = .compiled → state.disk.Accepts file.outputPath) :
    ∃ after, state.addAll files = (.ok (), after) := by
  induction files generalizing state ledger with
  | nil => exact ⟨state, rfl⟩
  | cons file files ih =>
    obtain ⟨apart, spread⟩ := List.pairwise_cons.mp spread
    obtain ⟨acceptsFile, accepts⟩ := List.forall_mem_cons.mp accepts
    have added := added state tree known file
    rw [addAll]
    generalize state.add file = result at added
    cases added with
    | @kept next _ sameDisk remembers =>
      exact ih next (sameDisk ▸ tree) (by rw [remembers]) (sameDisk ▸ spread) (sameDisk ▸ accepts)
    | @written next compiled deposited remembers =>
      refine ih next deposited.tree (by rw [remembers]) (deposited.home ▸ spread) fun other member isCompiled => ?_
      have wrote : Disk.Wrote [file] state.disk next.disk := .of_deposited List.mem_cons_self compiled deposited
      refine (wrote.accepts_iff ?_).mpr (accepts other member isCompiled)
      simpa using fun _ => apart other member
    | failed _ compiled refused _ _ => exact absurd (acceptsFile compiled) refused

/-- What a commit leaves: the outputs and a saved lockfile, the outputs alone, or some of the outputs. -/
inductive Result (files : List CompiledFile) (path : String) (ledger : Ledger) (disk : Disk) :
    Except MigrationError Unit × Commit → Prop
  | done {state : Commit} {between : Disk} (stored : Disk.Stored files disk between)
      (ready : Lockfile.Ready path between)
      (saved : Lockfile.Saved path (ledger.remember files) between state.disk) :
      Result files path ledger disk (.ok (), state)
  | unsaved {state : Commit} {between : Disk} (error : MigrationError) (stored : Disk.Stored files disk between)
      (touched : Lockfile.Touched path between state.disk) : Result files path ledger disk (.error error, state)
  | unwritten {state : Commit} (error : MigrationError) (wrote : Disk.Wrote files disk state.disk) :
      Result files path ledger disk (.error error, state)

/-- Whatever becomes of a commit, it has left one of three things. -/
theorem result (report : Report) (lockfile : Lockfile) (tree : disk.IsTree) (known : lockfile.known = some ledger)
    (spread : Spread disk.home report.compiled)
    (distinct : Path.place disk.home lockfile.path ≠ Lockfile.temporaryPlace lockfile.path disk) :
    Result report.compiled lockfile.path ledger disk (ofReport report lockfile disk) := by
  have added := addResult { disk := disk, lockfile := lockfile } tree known spread
  unfold ofReport
  generalize addAll _ report.compiled = result at added
  cases added with
  | failed error wrote => exact .unwritten error wrote
  | @done between stored remembers =>
    have entries : between.lockfile.entries between.disk = .ok (ledger.remember report.compiled) := by
      rw [remembers]
      rfl
    have path : between.lockfile.path = lockfile.path := by rw [remembers]
    have distinctNow : Path.place between.disk.home between.lockfile.path ≠
        Lockfile.temporaryPlace between.lockfile.path between.disk := by
      rw [path, Lockfile.temporaryPlace, stored.wrote.home, stored.wrote.process]
      exact distinct
    have saving := Lockfile.saveResult stored.wrote.tree entries distinctNow
    rw [path] at saving
    simp only [save]
    generalize between.lockfile.save between.disk = saved at saving
    cases saving with
    | done ready saved => exact .done stored ready saved
    | failed error touched => exact .unsaved error stored touched

/-- A commit succeeds when every output is accepted and the lockfile can be saved afterwards. -/
theorem ofReport_ok (report : Report) (lockfile : Lockfile) (tree : disk.IsTree) (known : lockfile.known = some ledger)
    (spread : Spread disk.home report.compiled)
    (distinct : Path.place disk.home lockfile.path ≠ Lockfile.temporaryPlace lockfile.path disk)
    (accepts : ∀ file ∈ report.compiled, file.outcome = .compiled → disk.Accepts file.outputPath)
    (ready : ∀ between, Disk.Stored report.compiled disk between → Lockfile.Ready lockfile.path between) :
    ∃ state, ofReport report lockfile disk = (.ok (), state) := by
  obtain ⟨between, added⟩ := addAll_ok { disk := disk, lockfile := lockfile } tree known spread accepts
  have result := addResult { disk := disk, lockfile := lockfile } tree known spread
  rw [added] at result
  cases result with
  | done stored remembers =>
    have path : between.lockfile.path = lockfile.path := by rw [remembers]
    have entries : between.lockfile.entries between.disk = .ok (ledger.remember report.compiled) := by
      rw [remembers]
      rfl
    have readyNow : Lockfile.Ready between.lockfile.path between.disk := path ▸ ready between.disk stored
    have distinctNow : Path.place between.disk.home between.lockfile.path ≠
        Lockfile.temporaryPlace between.lockfile.path between.disk := by
      rw [path, Lockfile.temporaryPlace, stored.wrote.home, stored.wrote.process]
      exact distinct
    obtain ⟨after, saved⟩ := readyNow.save stored.wrote.tree entries distinctNow
    rw [ofReport, added]
    simp only [save, saved]
    exact ⟨_, rfl⟩

end Commit

end SafeMigration
