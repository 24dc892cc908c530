import SafeMigration.Lockfile.Basic
import SafeMigration.Proofs.Disk.Deposit
import SafeMigration.Proofs.Lockfile.ReadBack

/-!
Saving a lockfile.

A saving that succeeds leaves the text of the ledger at the place of the lockfile and no temporary file. One that fails,
at whatever step, leaves the lockfile as it was. What was saved is read back as the ledger that was meant.
-/

namespace SafeMigration

namespace Path

/-- The nearest directory around a path, or where it starts. -/
def around (path : String) : String := (parent? path).getD ""

theorem parent?_getD (path : String) : (parent? path).getD "" = around path := rfl

/-- The directories around a path ascend to where it starts, and it passes no others. -/
structure Around (home : Location) (path : String) : Prop where
  ascent : Ascent home (around path :: parents (around path))
  inside : ∀ location ∈ reach home (around path), location ∈ way home path ∨ location = home
  whole : ∀ location ∈ way home path, location ∈ reach home (around path) ∨ location = place home path ∨ location = []
  legal : Legal path → around path = "" ∨ Legal (around path)

theorem around_path (home : Location) (path : String) : Around home path := by
  cases parent : parent? path with
  | none =>
    have same : around path = "" := by simp [around, parent]
    refine ⟨by rw [same]; exact .start, ?_, ?_, fun _ => .inl same⟩
    · rw [same]
      change ∀ location ∈ [home, home], _
      simp
    · intro location inside
      rw [same]
      rcases way_of_no_parent parent location inside with rfl | rfl
      · exact .inl List.mem_cons_self
      · exact .inr (.inr rfl)
  | some nearest =>
    have same : around path = nearest := by simp [around, parent]
    obtain ⟨ascent, inside, whole, legal⟩ := parent_of_parent? home parent
    rw [← same] at ascent inside whole legal
    exact ⟨ascent, fun location member => .inl (inside location member),
      fun location member => (whole location member).imp_right .inl, legal⟩

end Path

namespace Lockfile

variable {lockfile : Lockfile} {path : String} {ledger : Ledger} {disk between after : Disk}

/-- The temporary file beside the lockfile at a path. -/
def temporaryOf (path process : String) : String := temporaryPath { path := path } process

theorem temporaryPath_eq (path process : String) (known : Option Ledger) :
    temporaryPath ⟨path, known⟩ process = temporaryOf path process := rfl

theorem replace_eq (path : String) (known : Option Ledger) (disk : Disk) :
    replace ⟨path, known⟩ disk =
      match disk.moveFile (temporaryOf path disk.process) path with
      | .ok disk => (.ok (), disk)
      | .error fault => (.error (.access path fault),
        (disk.remove (temporaryOf path disk.process)).toOption.getD disk) := by
  unfold replace
  rfl

/-- Where the temporary file is. -/
def temporaryPlace (path : String) (disk : Disk) : Location :=
  Path.place disk.home (temporaryOf path disk.process)

theorem temporaryPlace_congr (home : after.home = disk.home) (process : after.process = disk.process) :
    temporaryPlace path after = temporaryPlace path disk := by
  rw [temporaryPlace, home, process, temporaryPlace]

/-- Nothing has changed but the temporary file, and directories on the way to the lockfile have been made. -/
structure Touched (path : String) (before after : Disk) : Prop where
  home : after.home = before.home
  process : after.process = before.process
  tree : after.IsTree
  node : ∀ location, location ≠ temporaryPlace path before → after.node? location = before.node? location ∨
    before.node? location = none ∧ after.node? location = some .directory ∧
      location ∈ Path.way before.home path
  directory : ∀ location, before.node? location = some .directory → after.node? location = some .directory

theorem Touched.of_grows (tree : after.IsTree) (grows : Disk.Grows (Path.way disk.home path) disk after) :
    Touched path disk after :=
  ⟨grows.home, grows.process, tree, fun location _ => grows.node location, fun _ => grows.directory⟩

/-- A lockfile that was saved: its text is there, the temporary file is not, and nothing else has changed but that there
are directories on the way. -/
structure Saved (path : String) (ledger : Ledger) (before after : Disk) : Prop where
  home : after.home = before.home
  process : after.process = before.process
  tree : after.IsTree
  file : after.node? (Path.place before.home path) = some (.file ledger.text.toUTF8)
  reaches : after.Reaches path
  temporary : after.node? (temporaryPlace path before) = none
  node : ∀ location, location ≠ Path.place before.home path → location ≠ temporaryPlace path before →
    after.node? location = before.node? location ∨ before.node? location = none ∧
      after.node? location = some .directory ∧ location ∈ Path.way before.home path

/-- What is needed to save a lockfile: its path and that of the temporary file can be gone once the directories around
the lockfile are made, and are no directories. -/
structure Ready (path : String) (disk : Disk) : Prop where
  legal : Path.Legal path
  noFile : ∀ location ∈ Path.way disk.home path, ∀ content, disk.node? location ≠ some (.file content)
  vacant : disk.node? (Path.place disk.home path) ≠ some .directory
  straight : Path.place disk.home path ∉ Path.way disk.home path
  bare : Path.withoutEndingSlashes path = path
  named : ["", ".", ".."].contains (Path.lastSegment path) = false
  legalTemporary : Path.Legal (temporaryOf path disk.process)
  wayTemporary : ∀ location ∈ Path.way disk.home (temporaryOf path disk.process),
    disk.node? location = some .directory ∨ location ∈ Path.reach disk.home (Path.around path)
  vacantTemporary : disk.node? (temporaryPlace path disk) ≠ some .directory
  straightTemporary : temporaryPlace path disk ∉ Path.reach disk.home (Path.around path)

/-- The directories around the lockfile, as far as they get made. -/
theorem made_around (tree : disk.IsTree) (path : String) :
    Disk.Made disk (Path.around path) (disk.makeDirectories (Path.around path)).1
        (disk.makeDirectories (Path.around path)).2 ∧
      Disk.Grows (Path.way disk.home path) disk (disk.makeDirectories (Path.around path)).2 := by
  have around := Path.around_path disk.home path
  have made : Disk.Made disk (Path.around path) _ _ := Disk.made_ensureDirectory tree around.ascent
  refine ⟨made, made.grows.home, made.grows.process, fun location => ?_⟩
  rcases made.grows.node location with same | ⟨absent, made, inside⟩
  · exact .inl same
  · rcases around.inside location inside with there | rfl
    · exact .inr ⟨absent, made, there⟩
    · rw [tree.home] at absent
      cases absent

/-- What writing the temporary file leaves. -/
inductive WriteResult (path : String) (ledger : Ledger) (disk : Disk) : Except MigrationError Unit × Disk → Prop
  | done {between : Disk} (tree : between.IsTree) (grows : Disk.Grows (Path.way disk.home path) disk between)
      (around : Disk.Grows (Path.reach disk.home (Path.around path)) disk between)
      (directories : ∀ location ∈ Path.reach disk.home (Path.around path),
        between.node? location = some .directory)
      (reaches : between.Reaches (temporaryOf path disk.process))
      (vacant : between.node? (temporaryPlace path disk) ≠ some .directory) :
      WriteResult path ledger disk
        (.ok (), between.put (temporaryPlace path disk) (.file ledger.text.toUTF8))
  | failed {after : Disk} (error : MigrationError) (touched : Touched path disk after) :
      WriteResult path ledger disk (.error error, after)

theorem writeResult (tree : disk.IsTree) (lockfile : Lockfile) (ledger : Ledger) :
    WriteResult lockfile.path ledger disk (lockfile.writeTemporary ledger disk) := by
  obtain ⟨path, known⟩ := lockfile
  obtain ⟨⟨around, treeMade, directories⟩, grows⟩ := made_around tree path
  simp only [writeTemporary, Path.parent?_getD]
  split
  next fault after failed =>
    rw [failed] at treeMade grows
    exact .failed _ (.of_grows treeMade grows)
  next between made =>
    rw [made] at around treeMade directories grows
    split
    next fault _ => exact .failed _ (.of_grows treeMade grows)
    next after written =>
      obtain ⟨reaches, vacant, rfl⟩ := (Disk.write_eq_ok_iff ..).mp written
      rw [grows.home] at vacant ⊢
      exact .done treeMade grows around (directories rfl) reaches vacant

/-- Away from the temporary file, writing it has left the disk as it was with the directories made. -/
theorem node?_put_temporary (vacant : between.node? (temporaryPlace path disk) ≠ some .directory) (content : ByteArray)
    {location : Location} (different : location ≠ temporaryPlace path disk) :
    (between.put (temporaryPlace path disk) (.file content)).node? location = between.node? location := by
  rw [Disk.node?_put between (Disk.ne_root_of_vacant vacant), if_neg different]

/-- A temporary file that cannot take the place of the lockfile is taken away again, or stays. -/
theorem touched_of_remove (tree : between.IsTree) (grows : Disk.Grows (Path.way disk.home path) disk between)
    (reaches : between.Reaches (temporaryOf path disk.process))
    (vacant : between.node? (temporaryPlace path disk) ≠ some .directory) (content : ByteArray) :
    Touched path disk (((between.put (temporaryPlace path disk) (.file content)).remove
      (temporaryOf path disk.process)).toOption.getD
        (between.put (temporaryPlace path disk) (.file content))) := by
  generalize written : between.put (temporaryPlace path disk) (.file content) = disk'
  have same : Path.place between.home (temporaryOf path disk.process) = temporaryPlace path disk := by
    rw [grows.home, temporaryPlace]
  have around := (reaches.ending tree).resolve_left (same ▸ vacant)
  rw [same] at around
  have treeWritten : disk'.IsTree := written ▸ tree.put vacant around.2 _
  have file : disk'.node? (temporaryPlace path disk) = some (.file content) := by
    rw [← written, Disk.node?_put between (Disk.ne_root_of_vacant vacant), if_pos rfl]
  have elsewhere : ∀ location, location ≠ temporaryPlace path disk →
      disk'.node? location = between.node? location := fun location different => by
    rw [← written, node?_put_temporary vacant content different]
  have home : disk'.home = disk.home := by rw [← written, Disk.home_put, grows.home]
  have process : disk'.process = disk.process := by rw [← written, Disk.process_put, grows.process]
  have kept : ∀ location, disk.node? location = some .directory →
      location ≠ temporaryPlace path disk ∧ disk'.node? location = some .directory := fun location directory => by
    have different : location ≠ temporaryPlace path disk := fun same => vacant (same ▸ grows.directory directory)
    exact ⟨different, (elsewhere location different).trans (grows.directory directory)⟩
  cases removed : disk'.remove (temporaryOf path disk.process) with
  | error fault =>
    exact ⟨home, process, treeWritten, fun location different => elsewhere location different ▸ grows.node location,
      fun location directory => (kept location directory).2⟩
  | ok after =>
    have erased : after = disk'.erase (temporaryPlace path disk) := by
      unfold Disk.remove at removed
      split at removed
      · cases removed
      next location located =>
        obtain ⟨_, rfl⟩ := (Disk.locate_eq_ok_iff ..).mp located
        rw [home] at removed
        split at removed
        · cases removed
        · split at removed
          · cases removed
          · cases removed
            rfl
    subst erased
    simp only [Except.toOption, Option.getD_some]
    refine ⟨home, process, treeWritten.erase_file file, fun location different => ?_, fun location directory => ?_⟩
    · rw [treeWritten.node?_erase_file file, if_neg different, elsewhere location different]
      exact grows.node location
    · obtain ⟨different, directoryNow⟩ := kept location directory
      rw [treeWritten.node?_erase_file file, if_neg different, directoryNow]

/-- The temporary file takes the place of the lockfile. -/
theorem saved_of_move (treeWritten : (between.put (temporaryPlace path disk) (.file ledger.text.toUTF8)).IsTree)
    (grows : Disk.Grows (Path.way disk.home path) disk between)
    (vacant : between.node? (temporaryPlace path disk) ≠ some .directory)
    (legal : Path.Legal path)
    (way : ∀ location ∈ Path.way disk.home path, between.node? location = some .directory)
    (vacantLock : between.node? (Path.place disk.home path) ≠ some .directory)
    (distinct : Path.place disk.home path ≠ temporaryPlace path disk) :
    Saved path ledger disk (((between.put (temporaryPlace path disk) (.file ledger.text.toUTF8)).erase
      (temporaryPlace path disk)).put (Path.place disk.home path) (.file ledger.text.toUTF8)) := by
  generalize temporary : temporaryPlace path disk = place at *
  generalize written : between.put place (.file ledger.text.toUTF8) = disk' at *
  have file : disk'.node? place = some (.file ledger.text.toUTF8) := by
    rw [← written, Disk.node?_put between (Disk.ne_root_of_vacant vacant), if_pos rfl]
  have erased : ∀ location, (disk'.erase place).node? location =
      if location = place then none else between.node? location := by
    intro location
    rw [treeWritten.node?_erase_file file, ← written, Disk.node?_put between (Disk.ne_root_of_vacant vacant)]
    split <;> rfl
  have kept : ∀ location, between.node? location = some .directory →
      (disk'.erase place).node? location = some .directory := by
    intro location directory
    have different : location ≠ place := fun same => vacant (same ▸ directory)
    rw [erased, if_neg different, directory]
  have home : (disk'.erase place).home = disk.home := by rw [Disk.home_erase, ← written, Disk.home_put, grows.home]
  have process : (disk'.erase place).process = disk.process := by
    rw [Disk.process_erase, ← written, Disk.process_put, grows.process]
  have treeErased : (disk'.erase place).IsTree := treeWritten.erase_file file
  have vacantErased : (disk'.erase place).node? (Path.place disk.home path) ≠ some .directory := by
    rwa [erased, if_neg distinct]
  have nonempty := Disk.ne_root_of_vacant vacantErased
  have reachesErased : (disk'.erase place).Reaches path :=
    ⟨legal, fun location inside => kept location (way location (home ▸ inside))⟩
  have endsAround := (reachesErased.ending treeErased).resolve_left (by rwa [home])
  rw [home] at endsAround
  have straight : Path.place disk.home path ∉ Path.way disk.home path :=
    fun inside => vacantLock (way _ inside)
  refine ⟨home, process, treeErased.put vacantErased endsAround.2 _, ?_, ⟨legal, ?_⟩, ?_, ?_⟩
  · rw [Disk.node?_put _ nonempty, if_pos rfl]
  · intro location inside
    rw [Disk.home_put, home] at inside
    have different : location ≠ Path.place disk.home path := fun same => straight (same ▸ inside)
    rw [Disk.node?_put _ nonempty, if_neg different]
    exact kept location (way location inside)
  · rw [temporary, Disk.node?_put _ nonempty, if_neg distinct.symm, erased, if_pos rfl]
  · intro location notLock notTemporary
    rw [temporary] at notTemporary
    rw [Disk.node?_put _ nonempty, if_neg notLock, erased, if_neg notTemporary]
    exact grows.node location

/-- What saving a lockfile leaves. -/
inductive SaveResult (path : String) (ledger : Ledger) (disk : Disk) : Except MigrationError Unit × Disk → Prop
  | done {after : Disk} (ready : Ready path disk) (saved : Saved path ledger disk after) :
      SaveResult path ledger disk (.ok (), after)
  | failed {after : Disk} (error : MigrationError) (touched : Touched path disk after) :
      SaveResult path ledger disk (.error error, after)

theorem saveResult (tree : disk.IsTree) (known : lockfile.entries disk = .ok ledger)
    (distinct : Path.place disk.home lockfile.path ≠ temporaryPlace lockfile.path disk) :
    SaveResult lockfile.path ledger disk (lockfile.save disk) := by
  have result := writeResult tree lockfile ledger
  simp only [save, known]
  generalize lockfile.writeTemporary ledger disk = written at result
  obtain ⟨path, remembered⟩ := lockfile
  cases result with
  | failed error touched => exact .failed error touched
  | @done between treeMade grows around directories reaches vacant =>
    have nonempty := Disk.ne_root_of_vacant vacant
    have endsAround := (reaches.ending treeMade).resolve_left (by rw [grows.home]; exact vacant)
    rw [grows.home] at endsAround
    have treeWritten : (between.put (temporaryPlace path disk) (.file ledger.text.toUTF8)).IsTree :=
      treeMade.put vacant endsAround.2 _
    have file : (between.put (temporaryPlace path disk) (.file ledger.text.toUTF8)).node?
        (temporaryPlace path disk) = some (.file ledger.text.toUTF8) := by
      rw [Disk.node?_put between nonempty, if_pos rfl]
    simp only [replace_eq, Disk.process_put, grows.process]
    split
    next after moved =>
      obtain ⟨_, reachesLock, bare, named, vacantLock, content, fileMoved, rfl⟩ :=
        (Disk.moveFile_eq_ok_iff ..).mp moved
      simp only [Disk.home_put, grows.home] at vacantLock fileMoved ⊢
      rw [← temporaryPlace, file] at fileMoved
      cases fileMoved
      rw [← temporaryPlace]
      have wayWritten := reachesLock.way
      simp only [Disk.home_put, grows.home] at wayWritten
      have way : ∀ location ∈ Path.way disk.home path, between.node? location = some .directory := by
        intro location inside
        have directory := wayWritten location inside
        rwa [node?_put_temporary vacant] at directory
        intro same
        rw [same, file] at directory
        cases directory
      rw [node?_put_temporary vacant _ distinct] at vacantLock
      refine .done ⟨reachesLock.legal, ?_, fun directory => vacantLock (grows.directory directory),
        fun inside => vacantLock (way _ inside), bare, named, reaches.legal, ?_,
        fun directory => vacant (grows.directory directory), fun inside => vacant (directories _ inside)⟩
        (saved_of_move treeWritten grows vacant reachesLock.legal way vacantLock distinct)
      · intro location inside content onWay
        have directory := way location inside
        rw [grows.file.mpr onWay] at directory
        cases directory
      · intro location inside
        have directory := reaches.way location (by rwa [grows.home])
        rcases around.node location with same | ⟨_, _, there⟩
        · exact .inl (same ▸ directory)
        · exact .inr there
    next fault _ => exact .failed _ (touched_of_remove treeMade grows reaches vacant _)

/-- A lockfile is saved wherever it can be. -/
theorem Ready.save (ready : Ready lockfile.path disk) (tree : disk.IsTree) (known : lockfile.entries disk = .ok ledger)
    (distinct : Path.place disk.home lockfile.path ≠ temporaryPlace lockfile.path disk) :
    ∃ after, lockfile.save disk = (.ok (), after) := by
  obtain ⟨path, remembered⟩ := lockfile
  have around := Path.around_path disk.home path
  have noFile : ∀ location ∈ Path.reach disk.home (Path.around path), ∀ content,
      disk.node? location ≠ some (.file content) := by
    intro location inside content file
    rcases around.inside location inside with there | rfl
    · exact ready.noFile location there content file
    · rw [tree.home] at file
      cases file
  have success : (disk.makeDirectories (Path.around path)).1 = .ok () :=
    Disk.ensureDirectory_ok tree around.ascent (around.legal ready.legal) noFile
  obtain ⟨⟨growsAround, treeMade, directories⟩, grows⟩ := made_around tree path
  simp only [Lockfile.save, known, writeTemporary, Path.parent?_getD]
  generalize disk.makeDirectories (Path.around path) = made at *
  obtain ⟨outcome, between⟩ := made
  obtain rfl : outcome = .ok () := success
  have process : between.process = disk.process := grows.process
  have reaches : between.Reaches (temporaryOf path disk.process) := by
    refine ⟨ready.legalTemporary, fun location inside => ?_⟩
    rw [grows.home] at inside
    rcases ready.wayTemporary location inside with directory | there
    · exact grows.directory directory
    · exact directories rfl location there
  have vacant : between.node? (temporaryPlace path disk) ≠ some .directory := by
    rw [growsAround.elsewhere ready.straightTemporary]
    exact ready.vacantTemporary
  have nonempty := Disk.ne_root_of_vacant vacant
  have written : between.write (temporaryOf path disk.process) ledger.text.toUTF8 =
      .ok (between.put (temporaryPlace path disk) (.file ledger.text.toUTF8)) := by
    refine (Disk.write_eq_ok_iff ..).mpr ⟨reaches, ?_, ?_⟩
    · rwa [grows.home]
    · rw [grows.home, temporaryPlace]
  have kept : ∀ location, between.node? location = some .directory →
      (between.put (temporaryPlace path disk) (.file ledger.text.toUTF8)).node? location = some .directory := by
    intro location directory
    rw [node?_put_temporary vacant _ fun same => vacant (same ▸ directory), directory]
  have moved := (Disk.moveFile_eq_ok_iff (between.put (temporaryPlace path disk) (.file ledger.text.toUTF8))
    (temporaryOf path disk.process) path _).mpr
    ⟨reaches.mono rfl fun location _ => kept location, ⟨ready.legal, fun location inside => ?_⟩, ready.bare,
      ready.named, ?_, ledger.text.toUTF8, ?_, rfl⟩
  · simp only [temporaryPath_eq, written, replace_eq, Disk.process_put, process, moved]
    exact ⟨_, rfl⟩
  · rw [Disk.home_put, grows.home] at inside
    rcases around.whole location inside with there | same | rfl
    · exact kept location (directories rfl location there)
    · exact absurd (same ▸ inside) ready.straight
    · exact kept _ rfl
  · rw [Disk.home_put, grows.home, node?_put_temporary vacant _ distinct, grows.elsewhere ready.straight]
    exact ready.vacant
  · rw [Disk.home_put, grows.home, ← temporaryPlace, Disk.node?_put between nonempty, if_pos rfl]

/-- What was there besides stays when a lockfile is saved. -/
theorem Saved.kept (saved : Saved path ledger disk after) {location : Location} {node : Node}
    (notLockfile : location ≠ Path.place disk.home path) (notTemporary : location ≠ temporaryPlace path disk)
    (there : disk.node? location = some node) : after.node? location = some node := by
  rcases saved.node location notLockfile notTemporary with same | ⟨absent, _⟩
  · rw [same, there]
  · rw [there] at absent
    cases absent

/-- A saved lockfile has the text of its ledger. -/
theorem Saved.content (saved : Saved path ledger disk after) : after.read path = .ok ledger.text.toUTF8 :=
  (Disk.read_eq_ok_iff ..).mpr ⟨saved.reaches, by rw [saved.home]; exact saved.file⟩

/-- A saved lockfile is read back. -/
theorem Saved.read (saved : Saved path ledger disk after) (ordered : Entries.Ordered ledger) :
    Lockfile.read path after = .ok ledger := by
  simp only [Lockfile.read, Disk.holds_of_read saved.content, if_true, Disk.readText, saved.content, Text.fromUTF8?_toUTF8,
    Ledger.ofText_text ordered]
  rfl

/-- Without a lockfile nothing is remembered. -/
theorem read_of_absent (absent : disk.node? (Path.place disk.home path) = none) : Lockfile.read path disk = .ok [] := by
  have missing : disk.holds path = false := by
    rw [← Bool.not_eq_true, Disk.holds_eq_true_iff]
    exact fun ⟨_, there⟩ => there absent
  simp [Lockfile.read, missing]

/-- A ledger that is read is decided by what the path leads to. -/
theorem read_congr (same : after.find? path = disk.find? path) (success : Lockfile.read path disk = .ok ledger) :
    Lockfile.read path after = .ok ledger := by
  have held : after.holds path = disk.holds path := by rw [Disk.holds, same, Disk.holds]
  rw [← success, Lockfile.read, Lockfile.read, held]
  split
  · cases content : disk.read path with
    | ok content => rw [Disk.readText, Disk.read_congr same content, Disk.readText, content]
    | error fault => simp_all [Lockfile.read, Disk.readText]
  · rfl

/-- A ledger that is read from a disk is in order. -/
theorem ordered_of_read {path : String} (success : Lockfile.read path disk = .ok ledger) : Entries.Ordered ledger := by
  unfold Lockfile.read at success
  split at success
  · split at success
    · cases success
    next text _ =>
      cases parsed : Ledger.ofText text with
      | error fault =>
        rw [parsed] at success
        cases success
      | ok read =>
        rw [parsed] at success
        cases success
        exact Ledger.ofText_ordered parsed
  · cases success
    exact .nil

end Lockfile

end SafeMigration
