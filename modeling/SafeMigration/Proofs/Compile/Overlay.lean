import SafeMigration.Proofs.Compile.Repeat

/-!
What a commit that is done leaves at each location.

That is the lockfile, the outputs that were written, what was there besides, and directories on the ways to these files.
So it is determined by which outputs were written and by what is remembered, and that of two commits together does not
depend on which is first. A path leads to the same as before if there is the same at its place, unless the commit opens
it: a path that leads by two dots out of a directory that the commit makes can be followed from then on.
-/

namespace SafeMigration

namespace Disk

variable {files more : List CompiledFile} {lockfile : String} {ledger later : Ledger} {before between after : Disk}
  {home location : Location}

/-- A location where a commit puts no file and takes none away. -/
structure Free (files : List CompiledFile) (lockfile : String) (disk : Disk) (location : Location) : Prop where
  lock : location ≠ Path.place disk.home lockfile
  temporary : location ≠ Lockfile.temporaryPlace lockfile disk
  outputs : ∀ file ∈ files, file.outcome = .compiled → location ≠ Path.place disk.home file.outputPath

/-- A location on the way to the lockfile or to an output that is written. -/
def OnWays (files : List CompiledFile) (lockfile : String) (home location : Location) : Prop :=
  location ∈ Path.way home lockfile ∨
    ∃ file ∈ files, file.outcome = .compiled ∧ location ∈ Path.way home file.outputPath

theorem OnWays.mono (onWays : OnWays files lockfile home location) (wider : ∀ file ∈ files, file ∈ more) :
    OnWays more lockfile home location :=
  onWays.imp_right fun ⟨file, member, rest⟩ => ⟨file, wider file member, rest⟩

/-- What a commit leaves at each location: the lockfile, the outputs that were written, what was there besides, and
directories on the ways to these files. -/
structure Overlaid (files : List CompiledFile) (lockfile : String) (ledger : Ledger) (before after : Disk) : Prop where
  home : after.home = before.home
  process : after.process = before.process
  lock : after.node? (Path.place before.home lockfile) = some (.file ledger.text.toUTF8)
  temporary : after.node? (Lockfile.temporaryPlace lockfile before) = none
  written : ∀ file ∈ files, file.outcome = .compiled →
    Path.place before.home file.outputPath ≠ Path.place before.home lockfile →
      Path.place before.home file.outputPath ≠ Lockfile.temporaryPlace lockfile before →
        after.node? (Path.place before.home file.outputPath) = some (.file file.body.toUTF8)
  kept : ∀ location, Free files lockfile before location → before.node? location ≠ none →
    after.node? location = before.node? location
  made : ∀ location, Free files lockfile before location → before.node? location = none →
    OnWays files lockfile before.home location → after.node? location = some .directory
  empty : ∀ location, Free files lockfile before location → before.node? location = none →
    ¬ OnWays files lockfile before.home location → after.node? location = none

namespace Overlaid

/-- After two commits that write different outputs all of them are there. -/
theorem trans (first : Overlaid files lockfile ledger before between)
    (second : Overlaid more lockfile later between after)
    (apart : ∀ file ∈ files, ∀ other ∈ more,
      Path.place before.home file.outputPath ≠ Path.place before.home other.outputPath) :
    Overlaid (files ++ more) lockfile later before after := by
  have place : Lockfile.temporaryPlace lockfile between = Lockfile.temporaryPlace lockfile before :=
    Lockfile.temporaryPlace_congr first.home first.process
  obtain ⟨home, process, lock, temporary, written, kept, made, empty⟩ := second
  rw [first.home] at lock written made empty
  rw [place] at temporary written
  have left {location : Location} (free : Free (files ++ more) lockfile before location) :
      Free files lockfile before location :=
    ⟨free.lock, free.temporary, fun file member => free.outputs file (List.mem_append_left _ member)⟩
  have right {location : Location} (lock : location ≠ Path.place before.home lockfile)
      (temporary : location ≠ Lockfile.temporaryPlace lockfile before)
      (outputs : ∀ file ∈ more, file.outcome = .compiled → location ≠ Path.place before.home file.outputPath) :
      Free more lockfile between location := ⟨by rwa [first.home], by rwa [place], by rwa [first.home]⟩
  have both {location : Location} (free : Free (files ++ more) lockfile before location) :
      Free more lockfile between location :=
    right free.lock free.temporary fun file member => free.outputs file (List.mem_append_right _ member)
  constructor
  case home => exact home.trans first.home
  case process => exact process.trans first.process
  case lock => exact lock
  case temporary => exact temporary
  case written =>
    intro file member compiled notLock notTemporary
    rcases List.mem_append.mp member with early | late
    · have there := first.written file early compiled notLock notTemporary
      rw [kept _ (right notLock notTemporary fun other inside _ => apart file early other inside) (by simp [there]),
        there]
    · exact written file late compiled notLock notTemporary
  case kept =>
    intro location free there
    have same := first.kept location (left free) there
    rw [kept location (both free) (by rwa [same]), same]
  case made =>
    intro location free absent onWays
    by_cases early : OnWays files lockfile before.home location
    · have directory := first.made location (left free) absent early
      rw [kept location (both free) (by simp [directory]), directory]
    · refine made location (both free) (first.empty location (left free) absent early) ?_
      rcases onWays with onWay | ⟨file, member, rest⟩
      · exact .inl onWay
      · refine .inr ⟨file, (List.mem_append.mp member).resolve_left fun inside => ?_, rest⟩
        exact early (.inr ⟨file, inside, rest⟩)
  case empty =>
    intro location free absent offWays
    refine empty location (both free) (first.empty location (left free) absent fun onWays => ?_) fun onWays => ?_
    · exact offWays (onWays.mono fun _ => List.mem_append_left _)
    · exact offWays (onWays.mono fun _ => List.mem_append_right _)

/-- What is left is determined by the outputs that are written, in whatever order, and by the ledger. -/
theorem node_eq {after' : Disk} (overlaid : Overlaid files lockfile ledger before after)
    (overlaid' : Overlaid more lockfile ledger before after') (same : ∀ file, file ∈ files ↔ file ∈ more)
    (location : Location) : after.node? location = after'.node? location := by
  by_cases lock : location = Path.place before.home lockfile
  · rw [lock, overlaid.lock, overlaid'.lock]
  by_cases temporary : location = Lockfile.temporaryPlace lockfile before
  · rw [temporary, overlaid.temporary, overlaid'.temporary]
  by_cases written : ∃ file ∈ files, file.outcome = .compiled ∧ location = Path.place before.home file.outputPath
  · obtain ⟨file, member, compiled, rfl⟩ := written
    rw [overlaid.written file member compiled lock temporary,
      overlaid'.written file ((same file).mp member) compiled lock temporary]
  have free : Free files lockfile before location :=
    ⟨lock, temporary, fun file member compiled here => written ⟨file, member, compiled, here⟩⟩
  have free' : Free more lockfile before location :=
    ⟨lock, temporary, fun file member => free.outputs file ((same file).mpr member)⟩
  cases found : before.node? location with
  | some node =>
    have there : before.node? location ≠ none := by simp [found]
    rw [overlaid.kept location free there, overlaid'.kept location free' there]
  | none =>
    by_cases onWays : OnWays files lockfile before.home location
    · rw [overlaid.made location free found onWays,
        overlaid'.made location free' found (onWays.mono fun file => (same file).mp)]
    · rw [overlaid.empty location free found onWays,
        overlaid'.empty location free' found fun other => onWays (other.mono fun file => (same file).mpr)]

end Overlaid

theorem find?_of_unreached {disk : Disk} {path : String} (unreached : ¬ disk.Reaches path) :
    disk.find? path = none := by
  cases found : disk.find? path with
  | none => rfl
  | some node => exact absurd ((find?_eq_some_iff ..).mp found).1 unreached

end Disk

namespace Ledger

variable {ledger : Ledger} {files more : List CompiledFile}

/-- Files with different keys are remembered in either order. -/
theorem remember_comm (ordered : Entries.Ordered ledger)
    (unique : ∀ file ∈ files, ∀ other ∈ files, other.key = file.key → other = file)
    (unique' : ∀ file ∈ more, ∀ other ∈ more, other.key = file.key → other = file)
    (apart : ∀ file ∈ files, ∀ other ∈ more, file.key ≠ other.key) :
    (ledger.remember files).remember more = (ledger.remember more).remember files := by
  refine (ordered_remember (ordered_remember ordered files) more).eq_of_get?
    (ordered_remember (ordered_remember ordered more) files) fun key => ?_
  by_cases early : ∃ file ∈ files, file.key = key
  · obtain ⟨file, member, rfl⟩ := early
    have notLate : ∀ other ∈ more, other.key ≠ file.key := fun other inside => (apart file member other inside).symm
    rw [get?_remember_of_not_mem notLate, get?_remember_of_mem member (unique file member),
      get?_remember_of_mem member (unique file member)]
  have notEarly : ∀ file ∈ files, file.key ≠ key := fun file member same => early ⟨file, member, same⟩
  rw [get?_remember_of_not_mem notEarly]
  by_cases late : ∃ file ∈ more, file.key = key
  · obtain ⟨file, member, rfl⟩ := late
    rw [get?_remember_of_mem member (unique' file member), get?_remember_of_mem member (unique' file member)]
  · have notLate : ∀ file ∈ more, file.key ≠ key := fun file member same => late ⟨file, member, same⟩
    rw [get?_remember_of_not_mem notLate, get?_remember_of_not_mem notLate, get?_remember_of_not_mem notEarly]

end Ledger

namespace Commit.Result

variable {files : List CompiledFile} {path other : String} {ledger : Ledger} {disk : Disk} {state : Commit}

/-- What a commit that is done leaves. -/
theorem overlaid (result : Result files path ledger disk (.ok (), state)) :
    disk.Overlaid files path (ledger.remember files) state.disk := by
  cases result with
  | @done _ between stored _ saved =>
    obtain ⟨wrote, -, file, way⟩ := stored
    have place : Lockfile.temporaryPlace path between = Lockfile.temporaryPlace path disk :=
      Lockfile.temporaryPlace_congr wrote.home wrote.process
    have still {location : Location} (notLock : location ≠ Path.place disk.home path)
        (notTemporary : location ≠ Lockfile.temporaryPlace path disk) {found : Node} :
        between.node? location = some found → state.disk.node? location = some found :=
      saved.kept (by rwa [wrote.home]) (by rwa [place])
    obtain ⟨home, process, -, lock, reaches, temporary, node⟩ := saved
    rw [wrote.home] at home lock node
    rw [place] at temporary node
    -- Between the writing of the outputs and the saving a free location is as it was, or a directory on a way.
    have free {location : Location} (free : Disk.Free files path disk location) :
        between.node? location = disk.node? location ∨ disk.node? location = none ∧
          between.node? location = some .directory ∧ Disk.OnWays files path disk.home location := by
      rcases wrote.node location with same | ⟨absent, made, onWay⟩ | ⟨file, member, compiled, here, _⟩
      · exact .inl same
      · exact .inr ⟨absent, made, .inr onWay⟩
      · exact absurd here (free.outputs file member compiled)
    constructor
    case home => exact home
    case process => exact process.trans wrote.process
    case lock => exact lock
    case temporary => exact temporary
    case written =>
      exact fun other member compiled notLock notTemporary => still notLock notTemporary (file other member compiled)
    case kept =>
      intro location isFree there
      obtain ⟨found, isThere⟩ := Option.ne_none_iff_exists'.mp there
      have same := (free isFree).resolve_right fun made => there made.1
      rw [still isFree.lock isFree.temporary (same.trans isThere), isThere]
    case made =>
      rintro location isFree absent (onWay | ⟨other, member, compiled, onWay⟩)
      · exact reaches.way location (by rwa [home])
      · exact still isFree.lock isFree.temporary (way other member compiled location onWay)
    case empty =>
      intro location isFree absent offWays
      have same := (free isFree).resolve_right fun made => offWays made.2.2
      rcases node location isFree.lock isFree.temporary with same' | ⟨_, _, onWay⟩
      · rw [same', same, absent]
      · exact absurd (.inl onWay) offWays

/-- The lockfile can be reached after it was saved. -/
theorem way (result : Result files path ledger disk (.ok (), state)) {location : Location}
    (onWay : location ∈ Path.way disk.home path) : state.disk.node? location = some .directory := by
  have home := result.home
  cases result with
  | done _ _ saved => exact saved.reaches.way location (by rwa [home])

/-- All outputs that were written were accepted. -/
theorem accepted (result : Result files path ledger disk (.ok (), state)) {file : CompiledFile} (member : file ∈ files)
    (compiled : file.outcome = .compiled) : disk.Accepts file.outputPath := by
  cases result with
  | done stored _ _ => exact stored.accepted file member compiled

/-- A path that can be followed after a commit was opened by it at most, if there is the same at its place. -/
theorem opened_of_reaches (result : Result files path ledger disk (.ok (), state)) (reaches : state.disk.Reaches other)
    (same : state.disk.node? (Path.place disk.home other) = disk.node? (Path.place disk.home other)) :
    Disk.Opened (path :: files.map CompiledFile.outputPath) other disk state.disk := by
  refine ⟨result.home, same, fun location onWay => ?_⟩
  have directory := reaches.way location (by rwa [result.home])
  have notLock : location ≠ Path.place disk.home path := fun same => by
    rw [same, result.overlaid.lock] at directory
    cases directory
  have notTemporary : location ≠ Lockfile.temporaryPlace path disk := fun same => by
    rw [same, result.overlaid.temporary] at directory
    cases directory
  rcases result.node location notLock notTemporary with same | ⟨absent, made, around⟩ | ⟨_, _, _, _, written, _⟩
  · exact .inl same
  · exact .inr ⟨missing_of_way absent around, made⟩
  · rw [directory] at written
    cases written

/-- A path that a commit does not open leads to the same as before if there is the same at its place. -/
theorem find?_of_node (result : Result files path ledger disk (.ok (), state)) (tree : disk.IsTree)
    (stays : ¬ disk.Leaves (path :: files.map CompiledFile.outputPath) other)
    (same : state.disk.node? (Path.place disk.home other) = disk.node? (Path.place disk.home other)) :
    state.disk.find? other = disk.find? other := by
  by_cases reaches : state.disk.Reaches other
  · exact (result.opened_of_reaches reaches same).find? tree stays
  · have unreached : ¬ disk.Reaches other := fun before => reaches (result.reaches before)
    rw [Disk.find?_of_unreached reaches, Disk.find?_of_unreached unreached]

/-- What is read at a path that a commit neither writes nor opens is what was read there. -/
theorem read_iff (result : Result files path ledger disk (.ok (), state)) (tree : disk.IsTree)
    (stays : ¬ disk.Leaves (path :: files.map CompiledFile.outputPath) other)
    (free : Disk.Free files path disk (Path.place disk.home other)) (content : ByteArray) :
    state.disk.read other = .ok content ↔ disk.read other = .ok content := by
  rcases result.node _ free.lock free.temporary with same | ⟨absent, made, _⟩ | ⟨file, member, compiled, here, _⟩
  · have found := result.find?_of_node tree stays same
    exact ⟨Disk.read_congr found.symm, Disk.read_congr found⟩
  · simp [Disk.read_eq_ok_iff, result.home, absent, made]
  · exact absurd here (free.outputs file member compiled)

end Commit.Result

end SafeMigration
