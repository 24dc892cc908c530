import SafeMigration.Proofs.Disk.Place

/-!
What single changes do to the nodes of a disk.

A disk stays a tree under every change that an access makes: a node is put where no directory is and where a directory
is around, and only files are taken away. Two disks are compared by their nodes; how the nodes are listed is no matter.
-/

namespace SafeMigration.Disk

theorem lookup_filter (nodes : List (Location × Node)) (keeps : Location → Bool) (location : Location) :
    (nodes.filter fun entry => keeps entry.1).lookup location =
      if keeps location then nodes.lookup location else none := by
  induction nodes with
  | nil => simp
  | cons entry nodes ih =>
    obtain ⟨other, node⟩ := entry
    by_cases same : location = other
    · subst same
      cases kept : keeps location <;> simp [kept, ih]
    · have different : (location == other) = false := beq_eq_false_iff_ne.mpr same
      cases kept : keeps other <;> simp [List.lookup_cons, kept, different, ih]

theorem node?_root (disk : Disk) : disk.node? [] = some .directory := rfl

theorem ne_root_of_vacant {disk : Disk} {location : Location} (vacant : disk.node? location ≠ some .directory) :
    location ≠ [] := fun same => vacant (same ▸ rfl)

theorem node?_put (disk : Disk) {location : Location} (nonempty : location ≠ []) (node : Node) (other : Location) :
    (disk.put location node).node? other = if other = location then some node else disk.node? other := by
  cases other with
  | nil => simp [node?, Ne.symm nonempty]
  | cons name around =>
    by_cases same : name :: around = location
    · simp [node?, put, same]
    · have different : (name :: around == location) = false := beq_eq_false_iff_ne.mpr same
      have kept := lookup_filter disk.nodes (fun other => other != location) (name :: around)
      simp only [bne, different, Bool.not_false, if_true] at kept
      simp only [node?, put, List.lookup_cons, different, if_neg same, bne, kept]

theorem node?_erase (disk : Disk) {location : Location} (nonempty : location ≠ []) (other : Location) :
    (disk.erase location).node? other = if location <:+ other then none else disk.node? other := by
  cases other with
  | nil => simp [node?, nonempty]
  | cons name around =>
    have kept := lookup_filter disk.nodes (fun other => !location.isSuffixOf other) (name :: around)
    by_cases below : location <:+ name :: around
    · have below' : location.isSuffixOf (name :: around) = true := List.isSuffixOf_iff_suffix.mpr below
      simpa [node?, erase, below, below'] using kept
    · have below' : location.isSuffixOf (name :: around) = false := by
        simpa [← List.isSuffixOf_iff_suffix] using below
      simpa [node?, erase, below, below'] using kept

@[simp] theorem home_put (disk : Disk) (location : Location) (node : Node) :
    (disk.put location node).home = disk.home := rfl

@[simp] theorem process_put (disk : Disk) (location : Location) (node : Node) :
    (disk.put location node).process = disk.process := rfl

@[simp] theorem home_erase (disk : Disk) (location : Location) : (disk.erase location).home = disk.home := rfl

@[simp] theorem process_erase (disk : Disk) (location : Location) : (disk.erase location).process = disk.process := rfl

theorem IsTree.put {disk : Disk} (tree : disk.IsTree) {location : Location}
    (vacant : disk.node? location ≠ some .directory) (around : disk.node? location.tail = some .directory)
    (node : Node) : (disk.put location node).IsTree := by
  have nonempty := ne_root_of_vacant vacant
  have kept : ∀ other, disk.node? other = some .directory → (disk.put location node).node? other = some .directory := by
    intro other directory
    have different : other ≠ location := fun same => vacant (same ▸ directory)
    rw [node?_put disk nonempty, if_neg different, directory]
  refine ⟨kept _ tree.home, fun other present => kept _ ?_⟩
  by_cases same : other = location
  · exact same ▸ around
  · rw [node?_put disk nonempty, if_neg same] at present
    exact tree.around other present

/-- Nothing lies below a file. -/
theorem IsTree.below_file {disk : Disk} (tree : disk.IsTree) {location other : Location} {content : ByteArray}
    (file : disk.node? location = some (.file content)) (below : location <:+ other) (different : other ≠ location) :
    disk.node? other = none := by
  induction other with
  | nil => exact absurd (List.suffix_nil.mp below).symm different
  | cons name around ih =>
    have inside : location <:+ around := (List.suffix_cons_iff.mp below).resolve_left fun same => different same.symm
    by_contra present
    have directory : disk.node? around = some .directory := tree.around _ present
    by_cases same : around = location
    · rw [same, file] at directory
      cases directory
    · rw [ih inside same] at directory
      cases directory

/-- Taking away a file changes nothing else. -/
theorem IsTree.node?_erase_file {disk : Disk} (tree : disk.IsTree) {location : Location} {content : ByteArray}
    (file : disk.node? location = some (.file content)) (other : Location) :
    (disk.erase location).node? other = if other = location then none else disk.node? other := by
  have nonempty : location ≠ [] := ne_root_of_vacant (by rw [file]; exact fun same => nomatch same)
  rw [node?_erase disk nonempty]
  by_cases same : other = location
  · simp [same]
  · by_cases below : location <:+ other
    · simp [same, below, tree.below_file file below same]
    · simp [same, below]

theorem IsTree.erase_file {disk : Disk} (tree : disk.IsTree) {location : Location} {content : ByteArray}
    (file : disk.node? location = some (.file content)) : (disk.erase location).IsTree := by
  have kept : ∀ other, disk.node? other = some .directory → (disk.erase location).node? other = some .directory := by
    intro other directory
    have different : other ≠ location := fun same => by
      rw [same, file] at directory
      cases directory
    rw [tree.node?_erase_file file, if_neg different, directory]
  refine ⟨kept _ tree.home, fun other present => kept _ (tree.around other ?_)⟩
  rw [tree.node?_erase_file file] at present
  by_cases same : other = location
  · simp [same] at present
  · simpa [same] using present

/-- A file is written where a path leads to, unless that is a directory. -/
theorem write_eq_ok_iff (disk : Disk) (path : String) (content : ByteArray) (after : Disk) :
    disk.write path content = .ok after ↔
      disk.Reaches path ∧ disk.node? (Path.place disk.home path) ≠ some .directory ∧
        after = disk.put (Path.place disk.home path) (.file content) := by
  unfold write
  cases located : disk.locate path with
  | error fault =>
    have missing : ¬ disk.Reaches path := fun reaches => by
      rw [reaches.locate] at located
      cases located
    simp [missing]
  | ok location =>
    obtain ⟨reaches, rfl⟩ := (locate_eq_ok_iff ..).mp located
    cases found : disk.node? (Path.place disk.home path) with
    | none => simp [found, reaches, eq_comm]
    | some node => cases node <;> simp [found, reaches, eq_comm]

/-- A file is moved to a path that names it, unless that leads to a directory. -/
theorem moveFile_eq_ok_iff (disk : Disk) (source target : String) (after : Disk) :
    disk.moveFile source target = .ok after ↔
      disk.Reaches source ∧ disk.Reaches target ∧ Path.withoutEndingSlashes target = target ∧
        ["", ".", ".."].contains (Path.lastSegment target) = false ∧
        disk.node? (Path.place disk.home target) ≠ some .directory ∧
        ∃ content, disk.node? (Path.place disk.home source) = some (.file content) ∧
          after = (disk.erase (Path.place disk.home source)).put (Path.place disk.home target) (.file content) := by
  constructor
  · intro success
    simp only [moveFile] at success
    split at success
    · cases success
    · cases success
    next start location located locatedTarget =>
      split at success
      next content file =>
        split at success
        · cases success
        next ends =>
          split at success
          · cases success
          next bare =>
            have bare : Path.withoutEndingSlashes target = target := not_not.mp bare
            rw [bare] at ends locatedTarget
            obtain ⟨reaches, rfl⟩ := (locate_eq_ok_iff ..).mp located
            obtain ⟨reachesTarget, rfl⟩ := (locate_eq_ok_iff ..).mp locatedTarget
            split at success
            · cases success
            next vacant =>
              cases success
              exact ⟨reaches, reachesTarget, bare, by simpa using ends, vacant, content, file, rfl⟩
      · cases success
      · cases success
  · rintro ⟨reaches, reachesTarget, bare, ends, vacant, content, file, rfl⟩
    unfold moveFile
    simp only [bare, reaches.locate, reachesTarget.locate, file, ends, ne_eq, not_true, if_false, Bool.false_eq_true]

/-- The disk afterwards has more directories, at some locations, and is the same otherwise. -/
structure Grows (among : List Location) (before after : Disk) : Prop where
  home : after.home = before.home
  process : after.process = before.process
  node : ∀ location, after.node? location = before.node? location ∨
    before.node? location = none ∧ after.node? location = some .directory ∧ location ∈ among

namespace Grows

variable {among more : List Location} {before between after : Disk}

theorem refl (among : List Location) (disk : Disk) : Grows among disk disk := ⟨rfl, rfl, fun _ => .inl rfl⟩

theorem directory (grows : Grows among before after) {location : Location}
    (directory : before.node? location = some .directory) : after.node? location = some .directory := by
  rcases grows.node location with same | ⟨_, made, _⟩
  · rw [same, directory]
  · exact made

theorem file (grows : Grows among before after) {location : Location} {content : ByteArray} :
    after.node? location = some (.file content) ↔ before.node? location = some (.file content) := by
  rcases grows.node location with same | ⟨absent, made, _⟩
  · rw [same]
  · simp [absent, made]

theorem elsewhere (grows : Grows among before after) {location : Location} (outside : location ∉ among) :
    after.node? location = before.node? location :=
  (grows.node location).resolve_right fun made => outside made.2.2

theorem trans (first : Grows among before between) (second : Grows among between after) :
    Grows among before after := by
  refine ⟨second.home.trans first.home, second.process.trans first.process, fun location => ?_⟩
  rcases first.node location with same | ⟨absent, made, inside⟩
  · rw [← same]
    exact second.node location
  · exact .inr ⟨absent, second.directory made, inside⟩

theorem mono (grows : Grows among before after) (wider : ∀ location ∈ among, location ∈ more) :
    Grows more before after :=
  ⟨grows.home, grows.process, fun location =>
    (grows.node location).imp_right fun ⟨absent, made, inside⟩ => ⟨absent, made, wider location inside⟩⟩

/-- A directory that is made where nothing was. -/
theorem put {disk : Disk} {location : Location} (absent : disk.node? location = none) (inside : location ∈ among) :
    Grows among disk (disk.put location .directory) := by
  have nonempty : location ≠ [] := ne_root_of_vacant (by rw [absent]; exact fun same => nomatch same)
  refine ⟨rfl, rfl, fun other => ?_⟩
  rw [node?_put disk nonempty]
  by_cases same : other = location
  · simp [same, absent, inside]
  · simp [same]

end Grows

end SafeMigration.Disk
