import SafeMigration.Disk.Access
import SafeMigration.Proofs.Path

/-!
Where a path leads, apart from what is there.

The place of a path and the locations on its way depend on the text and on the directory that paths start from alone.
The disk decides no more than whether the way can be gone: every location on it has to be a directory. A path that
cannot be followed for another reason than its text fails at the first location on its way that is none.
-/

namespace SafeMigration

namespace Location

/-- Goes from a location to names in their order. -/
def along (here : Location) (names : List String) : Location := names.foldl step here

/-- The locations from which some name is gone to. -/
def passed (here : Location) : List String → List Location
  | [] => []
  | name :: names => here :: passed (here.step name) names

theorem along_append (here : Location) (names more : List String) :
    here.along (names ++ more) = (here.along names).along more := List.foldl_append

theorem passed_append (here : Location) (names more : List String) :
    here.passed (names ++ more) = here.passed names ++ (here.along names).passed more := by
  induction names generalizing here with
  | nil => rfl
  | cons name names ih => simp [passed, ih, along]

end Location

namespace Path

/-- Where a path starts. -/
def origin (home : Location) (path : String) : Location := if isAbsolute path then [] else home

/-- The location that a path leads to, if it leads anywhere. -/
def place (home : Location) (path : String) : Location := (origin home path).along (segments path)

/-- The locations that have to be directories for a path to lead anywhere. -/
def way (home : Location) (path : String) : List Location := (origin home path).passed (segments path)

/-- The locations that a path passes and the one that it leads to. -/
def reach (home : Location) (path : String) : List Location := place home path :: way home path

/-- A path that can be asked for: its text and its names are short enough, and it has no character zero. -/
structure Legal (path : String) : Prop where
  noZero : path.toList.contains '\x00' = false
  nonempty : path.isEmpty = false
  short : path.utf8ByteSize ≤ Disk.maxPath
  names : ∀ name ∈ segments path, name.utf8ByteSize ≤ Disk.maxName

theorem segments_ne_nil (path : String) : segments path ≠ [] := by
  simpa [segments] using cutAtSlashes_ne_nil path.toList

theorem plain_of_mem_cutAtSlashes {segment cs : List Char} (member : segment ∈ cutAtSlashes cs) : '/' ∉ segment := by
  induction cs generalizing segment with
  | nil =>
    rw [cutAtSlashes, List.mem_singleton] at member
    simp [member]
  | cons c cs ih =>
    by_cases slash : c = '/'
    · simp only [cutAtSlashes, slash, beq_self_eq_true, if_true] at member
      rcases List.mem_cons.mp member with rfl | later
      · simp
      · exact ih later
    · obtain ⟨first, segments, split⟩ := List.exists_cons_of_ne_nil (cutAtSlashes_ne_nil cs)
      simp only [cutAtSlashes, beq_iff_eq, slash, if_false, split] at member ih
      rcases List.mem_cons.mp member with rfl | later
      · simp [Ne.symm slash, ih (List.mem_cons_self)]
      · exact ih (List.mem_cons_of_mem _ later)

theorem origin_append {before : List Char} (nonempty : before ≠ []) (home : Location) (after : List Char) :
    origin home (String.ofList (before ++ after)) = origin home (String.ofList before) := by
  obtain ⟨c, cs, rfl⟩ := List.exists_cons_of_ne_nil nonempty
  simp [origin, isAbsolute]

theorem way_append {before : List Char} (nonempty : before ≠ []) (home : Location) (after : List Char) :
    way home (String.ofList (before ++ '/' :: after)) = way home (String.ofList before) ++
      (place home (String.ofList before)).passed (segments (String.ofList after)) := by
  simp only [way, place, origin_append nonempty, segments_append, Location.passed_append]

theorem place_append {before : List Char} (nonempty : before ≠ []) (home : Location) (after : List Char) :
    place home (String.ofList (before ++ '/' :: after)) =
      (place home (String.ofList before)).along (segments (String.ofList after)) := by
  simp only [place, origin_append nonempty, segments_append, Location.along_append]

theorem Legal.of_append {before after : List Char} (nonempty : before ≠ [])
    (legal : Legal (String.ofList (before ++ '/' :: after))) : Legal (String.ofList before) := by
  refine ⟨?_, ?_, ?_, fun name member => ?_⟩
  · have noZero := legal.noZero
    simp_all
  · simpa [String.isEmpty_iff, ← String.toList_inj] using nonempty
  · have short := legal.short
    rw [String.ofList_append, String.utf8ByteSize_append] at short
    omega
  · exact legal.names name (segments_append before after ▸ List.mem_append_left _ member)

theorem plain_of_mem_segments {name path : String} (member : name ∈ segments path) : '/' ∉ name.toList := by
  obtain ⟨segment, inside, rfl⟩ := List.mem_map.mp member
  simpa using plain_of_mem_cutAtSlashes inside

end Path

instance : DecidableEq Node
  | .file content, .file other =>
    @decidable_of_iff _ (content = other) (by rw [Node.file.injEq]) (ByteArray.instDecidableEq content other)
  | .file _, .directory => .isFalse Node.noConfusion
  | .directory, .file _ => .isFalse Node.noConfusion
  | .directory, .directory => .isTrue rfl

namespace Disk

/-- Every node lies in a directory, and so do paths start from one. -/
structure IsTree (disk : Disk) : Prop where
  home : disk.node? disk.home = some .directory
  around : ∀ location, disk.node? location ≠ none → disk.node? location.tail = some .directory

/-- A path that can be followed to its end, whatever is there. -/
structure Reaches (disk : Disk) (path : String) : Prop where
  legal : Path.Legal path
  way : ∀ location ∈ Path.way disk.home path, disk.node? location = some .directory

theorem follow_eq_ok_iff (disk : Disk) (here there : Location) (names : List String) :
    disk.follow here names = .ok there ↔
      (∀ location ∈ here.passed names, disk.node? location = some .directory) ∧
        (∀ name ∈ names, name.utf8ByteSize ≤ maxName) ∧ there = here.along names := by
  induction names generalizing here with
  | nil => simp [follow, Location.passed, Location.along, eq_comm]
  | cons name names ih =>
    simp only [follow, Location.passed, List.forall_mem_cons, Location.along, List.foldl_cons]
    cases found : disk.node? here with
    | none => simp
    | some node =>
      cases node with
      | file content => simp
      | directory =>
        by_cases long : maxName < name.utf8ByteSize
        · simp [long, Nat.not_le.mpr long]
        · simp [long, Nat.not_lt.mp long, ih, Location.along]

/-- Names that are short enough fail at the first location that is no directory. -/
theorem follow_missing {disk : Disk} {here : Location} {names : List String}
    (short : ∀ name ∈ names, name.utf8ByteSize ≤ maxName)
    (noFile : ∀ location ∈ here.passed names, ∀ content, disk.node? location ≠ some (.file content))
    (missing : ∃ location ∈ here.passed names, disk.node? location ≠ some .directory) :
    disk.follow here names = .error .notFound := by
  induction names generalizing here with
  | nil => simp [Location.passed] at missing
  | cons name names ih =>
    simp only [Location.passed, List.forall_mem_cons, List.exists_mem_cons_iff] at short noFile missing
    rw [follow]
    cases found : disk.node? here with
    | none => rfl
    | some node =>
      cases node with
      | file content => exact absurd found (noFile.1 content)
      | directory =>
        simp only [Nat.not_lt.mpr short.1, if_false]
        exact ih short.2 noFile.2 (missing.resolve_left fun other => other found)

theorem locate_of_legal {disk : Disk} {path : String} (legal : Path.Legal path) :
    disk.locate path = disk.follow (Path.origin disk.home path) (Path.segments path) := by
  rw [locate, if_neg (by rw [legal.noZero]; exact Bool.false_ne_true),
    if_neg (by rw [legal.nonempty]; exact Bool.false_ne_true), if_neg (Nat.not_lt.mpr legal.short)]
  rfl

/-- A path is located at its place as soon as it can be followed, and only then. -/
theorem locate_eq_ok_iff (disk : Disk) (path : String) (location : Location) :
    disk.locate path = .ok location ↔ disk.Reaches path ∧ location = Path.place disk.home path := by
  constructor
  · intro located
    have followed := located
    unfold locate at followed
    split at followed
    · cases followed
    split at followed
    · cases followed
    split at followed
    · cases followed
    next noZero nonempty short =>
      obtain ⟨way, names, same⟩ := (follow_eq_ok_iff ..).mp followed
      exact ⟨⟨⟨by simpa using noZero, by simpa using nonempty, Nat.not_lt.mp short, names⟩, way⟩, same⟩
  · rintro ⟨reaches, rfl⟩
    rw [locate_of_legal reaches.legal]
    exact (follow_eq_ok_iff ..).mpr ⟨reaches.way, reaches.legal.names, rfl⟩

theorem Reaches.locate {disk : Disk} {path : String} (reaches : disk.Reaches path) :
    disk.locate path = .ok (Path.place disk.home path) := (locate_eq_ok_iff ..).mpr ⟨reaches, rfl⟩

/-- A path that can be asked for, with no file on its way, is not found until its way is there. -/
theorem locate_missing {disk : Disk} {path : String} (legal : Path.Legal path)
    (noFile : ∀ location ∈ Path.way disk.home path, ∀ content, disk.node? location ≠ some (.file content))
    (missing : ¬ disk.Reaches path) : disk.locate path = .error .notFound := by
  rw [locate_of_legal legal]
  refine follow_missing legal.names noFile ?_
  by_contra none
  exact missing ⟨legal, fun location inside => by_contra fun other => none ⟨location, inside, other⟩⟩

theorem find?_eq_some_iff (disk : Disk) (path : String) (node : Node) :
    disk.find? path = some node ↔ disk.Reaches path ∧ disk.node? (Path.place disk.home path) = some node := by
  unfold find?
  cases located : disk.locate path with
  | error fault =>
    have missing : ¬ disk.Reaches path := fun reaches => by
      rw [reaches.locate] at located
      cases located
    simp [missing]
  | ok location =>
    obtain ⟨reaches, rfl⟩ := (locate_eq_ok_iff ..).mp located
    simp [reaches]

theorem read_eq_ok_iff (disk : Disk) (path : String) (content : ByteArray) :
    disk.read path = .ok content ↔
      disk.Reaches path ∧ disk.node? (Path.place disk.home path) = some (.file content) := by
  rw [← find?_eq_some_iff, read, find?]
  cases located : disk.locate path with
  | error fault => simp
  | ok location =>
    cases found : disk.node? location with
    | none => simp [found]
    | some node => cases node <;> simp [found]

/-- What can be read is decided by what the path leads to. -/
theorem read_congr {disk after : Disk} {path : String} {content : ByteArray} (same : after.find? path = disk.find? path)
    (success : disk.read path = .ok content) : after.read path = .ok content := by
  rw [read_eq_ok_iff, ← find?_eq_some_iff] at success ⊢
  rw [same, success]

theorem isDirectory_eq_true_iff (disk : Disk) (path : String) :
    disk.isDirectory path = true ↔
      disk.Reaches path ∧ disk.node? (Path.place disk.home path) = some .directory := by
  rw [← find?_eq_some_iff, isDirectory]
  cases disk.find? path with
  | none => simp
  | some node => cases node <;> simp

theorem holds_eq_true_iff (disk : Disk) (path : String) :
    disk.holds path = true ↔ disk.Reaches path ∧ disk.node? (Path.place disk.home path) ≠ none := by
  rw [holds, Option.isSome_iff_exists]
  simp only [find?_eq_some_iff, exists_and_left, Option.ne_none_iff_exists']

theorem holds_of_read {disk : Disk} {path : String} {content : ByteArray} (success : disk.read path = .ok content) :
    disk.holds path = true := by
  obtain ⟨reaches, there⟩ := (read_eq_ok_iff ..).mp success
  exact (holds_eq_true_iff ..).mpr ⟨reaches, by rw [there]; exact Option.some_ne_none _⟩

/-- Something that is there and cannot be read is a directory. -/
theorem fault_of_holds {disk : Disk} {path : String} {fault : AccessFault} (held : disk.holds path = true)
    (failed : disk.read path = .error fault) : fault = .isDirectory := by
  obtain ⟨reaches, there⟩ := (holds_eq_true_iff ..).mp held
  simp only [read, reaches.locate] at failed
  cases found : disk.node? (Path.place disk.home path) with
  | none => exact absurd found there
  | some node =>
    rw [found] at failed
    cases node <;> cases failed
    rfl

/-- Where something is, what is read is decided by what the path leads to. -/
theorem read_of_find? {disk after : Disk} {path : String} (held : after.holds path = true)
    (same : after.find? path = disk.find? path) : after.read path = disk.read path := by
  have heldBefore : disk.holds path = true := by rw [holds, ← same]; exact held
  cases success : disk.read path with
  | ok content => exact read_congr same success
  | error fault =>
    cases successNow : after.read path with
    | ok content =>
      rw [read_congr same.symm successNow] at success
      cases success
    | error fault' => rw [fault_of_holds held successNow, fault_of_holds heldBefore success]

theorem Reaches.mono {disk after : Disk} {path : String} (reaches : disk.Reaches path) (home : after.home = disk.home)
    (kept : ∀ location ∈ Path.way disk.home path, disk.node? location = some .directory →
      after.node? location = some .directory) : after.Reaches path :=
  ⟨reaches.legal, fun location inside => by
    rw [home] at inside
    exact kept location inside (reaches.way location inside)⟩

/-- A path leads to the same as before if nothing has changed at its place, and it can be followed as before. -/
theorem find?_of_kept {disk after : Disk} {path : String} (home : after.home = disk.home)
    (node : after.node? (Path.place disk.home path) = disk.node? (Path.place disk.home path))
    (kept : ∀ location ∈ Path.way disk.home path, disk.node? location = some .directory →
      after.node? location = some .directory)
    (there : disk.node? (Path.place disk.home path) = none ∨ disk.Reaches path) :
    after.find? path = disk.find? path := by
  have iff : ∀ found, after.find? path = some found ↔ disk.find? path = some found := by
    intro found
    rw [find?_eq_some_iff, find?_eq_some_iff, home, node]
    rcases there with absent | reaches
    · simp [absent]
    · simp [reaches, reaches.mono home kept]
  exact Option.ext iff

/-- A step from a directory stays among the directories unless it goes to a name. -/
theorem IsTree.step {disk : Disk} (tree : disk.IsTree) {here : Location} {name : String}
    (directory : disk.node? here = some .directory) (plain : '/' ∉ name.toList) :
    disk.node? (here.step name) = some .directory ∨ Path.IsName name ∧ here.step name = name :: here := by
  unfold Location.step
  split
  · exact .inl directory
  next notDot =>
    split
    · exact .inl (tree.around here (by rw [directory]; exact Option.some_ne_none _))
    next notDots => exact .inr ⟨⟨fun same => notDot (.inl same), fun same => notDot (.inr same), notDots, plain⟩, rfl⟩

theorem IsTree.along {disk : Disk} (tree : disk.IsTree) {here : Location} {names : List String} (nonempty : names ≠ [])
    (directories : ∀ location ∈ here.passed names, disk.node? location = some .directory)
    (plain : ∀ name ∈ names, '/' ∉ name.toList) :
    disk.node? (here.along names) = some .directory ∨
      ∃ name, names.getLast? = some name ∧ Path.IsName name ∧
        disk.node? (here.along names).tail = some .directory := by
  induction names generalizing here with
  | nil => exact absurd rfl nonempty
  | cons name names ih =>
    simp only [Location.passed, List.forall_mem_cons] at directories plain
    cases names with
    | nil =>
      rcases tree.step directories.1 plain.1 with directory | ⟨isName, step⟩
      · exact .inl directory
      · exact .inr ⟨name, rfl, isName, by simpa [Location.along, step] using directories.1⟩
    | cons next names => simpa [Location.along] using ih (by simp) directories.2 plain.2

/-- The end of a path is a directory, or it has a name and lies in a directory. -/
theorem Reaches.ending {disk : Disk} (tree : disk.IsTree) {path : String} (reaches : disk.Reaches path) :
    disk.node? (Path.place disk.home path) = some .directory ∨
      (∃ name, Path.fileName? path = some name) ∧ disk.node? (Path.place disk.home path).tail = some .directory := by
  rcases tree.along (Path.segments_ne_nil path) reaches.way fun _ => Path.plain_of_mem_segments with
    directory | ⟨name, last, isName, around⟩
  · exact .inl directory
  · exact .inr ⟨⟨name, Path.fileName?_of_segments isName last⟩, around⟩

/-- A file is read by a path that ends with a name. -/
theorem fileName?_of_read {disk : Disk} (tree : disk.IsTree) {path : String} {content : ByteArray}
    (success : disk.read path = .ok content) : ∃ name, Path.fileName? path = some name := by
  obtain ⟨reaches, file⟩ := (read_eq_ok_iff ..).mp success
  rcases reaches.ending tree with directory | ⟨named, _⟩
  · rw [file] at directory
    cases directory
  · exact named

end Disk

end SafeMigration
