import SafeMigration.Proofs.Disk.Change

/-!
What a path leads to after directories were made on its way.

A path that was not found can be found afterwards, when it leads by two dots out of a directory that was missing and has
been made. Any other path leads to what it led to. If it could not be followed for a missing directory, it is also read
with the same result, unless a name behind the directory is too long.
-/

namespace SafeMigration.Disk

/-- A directory that is missing on the ways to some paths. -/
structure Missing (disk : Disk) (others : List String) (location : Location) : Prop where
  absent : disk.node? location = none
  onWay : ∃ other ∈ others, location ∈ Path.way disk.home other

/-- A path that leads by two dots out of a directory that is missing on the ways to some others. -/
def Leaves (disk : Disk) (others : List String) (path : String) : Prop :=
  ∃ names rest, Path.segments path = names ++ ".." :: rest ∧
    disk.Missing others ((Path.origin disk.home path).along names)

/-- A path that has a name which is too long, and passes a directory that is missing on the ways to some others. -/
def Overruns (disk : Disk) (others : List String) (path : String) : Prop :=
  (∃ location ∈ Path.way disk.home path, disk.Missing others location) ∧
    ∃ name ∈ Path.segments path, maxName < name.utf8ByteSize

/-- A path with the same at its place, and with nothing new on its way but directories on the ways to some others. -/
structure Opened (others : List String) (path : String) (disk after : Disk) : Prop where
  home : after.home = disk.home
  place : after.node? (Path.place disk.home path) = disk.node? (Path.place disk.home path)
  way : ∀ location ∈ Path.way disk.home path, after.node? location = disk.node? location ∨
    disk.Missing others location ∧ after.node? location = some .directory

variable {disk after : Disk} {others : List String} {path : String} {here absent : Location} {names : List String}

theorem not_leaves (noDots : ".." ∉ Path.segments path) : ¬ disk.Leaves others path := by
  rintro ⟨names, rest, split, -⟩
  exact noDots (by simp [split])

theorem not_overruns (short : ∀ name ∈ Path.segments path, name.utf8ByteSize ≤ maxName) :
    ¬ disk.Overruns others path := by
  rintro ⟨-, name, member, long⟩
  exact absurd long (Nat.not_lt.mpr (short name member))

/-- Nothing is below a location where nothing is. -/
theorem IsTree.below_absent (tree : disk.IsTree) (missing : disk.node? absent = none) {location : Location}
    (below : absent <:+ location) : disk.node? location = none := by
  induction location with
  | nil => rwa [List.suffix_nil.mp below] at missing
  | cons name around ih =>
    rcases List.suffix_cons_iff.mp below with rfl | further
    · exact missing
    · by_contra there
      have directory : disk.node? around = some .directory := tree.around _ there
      rw [ih further] at directory
      cases directory

/-- Names that do not lead out of directories that were made lead to nothing from where nothing was. -/
theorem follow_below_absent (tree : disk.IsTree) (missing : disk.node? absent = none) (below : absent <:+ here)
    (opened : ∀ location ∈ here.passed names, after.node? location = disk.node? location ∨
      disk.Missing others location ∧ after.node? location = some .directory)
    (stays : ∀ before rest, names = before ++ ".." :: rest → ¬ disk.Missing others (here.along before))
    (short : ∀ name ∈ names, name.utf8ByteSize ≤ maxName) :
    after.follow here names = .error .notFound ∨ ∃ there, after.follow here names = .ok there ∧ absent <:+ there := by
  induction names generalizing here with
  | nil => exact .inr ⟨here, rfl, below⟩
  | cons name names ih =>
    simp only [Location.passed, List.forall_mem_cons] at opened short
    rw [follow]
    rcases opened.1 with same | ⟨made, directory⟩
    · rw [same, tree.below_absent missing below]
      exact .inl rfl
    · have inside : absent <:+ here.step name := by
        unfold Location.step
        split
        · exact below
        · split
          next dots => exact absurd made (stays [] names (by rw [dots, List.nil_append]))
          · exact below.trans (List.suffix_cons ..)
      simp only [directory, Nat.not_lt.mpr short.1, if_false]
      refine ih inside opened.2 (fun before rest split => ?_) short.2
      exact stays (name :: before) rest (by rw [split, List.cons_append])

/-- Names are followed as before, or now to where nothing was. -/
theorem follow_opened (tree : disk.IsTree)
    (opened : ∀ location ∈ here.passed names, after.node? location = disk.node? location ∨
      disk.Missing others location ∧ after.node? location = some .directory)
    (stays : ∀ before rest, names = before ++ ".." :: rest → ¬ disk.Missing others (here.along before))
    (short : (∃ location ∈ here.passed names, disk.Missing others location) →
      ∀ name ∈ names, name.utf8ByteSize ≤ maxName) :
    after.follow here names = disk.follow here names ∨ disk.follow here names = .error .notFound ∧
      ∃ there, after.follow here names = .ok there ∧ disk.node? there = none := by
  induction names generalizing here with
  | nil => exact .inl rfl
  | cons name names ih =>
    simp only [Location.passed, List.forall_mem_cons, List.exists_mem_cons_iff] at opened short
    rcases opened.1 with same | ⟨made, directory⟩
    · rw [follow, follow, same]
      cases disk.node? here with
      | none => exact .inl rfl
      | some node =>
        cases node with
        | file content => exact .inl rfl
        | directory =>
          by_cases long : maxName < name.utf8ByteSize
          · simp only [long, if_true]
            exact .inl trivial
          · simp only [long, if_false]
            refine ih opened.2 (fun before rest split => ?_) (fun later => (short (.inr later)).2)
            exact stays (name :: before) rest (by rw [split, List.cons_append])
    · have unfound : disk.follow here (name :: names) = .error .notFound := by rw [follow, made.absent]
      have passed : ∀ location ∈ here.passed (name :: names), after.node? location = disk.node? location ∨
          disk.Missing others location ∧ after.node? location = some .directory := by
        simpa only [Location.passed, List.forall_mem_cons] using opened
      rcases follow_below_absent tree made.absent (List.suffix_refl here) passed stays
        (List.forall_mem_cons.mpr (short (.inl made))) with still | ⟨there, found, below⟩
      · exact .inl (still.trans unfound.symm)
      · exact .inr ⟨unfound, there, found, tree.below_absent made.absent below⟩

namespace Opened

theorem locate (opened : Opened others path disk after) (tree : disk.IsTree) (stays : ¬ disk.Leaves others path)
    (short : ¬ disk.Overruns others path) :
    after.locate path = disk.locate path ∨ disk.locate path = .error .notFound ∧
      after.locate path = .ok (Path.place disk.home path) ∧ disk.node? (Path.place disk.home path) = none := by
  unfold Disk.locate
  split
  · exact .inl rfl
  · split
    · exact .inl rfl
    · split
      · exact .inl rfl
      · rw [opened.home]
        rcases follow_opened tree opened.way (fun before rest split missing => stays ⟨before, rest, split, missing⟩)
          (fun passes name member => Nat.not_lt.mp fun long => short ⟨passes, name, member, long⟩) with
          same | ⟨unfound, there, found, absent⟩
        · exact .inl same
        · obtain rfl : there = Path.place disk.home path := ((follow_eq_ok_iff ..).mp found).2.2
          exact .inr ⟨unfound, found, absent⟩

/-- Reading ends as before. -/
theorem read (opened : Opened others path disk after) (tree : disk.IsTree) (stays : ¬ disk.Leaves others path)
    (short : ¬ disk.Overruns others path) : after.read path = disk.read path := by
  unfold Disk.read
  rcases opened.locate tree stays short with same | ⟨unfound, found, absent⟩
  · rw [same]
    cases located : disk.locate path with
    | error fault => rfl
    | ok location =>
      obtain ⟨_, rfl⟩ := (locate_eq_ok_iff ..).mp located
      simp only [opened.place]
  · simp only [unfound, found, opened.place, absent]

/-- A path leads to the same as before; one with a name that is too long leads nowhere. -/
theorem find? (opened : Opened others path disk after) (tree : disk.IsTree) (stays : ¬ disk.Leaves others path) :
    after.find? path = disk.find? path := by
  by_cases legal : Path.Legal path
  · have short : ¬ disk.Overruns others path := fun ⟨_, name, member, long⟩ =>
      absurd long (Nat.not_lt.mpr (legal.names name member))
    unfold Disk.find?
    rcases opened.locate tree stays short with same | ⟨unfound, found, absent⟩
    · rw [same]
      cases located : disk.locate path with
      | error fault => rfl
      | ok location =>
        obtain ⟨_, rfl⟩ := (locate_eq_ok_iff ..).mp located
        simp only [opened.place]
    · simp only [unfound, found, opened.place, absent]
  · have nowhere : ∀ any : Disk, any.find? path = none := fun any => by
      cases found : any.find? path with
      | none => rfl
      | some node => exact absurd ((find?_eq_some_iff ..).mp found).1.legal legal
    rw [nowhere, nowhere]

end Opened

end SafeMigration.Disk
