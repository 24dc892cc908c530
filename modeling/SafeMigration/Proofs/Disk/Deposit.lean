import SafeMigration.Proofs.Disk.Directories

/-!
Putting a file at a path together with the directories on the way.

It succeeds exactly where the path can be asked for, no file stands on its way, and no directory at its place. Then the
file is at its place, all locations on the way are directories, and nothing else has changed. When it fails nothing but
directories on the way has been made.
-/

namespace SafeMigration

namespace Path

/-- The nearest directory around a path and those around it, as far as the path passes them. -/
structure Parent (home : Location) (path nearest : String) : Prop where
  ascent : Ascent home (nearest :: parents nearest)
  inside : ∀ location ∈ reach home nearest, location ∈ way home path
  whole : ∀ location ∈ way home path, location ∈ reach home nearest ∨ location = place home path
  legal : Legal path → nearest = "" ∨ Legal nearest

theorem Leads.mem_reach {home : Location} {around path : String} (leads : Leads home around path)
    (location : Location) : location ∈ Path.reach home around ↔ location ∈ Path.way home path := by
  rw [leads.way, Path.reach, List.mem_cons, or_comm]

theorem parent_of_parent? (home : Location) {path nearest : String} (parent : parent? path = some nearest) :
    Parent home path nearest := by
  obtain ⟨further, split⟩ := List.head?_eq_some_iff.mp parent
  obtain ⟨top, ascent, stops⟩ := ascent_parents home path
  rw [split] at ascent
  cases ascent with
  | step leads nonempty bare ascent =>
    rw [← parents_of_parents split] at ascent
    rcases stops with rfl | ⟨further, same⟩
    · exact ⟨ascent, fun location => (leads.mem_reach location).mp, fun location inside =>
        .inl ((leads.mem_reach location).mpr inside), leads.legal⟩
    · refine ⟨ascent, fun location inside => ?_, fun location inside => ?_, fun legal => ?_⟩
      · exact (further.way location).mpr (.inl ((leads.mem_reach location).mp inside))
      · rw [same]
        exact ((further.way location).mp inside).imp_left (leads.mem_reach location).mpr
      · exact leads.legal ((further.legal legal).resolve_left nonempty)

/-- A path without directories around it passes none but those where paths start. -/
theorem way_of_no_parent {home : Location} {path : String} (none : parent? path = none) :
    ∀ location ∈ way home path, location = home ∨ location = [] := by
  obtain ⟨top, ascent, stops⟩ := ascent_parents home path
  rw [List.head?_eq_none_iff.mp none] at ascent
  have start : ∀ location ∈ reach home top, location = home ∨ location = [] := by
    cases ascent with
    | start =>
      change ∀ location ∈ [home, home], location = home ∨ location = []
      simp
    | root =>
      change ∀ location ∈ [[], [], []], location = home ∨ location = []
      simp
  intro location inside
  rcases stops with rfl | ⟨leads, _⟩
  · exact start location (List.mem_cons_of_mem _ inside)
  · exact start location ((leads.mem_reach location).mpr inside)

end Path

namespace Disk

theorem made_makeDirectories {disk : Disk} (tree : disk.IsTree) {path nearest : String}
    (parent : Path.Parent disk.home path nearest) :
    Made disk nearest (disk.makeDirectories nearest).1 (disk.makeDirectories nearest).2 :=
  made_ensureDirectory tree parent.ascent

theorem makeDirectories_ok {disk : Disk} (tree : disk.IsTree) {path nearest : String}
    (parent : Path.Parent disk.home path nearest) (legal : Path.Legal path)
    (noFile : ∀ location ∈ Path.way disk.home path, ∀ content, disk.node? location ≠ some (.file content)) :
    (disk.makeDirectories nearest).1 = .ok () :=
  ensureDirectory_ok tree parent.ascent (parent.legal legal) fun location inside =>
    noFile location (parent.inside location inside)

/-- A path at which a file can be put, whatever directories are missing on its way. -/
structure Accepts (disk : Disk) (path : String) : Prop where
  legal : Path.Legal path
  noFile : ∀ location ∈ Path.way disk.home path, ∀ content, disk.node? location ≠ some (.file content)
  vacant : disk.node? (Path.place disk.home path) ≠ some .directory
  straight : Path.place disk.home path ∉ Path.way disk.home path

/-- A file was put at a path, and nothing else was changed but that there are directories on its way. -/
structure Deposited (path : String) (content : ByteArray) (before after : Disk) : Prop where
  home : after.home = before.home
  process : after.process = before.process
  tree : after.IsTree
  accepted : before.Accepts path
  file : after.node? (Path.place before.home path) = some (.file content)
  way : ∀ location ∈ Path.way before.home path, after.node? location = some .directory
  other : ∀ location, location ≠ Path.place before.home path → location ∉ Path.way before.home path →
    after.node? location = before.node? location

theorem deposited_of_write {disk between after : Disk} {path : String} {content : ByteArray} (tree : between.IsTree)
    (grows : Grows (Path.way disk.home path) disk between) (success : between.write path content = .ok after) :
    Deposited path content disk after := by
  obtain ⟨reaches, vacant, rfl⟩ := (write_eq_ok_iff ..).mp success
  have around := (reaches.ending tree).resolve_left vacant
  have nonempty := ne_root_of_vacant vacant
  have way := reaches.way
  rw [grows.home] at vacant nonempty way around
  have straight : Path.place disk.home path ∉ Path.way disk.home path := fun inside => vacant (way _ inside)
  rw [grows.home]
  have moved : ∀ location, location ≠ Path.place disk.home path →
      (between.put (Path.place disk.home path) (.file content)).node? location = between.node? location := by
    intro location different
    rw [node?_put between nonempty, if_neg different]
  refine ⟨grows.home, grows.process, tree.put vacant around.2 _, ⟨reaches.legal, ?_, ?_, straight⟩, ?_, ?_, ?_⟩
  · intro location inside file onWay
    have directory := way location inside
    rw [grows.file.mpr onWay] at directory
    cases directory
  · exact fun directory => vacant (grows.directory directory)
  · rw [node?_put between nonempty, if_pos rfl]
  · intro location inside
    rw [moved location fun same => straight (same ▸ inside)]
    exact way location inside
  · intro location different outside
    rw [moved location different]
    exact grows.elsewhere outside

/-- What is left of a file that was to be put at a path. -/
inductive DepositResult (disk : Disk) (path : String) (content : ByteArray) :
    Except MigrationError Unit × Disk → Prop
  | done {after : Disk} (deposited : Deposited path content disk after) :
      DepositResult disk path content (.ok (), after)
  | failed {after : Disk} (error : MigrationError) (tree : after.IsTree)
      (grows : Grows (Path.way disk.home path) disk after) : DepositResult disk path content (.error error, after)

theorem depositResult {disk : Disk} (tree : disk.IsTree) (path : String) (content : ByteArray) :
    DepositResult disk path content (disk.deposit path content) := by
  have finish {between : Disk} (tree : between.IsTree) (grows : Grows (Path.way disk.home path) disk between) :
      DepositResult disk path content (deposit.finish path content between) := by
    unfold deposit.finish
    split
    next after success => exact .done (deposited_of_write tree grows success)
    next fault failed => exact .failed _ tree grows
  unfold deposit
  split
  · exact finish tree (.refl _ _)
  next nearest parent =>
    have parent := Path.parent_of_parent? disk.home parent
    obtain ⟨grows, treeMade, _⟩ := made_makeDirectories tree parent
    split
    next fault after failed =>
      rw [failed] at grows treeMade
      exact .failed _ treeMade (grows.mono parent.inside)
    next between made =>
      rw [made] at grows treeMade
      exact finish treeMade (grows.mono parent.inside)

theorem isTree_deposit {disk : Disk} (tree : disk.IsTree) (path : String) (content : ByteArray) :
    (disk.deposit path content).2.IsTree := by
  have result := depositResult tree path content
  generalize disk.deposit path content = left at result
  cases result with
  | done deposited => exact deposited.tree
  | failed _ tree _ => exact tree

/-- A disk with some texts at paths, as far as they can be put there one after the other. -/
def holding (texts : List (String × String)) : Disk :=
  texts.foldl (fun disk entry => (disk.deposit entry.1 entry.2.toUTF8).2) (empty "1")

theorem isTree_holding (texts : List (String × String)) : (holding texts).IsTree := by
  have start : (empty "1").IsTree := by
    refine ⟨rfl, fun location there => ?_⟩
    match location with
    | [] => rfl
    | [_] => rfl
    | _ :: _ :: _ => simp [empty, node?, List.lookup_cons] at there
  unfold holding
  generalize empty "1" = disk at start
  induction texts generalizing disk with
  | nil => exact start
  | cons entry texts ih => exact ih _ (isTree_deposit start _ _)

/-- A file is put at every path that accepts one. -/
theorem Accepts.deposit {disk : Disk} (tree : disk.IsTree) {path : String} (accepts : disk.Accepts path)
    (content : ByteArray) : ∃ after, disk.deposit path content = (.ok (), after) := by
  have finish {between : Disk} (grows : Grows (Path.way disk.home path) disk between)
      (way : ∀ location ∈ Path.way disk.home path, between.node? location = some .directory) :
      ∃ after, deposit.finish path content between = (.ok (), after) := by
    have reaches : between.Reaches path := ⟨accepts.legal, by rwa [grows.home]⟩
    have vacant : between.node? (Path.place between.home path) ≠ some .directory := by
      rw [grows.home, grows.elsewhere accepts.straight]
      exact accepts.vacant
    refine ⟨between.put (Path.place between.home path) (.file content), ?_⟩
    have written := (write_eq_ok_iff between path content _).mpr ⟨reaches, vacant, rfl⟩
    simp [deposit.finish, written]
  unfold Disk.deposit
  split
  next none =>
    refine finish (.refl _ _) fun location inside => ?_
    rcases Path.way_of_no_parent none location inside with rfl | rfl
    · exact tree.home
    · exact node?_root disk
  next nearest parent =>
    have parent := Path.parent_of_parent? disk.home parent
    have success := makeDirectories_ok tree parent accepts.legal accepts.noFile
    obtain ⟨grows, _, directories⟩ := made_makeDirectories tree parent
    generalize disk.makeDirectories nearest = result at success grows directories
    obtain ⟨_, between⟩ := result
    subst success
    refine finish (grows.mono parent.inside) fun location inside => ?_
    rcases parent.whole location inside with there | same
    · exact directories rfl location there
    · exact absurd (same ▸ inside) accepts.straight

end Disk

end SafeMigration
