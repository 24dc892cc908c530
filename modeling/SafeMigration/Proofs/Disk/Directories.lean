import SafeMigration.Proofs.Disk.Change

/-!
Making the directories on the way to a path.

The directories around a path ascend to where paths start: the way of each is the way of the one around it and its
place. So the missing ones can be made from the outermost on, and nothing but a file on the way or a name that is too
long can stand against it.
-/

namespace SafeMigration

namespace Path

/-- A path that goes on from another by one name. -/
structure Leads (home : Location) (around path : String) : Prop where
  way : ∀ location, location ∈ way home path ↔ location ∈ way home around ∨ location = place home around
  legal : Legal path → around = "" ∨ Legal around

/-- Paths that each go on from the next. The last is where paths start. -/
inductive Ascent (home : Location) : List String → Prop
  | start : Ascent home [""]
  | root : Ascent home ["/"]
  | step {path around : String} {further : List String} (leads : Leads home around path) (nonempty : path ≠ "")
      (bare : withoutEndingSlashes path = path) (ascent : Ascent home (around :: further)) :
      Ascent home (path :: around :: further)

/-- What is read so far of a path leads where another path does: each name goes on from there. -/
structure Behind (home : Location) (around : String) (done : List Char) : Prop where
  leads : ∀ name, '/' ∉ name → Leads home around (String.ofList (done ++ name))
  place : ∀ name, '/' ∉ name →
    Path.place home (String.ofList (done ++ name)) = (Path.place home around).step (String.ofList name)

theorem leads_append {before : List Char} (nonempty : before ≠ []) (home : Location) {name : List Char}
    (plain : '/' ∉ name) : Leads home (String.ofList before) (String.ofList (before ++ '/' :: name)) := by
  refine ⟨fun location => ?_, fun legal => .inr (legal.of_append nonempty)⟩
  rw [way_append nonempty, segments_plain plain, List.mem_append]
  exact or_congr_right List.mem_singleton

theorem place_append_name {before : List Char} (nonempty : before ≠ []) (home : Location) {name : List Char}
    (plain : '/' ∉ name) : place home (String.ofList (before ++ '/' :: name)) =
      (place home (String.ofList before)).step (String.ofList name) := by
  rw [place_append nonempty, segments_plain plain]
  rfl

theorem Behind.slash {home : Location} {before : List Char} (nonempty : before ≠ []) :
    Behind home (String.ofList before) (before ++ ['/']) := by
  refine ⟨fun name plain => ?_, fun name plain => ?_⟩
  · rw [List.append_assoc]
    exact leads_append nonempty home plain
  · rw [List.append_assoc]
    exact place_append_name nonempty home plain

/-- A part that says nothing leaves a path where it is. -/
theorem Behind.skip {home : Location} {around : String} {done part : List Char} (behind : Behind home around done)
    (nonempty : done ++ part ≠ []) (empty : part = [] ∨ part = ['.']) :
    Behind home around (done ++ part ++ ['/']) := by
  have plainPart : '/' ∉ part := by rcases empty with rfl | rfl <;> simp
  have stays : (Path.place home around).step (String.ofList part) = Path.place home around := by
    rcases empty with rfl | rfl <;> simp [Location.step]
  have samePlace := behind.place part plainPart
  rw [stays] at samePlace
  refine ⟨fun name plain => ?_, fun name plain => ?_⟩
  · have leads := leads_append nonempty home plain
    have sameWay := behind.leads part plainPart
    rw [List.append_assoc, List.singleton_append]
    refine ⟨fun location => ?_, fun legal => sameWay.legal (legal.of_append nonempty)⟩
    rw [leads.way, sameWay.way, samePlace, or_assoc, or_self]
  · rw [List.append_assoc, List.singleton_append, place_append_name nonempty home plain, samePlace]

theorem withoutEndingSlashes_append {before name : List Char} (nonempty : name ≠ []) (plain : '/' ∉ name) :
    withoutEndingSlashes (String.ofList (before ++ name)) = String.ofList (before ++ name) := by
  obtain rfl | ⟨front, c, rfl⟩ := List.eq_nil_or_concat name
  · exact absurd rfl nonempty
  have other : c ≠ '/' := fun same => plain (by simp [same])
  simp [withoutEndingSlashes, other]

theorem component?_eq_none {first : Bool} {part : List Char} (none : component? first part = none) :
    part = [] ∨ part = ['.'] := by
  unfold component? at none
  grind

/-- A component goes on from the one before. -/
theorem Ascent.component {home : Location} {first : Bool} {done part : List Char} {around : String}
    {further : List String} (ascent : Ascent home (around :: further)) (behind : Behind home around done)
    (plain : '/' ∉ part) (found : component? first part ≠ none) :
    Ascent home (String.ofList (done ++ part) :: around :: further) := by
  have nonempty : part ≠ [] := fun same => found (by simp [same, component?])
  refine .step (behind.leads part plain) ?_ (withoutEndingSlashes_append nonempty plain) ascent
  simp [← String.toList_inj, nonempty]

/-- The components of a path, the last first, ascend to where it starts. The path leads to the last component; what it
may have behind it says nothing. -/
theorem ascent_scan {home : Location} (first : Bool) {position : Nat} {text done pending cs : List Char}
    {around : String} {further : List String} (whole : text = done ++ pending.reverse ++ cs)
    (here : position = done.length + pending.length) (ascent : Ascent home (around :: further))
    (behind : Behind home around done) (plain : '/' ∉ pending)
    (relative : done ≠ [] ∨ pending ≠ [] ∨ cs.head? ≠ some '/') :
    ∃ top rest, ((scan first position pending cs).map fun span => String.ofList (text.take span.2)).reverse ++
        around :: further = top :: rest ∧ Ascent home (top :: rest) ∧
      (String.ofList text = top ∨
        Leads home top (String.ofList text) ∧ Path.place home (String.ofList text) = Path.place home top) := by
  have plainPart : '/' ∉ pending.reverse := by simpa using plain
  have taken : text.take position = done ++ pending.reverse := by
    rw [whole]
    exact List.take_left' (by simp [here])
  induction cs generalizing first position done pending around further with
  | nil =>
    rw [List.append_nil] at whole
    cases found : component? first pending.reverse with
    | none =>
      refine ⟨around, further, by simp [scan, found], ascent, .inr ?_⟩
      have stays : (Path.place home around).step (String.ofList pending.reverse) = Path.place home around := by
        rcases component?_eq_none found with same | same <;> simp [same, Location.step]
      rw [whole]
      exact ⟨behind.leads _ plainPart, (behind.place _ plainPart).trans stays⟩
    | some component =>
      refine ⟨String.ofList text, around :: further, ?_, ?_, .inl rfl⟩
      · rw [scan, found, Option.map_some, Option.toList_some, List.map_singleton, List.reverse_singleton, taken,
          ← whole]
        rfl
      · rw [whole]
        have there : component? first pending.reverse ≠ none := by simp [found]
        exact ascent.component behind plainPart there
  | cons c cs ih =>
    by_cases slash : c = '/'
    · subst slash
      have nonempty : done ++ pending.reverse ≠ [] := by
        rcases relative with left | right | same
        · simp [left]
        · simp [right]
        · simp at same
      have whole' : text = (done ++ pending.reverse ++ ['/']) ++ [].reverse ++ cs := by simp [whole]
      have here' : position + 1 = (done ++ pending.reverse ++ ['/']).length + ([] : List Char).length := by
        simp [here, Nat.add_assoc]
      have taken' : text.take (position + 1) = (done ++ pending.reverse ++ ['/']) ++ [].reverse := by
        rw [whole']
        exact List.take_left' (by simp [here, Nat.add_assoc])
      cases found : component? first pending.reverse with
      | none =>
        have behind' := behind.skip nonempty (component?_eq_none found)
        simpa [scan, found] using
          ih false whole' here' ascent behind' (by simp) (.inl (by simp)) (by simp) taken'
      | some component =>
        have there : component? first pending.reverse ≠ none := by simp [found]
        obtain ⟨top, rest, split, result⟩ := ih false whole' here' (ascent.component behind plainPart there)
          (.slash nonempty) (by simp) (.inl (by simp)) (by simp) taken'
        refine ⟨top, rest, ?_, result⟩
        simp only [scan, beq_self_eq_true, if_true, found, Option.map_some, Option.toList_some, List.singleton_append,
          List.map_cons, List.reverse_cons, taken, List.append_assoc]
        exact split
    · have plain' : '/' ∉ c :: pending := by simp [plain, Ne.symm slash]
      have whole' : text = done ++ (c :: pending).reverse ++ cs := by simp [whole]
      have taken' : text.take (position + 1) = done ++ (c :: pending).reverse := by
        rw [whole']
        exact List.take_left' (by simp [here, Nat.add_assoc])
      simp only [scan, beq_iff_eq, slash, if_false]
      exact ih first whole' (by simp [here, Nat.add_assoc]) ascent behind plain' (.inr (.inl (by simp)))
        (List.mem_reverse.not.mpr plain') taken'

theorem Behind.start (home : Location) : Behind home "" [] := by
  have origin : ∀ name, '/' ∉ name → Path.origin home (String.ofList name) = home := by
    intro name plain
    have relative : isAbsolute (String.ofList name) = false := by
      cases name with
      | nil => rfl
      | cons c cs =>
        have other : c ≠ '/' := fun same => plain (by simp [same])
        simp [isAbsolute, other]
    simp [Path.origin, relative]
  refine ⟨fun name plain => ⟨fun location => ?_, fun _ => .inl rfl⟩, fun name plain => ?_⟩
  · rw [List.nil_append, way, origin name plain, segments_plain plain]
    change location ∈ [home] ↔ location ∈ [home] ∨ location = home
    simp
  · rw [List.nil_append, Path.place, origin name plain, segments_plain plain]
    rfl

theorem Behind.root (home : Location) : Behind home "/" ['/'] := by
  have origin : ∀ name, Path.origin home (String.ofList (['/'] ++ name)) = [] := fun name => by
    simp [Path.origin, isAbsolute]
  refine ⟨fun name plain => ⟨fun location => ?_, fun _ => .inr ?_⟩, fun name plain => ?_⟩
  · rw [way, origin, show ['/'] ++ name = [] ++ '/' :: name from rfl, segments_append, segments_plain plain]
    change location ∈ [[], []] ↔ location ∈ [[], []] ∨ location = []
    simp
  · exact ⟨by decide, by decide, by decide, by decide⟩
  · rw [Path.place, origin, show ['/'] ++ name = [] ++ '/' :: name from rfl, segments_append, segments_plain plain]
    rfl

/-- The directories around a path ascend to where it starts, and the path goes on from the nearest. -/
theorem ascent_parents (home : Location) (path : String) :
    ∃ top, Ascent home (top :: parents path) ∧
      (path = top ∨ Leads home top path ∧ place home path = place home top) := by
  have tail : ∀ top rest, ((spans path).map fun span => String.ofList (path.toList.take span.2)).reverse ++
      (if isAbsolute path then [] else [""]) = top :: rest → rest = parents path := by
    intro top rest split
    obtain none | ⟨before, last, some⟩ := List.eq_nil_or_concat (spans path)
    · rw [none] at split
      have empty : parents path = [] := by simp [parents, none]
      rw [empty]
      split at split <;> simp_all
    · rw [List.concat_eq_append] at some
      rw [some, List.map_append, List.reverse_append, List.map_singleton, List.reverse_singleton,
        List.singleton_append, List.cons_append] at split
      rw [parents_of_spans some]
      exact (List.cons.inj split).2.symm
  cases absolute : isAbsolute path with
  | false =>
    have head : path.toList.head? ≠ some '/' := by simpa [isAbsolute] using absolute
    have whole : path.toList = [] ++ [].reverse ++ path.toList := rfl
    obtain ⟨top, rest, split, ascent, stops⟩ :=
      ascent_scan true whole rfl .start (.start home) (by simp) (.inr (.inr head))
    rw [String.ofList_toList] at stops
    obtain rfl := tail top rest (by simpa [spans_relative absolute, absolute] using split)
    exact ⟨top, ascent, stops⟩
  | true =>
    obtain ⟨cs, same⟩ := (isAbsolute_iff path).mp absolute
    have whole : path.toList = ['/'] ++ [].reverse ++ cs := by simp [same]
    obtain ⟨top, rest, split, ascent, stops⟩ :=
      ascent_scan false whole rfl .root (.root home) (by simp) (.inl (by simp))
    rw [String.ofList_toList] at stops
    obtain rfl := tail top rest (by simpa [spans_absolute same, absolute, same] using split)
    exact ⟨top, ascent, stops⟩

end Path

namespace Disk

theorem makeDirectory_eq_ok_iff (disk : Disk) {path : String} (bare : Path.withoutEndingSlashes path = path)
    (after : Disk) :
    disk.makeDirectory path = .ok after ↔ disk.Reaches path ∧ disk.node? (Path.place disk.home path) = none ∧
      after = disk.put (Path.place disk.home path) .directory := by
  rw [makeDirectory, bare]
  cases located : disk.locate path with
  | error fault =>
    have missing : ¬ disk.Reaches path := fun reaches => by
      rw [reaches.locate] at located
      cases located
    simp [missing]
  | ok location =>
    obtain ⟨reaches, rfl⟩ := (locate_eq_ok_iff ..).mp located
    cases found : disk.node? (Path.place disk.home path) <;> simp [found, reaches, eq_comm]

/-- What making a directory and those around it does: the outcome, and the disk afterwards. -/
structure Made (disk : Disk) (path : String) (outcome : Except AccessFault Unit) (after : Disk) : Prop where
  grows : Grows (Path.reach disk.home path) disk after
  tree : after.IsTree
  directories : outcome = .ok () → ∀ location ∈ Path.reach disk.home path, after.node? location = some .directory

theorem Reaches.directories {disk : Disk} {path : String} (reaches : disk.Reaches path)
    (directory : disk.node? (Path.place disk.home path) = some .directory) :
    ∀ location ∈ Path.reach disk.home path, disk.node? location = some .directory :=
  List.forall_mem_cons.mpr ⟨directory, reaches.way⟩

/-- Nothing has to be made if the directory is there. -/
theorem made_of_isDirectory {disk : Disk} {path : String} (tree : disk.IsTree) (fault : AccessFault) :
    Made disk path (if disk.isDirectory path then .ok () else .error fault) disk := by
  refine ⟨.refl _ _, tree, fun success => ?_⟩
  split at success
  next directory =>
    obtain ⟨reaches, directory⟩ := (isDirectory_eq_true_iff ..).mp directory
    exact reaches.directories directory
  · cases success

theorem made_of_makeDirectory {disk after : Disk} {path : String} (tree : disk.IsTree)
    (bare : Path.withoutEndingSlashes path = path) (success : disk.makeDirectory path = .ok after) :
    Made disk path (.ok ()) after := by
  obtain ⟨reaches, absent, rfl⟩ := (makeDirectory_eq_ok_iff disk bare after).mp success
  have vacant : disk.node? (Path.place disk.home path) ≠ some .directory := by
    rw [absent]
    exact fun same => nomatch same
  have grows : Grows (Path.reach disk.home path) disk (disk.put (Path.place disk.home path) .directory) :=
    .put absent List.mem_cons_self
  refine ⟨grows, tree.put vacant ((reaches.ending tree).resolve_left vacant).2 _, fun _ => ?_⟩
  refine List.forall_mem_cons.mpr ⟨?_, fun location inside => grows.directory (reaches.way location inside)⟩
  rw [node?_put disk (ne_root_of_vacant vacant), if_pos rfl]

/-- A second attempt after the directories around were made. -/
theorem Made.again {disk between after : Disk} {path : String} {outcome : Except AccessFault Unit}
    (first : Grows (Path.reach disk.home path) disk between) (second : Made between path outcome after) :
    Made disk path outcome after := by
  have grows := second.grows
  rw [first.home] at grows
  refine ⟨first.trans grows, second.tree, fun success => ?_⟩
  have directories := second.directories success
  rwa [first.home] at directories

theorem ensureDirectory_nil (disk : Disk) : disk.ensureDirectory [] = (.ok (), disk) := by rw [ensureDirectory]

/-- Whatever becomes of it, only directories on the way are made; and when it succeeds all of them are there. -/
theorem made_ensureDirectory {disk : Disk} {path : String} {further : List String} (tree : disk.IsTree)
    (ascent : Path.Ascent disk.home (path :: further)) :
    Made disk path (disk.ensureDirectory (path :: further)).1 (disk.ensureDirectory (path :: further)).2 := by
  generalize split : path :: further = paths at ascent
  -- Apart from the directories around, all cases but the start are alike.
  have attempt {path : String} {further : List String} (nonempty : path ≠ "")
      (bare : Path.withoutEndingSlashes path = path)
      (around : Grows (Path.reach disk.home path) disk (disk.ensureDirectory further).2 ∧
        (disk.ensureDirectory further).2.IsTree) :
      Made disk path (disk.ensureDirectory (path :: further)).1 (disk.ensureDirectory (path :: further)).2 := by
    rw [ensureDirectory, if_neg (by simpa [String.isEmpty_iff] using nonempty)]
    split
    next after success => exact made_of_makeDirectory tree bare success
    · obtain ⟨grows, treeAround⟩ := around
      split
      next fault between failed =>
        rw [failed] at grows treeAround
        exact ⟨grows, treeAround, fun success => nomatch success⟩
      next between made =>
        rw [made] at grows treeAround
        split
        next after success => exact .again grows (made_of_makeDirectory treeAround bare success)
        · exact .again grows (made_of_isDirectory treeAround _)
    · exact made_of_isDirectory tree _
  induction ascent generalizing path further with
  | start =>
    cases split
    refine ⟨.refl _ _, tree, fun _ => ?_⟩
    change ∀ location ∈ [disk.home, disk.home], disk.node? location = some .directory
    simpa using tree.home
  | root =>
    cases split
    exact attempt (by decide) (by decide) ⟨by rw [ensureDirectory_nil]; exact .refl _ _, by rwa [ensureDirectory_nil]⟩
  | @step path around further leads nonempty bare ascent ih =>
    cases split
    obtain ⟨grows, treeAround, _⟩ := ih rfl
    have within : ∀ location ∈ Path.reach disk.home around, location ∈ Path.reach disk.home path :=
      fun location inside => List.mem_cons_of_mem _ ((leads.way location).mpr ((List.mem_cons.mp inside).symm))
    exact attempt nonempty bare ⟨grows.mono within, treeAround⟩

/-- Where no file is, a directory is made or there already. -/
theorem Reaches.attempt {disk : Disk} {path : String} (reaches : disk.Reaches path)
    (bare : Path.withoutEndingSlashes path = path)
    (noFile : ∀ content, disk.node? (Path.place disk.home path) ≠ some (.file content)) :
    (∃ after, disk.makeDirectory path = .ok after) ∨
      disk.makeDirectory path = .error .alreadyExists ∧ disk.isDirectory path = true := by
  cases found : disk.node? (Path.place disk.home path) with
  | none => exact .inl ⟨_, (makeDirectory_eq_ok_iff disk bare _).mpr ⟨reaches, found, rfl⟩⟩
  | some node =>
    cases node with
    | file content => exact absurd found (noFile content)
    | directory =>
      refine .inr ⟨?_, (isDirectory_eq_true_iff ..).mpr ⟨reaches, found⟩⟩
      simp [makeDirectory, bare, reaches.locate, found]

/-- Only a file on the way or a text that is too long can keep directories from being made. -/
theorem ensureDirectory_ok {disk : Disk} {path : String} {further : List String} (tree : disk.IsTree)
    (ascent : Path.Ascent disk.home (path :: further)) (legal : path = "" ∨ Path.Legal path)
    (noFile : ∀ location ∈ Path.reach disk.home path, ∀ content, disk.node? location ≠ some (.file content)) :
    (disk.ensureDirectory (path :: further)).1 = .ok () := by
  generalize split : path :: further = paths at ascent
  induction ascent generalizing path further with
  | start =>
    cases split
    rfl
  | root =>
    cases split
    have way : ∀ location ∈ Path.way disk.home "/", disk.node? location = some .directory := by
      change ∀ location ∈ [[], []], disk.node? location = some .directory
      simp [node?_root]
    have reaches : disk.Reaches "/" := ⟨legal.resolve_left (by decide), way⟩
    rw [ensureDirectory, if_neg (by decide)]
    rcases reaches.attempt (by decide) (noFile _ List.mem_cons_self) with ⟨after, made⟩ | ⟨exists_, directory⟩
    · rw [made]
    · rw [exists_]
      simp [directory]
  | @step path around further leads nonempty bare ascent ih =>
    cases split
    have legal := legal.resolve_left nonempty
    rw [ensureDirectory, if_neg (by simpa [String.isEmpty_iff] using nonempty)]
    by_cases reaches : disk.Reaches path
    · rcases reaches.attempt bare (noFile _ List.mem_cons_self) with ⟨after, made⟩ | ⟨exists_, directory⟩
      · rw [made]
      · rw [exists_]
        simp [directory]
    · have noFileOnWay := (List.forall_mem_cons.mp noFile).2
      have missing : disk.makeDirectory path = .error .notFound := by
        rw [makeDirectory, bare, locate_missing legal noFileOnWay reaches]
      have within : ∀ location ∈ Path.reach disk.home around, location ∈ Path.way disk.home path :=
        fun location inside => (leads.way location).mpr (List.mem_cons.mp inside).symm
      have success := ih (leads.legal legal) (fun location inside => noFileOnWay location (within location inside)) rfl
      obtain ⟨grows, _, directories⟩ := made_ensureDirectory tree ascent
      rw [missing]
      generalize disk.ensureDirectory (around :: further) = result at success grows directories
      obtain ⟨_, between⟩ := result
      subst success
      have reachesNow : between.Reaches path := ⟨legal, fun location inside => by
        rw [grows.home] at inside
        exact directories rfl location (List.mem_cons.mpr ((leads.way location).mp inside).symm)⟩
      have noFileNow : ∀ content, between.node? (Path.place between.home path) ≠ some (.file content) := by
        intro content file
        rw [grows.home, grows.file] at file
        exact noFile _ List.mem_cons_self content file
      rcases reachesNow.attempt bare noFileNow with ⟨after, made⟩ | ⟨exists_, directory⟩
      · simp [made]
      · simp [exists_, directory]

end Disk

end SafeMigration
