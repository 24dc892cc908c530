import SafeMigration.Proofs.Disk.Beside
import SafeMigration.Proofs.Lockfile.Save

/-!
Opening a lockfile again after it was saved.

The temporary file lies beside the lockfile under a name of its own, so a saving that is possible at all succeeds, and
what it leaves is read back as what was meant. Nothing that the first saving has done stands against a second one, and
as the ledger is the same, so is every byte.
-/

namespace SafeMigration

namespace Lockfile

variable {lockfile : Lockfile} {path : String} {ledger : Ledger} {disk before between after : Disk}

/-- A ledger is in order if the one that is remembered is. -/
theorem ordered_of_entries (ordered : ∀ known, lockfile.known = some known → Entries.Ordered known)
    (entries : lockfile.entries disk = .ok ledger) : Entries.Ordered ledger := by
  unfold Lockfile.entries at entries
  cases remembered : lockfile.known with
  | some known =>
    rw [remembered] at entries
    cases entries
    exact ordered ledger remembered
  | none =>
    rw [remembered] at entries
    exact ordered_of_read entries

/-- Where a lockfile was saved it can be saved again. -/
theorem Saved.ready (saved : Saved path ledger before after) (ready : Ready path before) : Ready path after := by
  have temporary : temporaryPlace path after = temporaryPlace path before :=
    temporaryPlace_congr saved.home saved.process
  have way := saved.reaches.way
  have directory (location : Location) (directory : before.node? location = some .directory) :
      after.node? location = some .directory :=
    saved.kept (fun same => ready.vacant (same ▸ directory)) (fun same => ready.vacantTemporary (same ▸ directory))
      directory
  constructor
  case legal => exact ready.legal
  case noFile =>
    intro location onWay content file
    rw [way location onWay] at file
    cases file
  case vacant =>
    rw [saved.home, saved.file]
    simp
  case straight =>
    rw [saved.home]
    exact ready.straight
  case bare => exact ready.bare
  case named => exact ready.named
  case legalTemporary =>
    rw [saved.process]
    exact ready.legalTemporary
  case wayTemporary =>
    rw [saved.home, saved.process]
    exact fun location onWay => (ready.wayTemporary location onWay).imp_left (directory location)
  case vacantTemporary =>
    rw [temporary, saved.temporary]
    simp
  case straightTemporary =>
    rw [temporary, saved.home]
    exact ready.straightTemporary

/-- A ledger that is saved once more leaves the disk as it was. -/
theorem Saved.node_again (first : Saved path ledger before between) (second : Saved path ledger between after)
    (location : Location) : after.node? location = between.node? location := by
  by_cases here : location = Path.place between.home path
  · rw [here, second.file, first.home, first.file]
  by_cases temporary : location = temporaryPlace path between
  · rw [temporary, second.temporary, temporaryPlace_congr first.home first.process, first.temporary]
  rcases second.node location here temporary with same | ⟨absent, _, onWay⟩
  · exact same
  · rw [first.reaches.way location onWay] at absent
    cases absent

/-- The name of the temporary file is a name whatever the lockfile is called. -/
theorem isName_temporary {name process : String} (plainName : '/' ∉ name.toList) (plain : '/' ∉ process.toList) :
    Path.IsName (name ++ "." ++ process ++ ".tmp") := by
  have long : 5 ≤ (name ++ "." ++ process ++ ".tmp").toList.length := by
    simp
    omega
  refine ⟨?_, ?_, ?_, by simp [plainName, plain]⟩ <;> intro same <;> simp [same] at long

/-- A name that does not hold a slash is gone to from any path. -/
theorem place_join_name {name : String} (isName : Path.IsName name) (home : Location) (path : String) :
    Path.place home (Path.join path name) = name :: Path.place home path := by
  rw [Path.place_join isName.plain]
  simp [Location.step, isName.nonempty, isName.notDot, isName.notDots]

/-- The temporary file of a lockfile with a name lies beside it. -/
theorem temporaryPlace_of_fileName? {name : String} (named : Path.fileName? path = some name)
    (plain : '/' ∉ disk.process.toList) :
    temporaryPlace path disk =
      (name ++ "." ++ disk.process ++ ".tmp") :: Path.place disk.home (Path.around path) := by
  have isName := isName_temporary (Path.isName_of_fileName? named).plain plain
  rw [temporaryPlace, temporaryOf, temporaryPath, Path.withFileName, named]
  exact place_join_name isName ..

/-- That of a lockfile without a name would lie in it. -/
theorem temporaryPlace_of_unnamed (unnamed : Path.fileName? path = none) (plain : '/' ∉ disk.process.toList) :
    temporaryPlace path disk = ("." ++ disk.process ++ ".tmp") :: Path.place disk.home path := by
  have isName : Path.IsName ("" ++ "." ++ disk.process ++ ".tmp") := isName_temporary (by simp) plain
  rw [temporaryPlace, temporaryOf, temporaryPath, Path.withFileName, unnamed]
  exact place_join_name isName ..

/-- Wherever the lockfile is, the temporary file is somewhere else. -/
theorem place_ne_temporaryPlace (path : String) (plain : '/' ∉ disk.process.toList) :
    Path.place disk.home path ≠ temporaryPlace path disk := by
  cases named : Path.fileName? path with
  | none =>
    rw [temporaryPlace_of_unnamed named plain]
    exact (List.cons_ne_self _ _).symm
  | some name =>
    rw [temporaryPlace_of_fileName? named plain, Path.place_of_fileName? named]
    intro same
    have lengths := congrArg (fun text : String => text.toList.length) (List.cons.inj same).1
    simp at lengths

/-- What saving a lockfile leaves, without a word about the temporary file. -/
theorem saveResult_of_plain (tree : disk.IsTree) (plain : '/' ∉ disk.process.toList)
    (known : lockfile.entries disk = .ok ledger) : SaveResult lockfile.path ledger disk (lockfile.save disk) :=
  saveResult tree known (place_ne_temporaryPlace lockfile.path plain)

theorem save_eq_ok_iff (tree : disk.IsTree) (plain : '/' ∉ disk.process.toList)
    (known : lockfile.entries disk = .ok ledger) : (lockfile.save disk).1 = .ok () ↔ Ready lockfile.path disk := by
  constructor
  · intro success
    have result := saveResult_of_plain tree plain known
    generalize lockfile.save disk = saving at success result
    cases result with
    | done ready _ => exact ready
    | failed error _ => cases success
  · intro ready
    obtain ⟨after, success⟩ := ready.save tree known (place_ne_temporaryPlace lockfile.path plain)
    rw [success]

/-- A lockfile that was saved can be opened and saved once more. -/
theorem Saved.again (saved : Saved path ledger before after) (ready : Ready path before)
    (plain : '/' ∉ before.process.toList) (known : Lockfile.read path after = .ok ledger) :
    let opened : Lockfile := { path }
    ∃ final, opened.save after = (.ok (), final) ∧ Saved path ledger after final := by
  intro opened
  have entries : opened.entries after = .ok ledger := known
  rw [← saved.process] at plain
  have success := (save_eq_ok_iff saved.tree plain entries).mpr (saved.ready ready)
  have result := saveResult_of_plain saved.tree plain entries
  generalize opened.save after = saving at success result
  cases result with
  | done _ second => exact ⟨_, rfl, second⟩
  | failed error _ => cases success

/-- The ledger of a lockfile outlasts that it is saved and opened again. Whatever is put into it, or was read from a
file that can be read at all, it is saved wherever that is possible; then opening the file again gives the same ledger,
and saving that one leaves every byte as it is. -/
theorem reload_of_save (tree : disk.IsTree) (plain : '/' ∉ disk.process.toList)
    (ordered : ∀ known, lockfile.known = some known → Entries.Ordered known)
    (entries : lockfile.entries disk = .ok ledger) :
    ((lockfile.save disk).1 = .ok () ↔ Ready lockfile.path disk) ∧
      ∀ after, lockfile.save disk = (.ok (), after) →
        let opened : Lockfile := { path := lockfile.path }
        after.read lockfile.path = .ok ledger.text.toUTF8 ∧ opened.entries after = .ok ledger ∧
          ∃ final, opened.save after = (.ok (), final) ∧ final.read lockfile.path = after.read lockfile.path ∧
            ∀ location, final.node? location = after.node? location := by
  refine ⟨save_eq_ok_iff tree plain entries, fun after success => ?_⟩
  have result := saveResult_of_plain tree plain entries
  rw [success] at result
  cases result with
  | done ready saved =>
    have again : Lockfile.read lockfile.path after = .ok ledger := saved.read (ordered_of_entries ordered entries)
    obtain ⟨final, successAgain, second⟩ := saved.again ready plain again
    exact ⟨saved.content, again, final, successAgain, second.content.trans saved.content.symm, saved.node_again second⟩

/-- Records under keys that have to be escaped, with digests that are none, one of them without a database. -/
def oddRecords : Ledger :=
  [("", ⟨⟨"\u0000"⟩, ⟨"\\"⟩, some "a/b"⟩), ("\n\"\\\t\u001f", ⟨⟨"0f"⟩, ⟨"😀"⟩, none⟩), ("é", ⟨⟨""⟩, ⟨""⟩, some ""⟩),
    ("😀/x.yml", ⟨⟨"\""⟩, ⟨"\u007f"⟩, some "\u2028"⟩)]

/-- They are given back after they were saved in a directory that was not there. -/
theorem reload_of_save_oddRecords :
    let lockfile : Lockfile := { path := "state/../locks/guard.lock", known := some oddRecords }
    let disk := Disk.holding [("state/kept.txt", "kept")]
    disk.IsTree ∧ '/' ∉ disk.process.toList ∧ Entries.Ordered oddRecords ∧ lockfile.entries disk = .ok oddRecords ∧
      ∃ after, lockfile.save disk = (.ok (), after) ∧
        ({ path := lockfile.path } : Lockfile).entries after = .ok oddRecords := by
  intro lockfile disk
  have tree : disk.IsTree := Disk.isTree_holding _
  have plain : '/' ∉ disk.process.toList := by decide +kernel
  have ordered : Entries.Ordered oddRecords := by unfold Entries.Ordered; decide +kernel
  have entries : lockfile.entries disk = .ok oddRecords := rfl
  obtain ⟨-, reload⟩ := reload_of_save tree plain (fun known same => by cases same; exact ordered) entries
  obtain ⟨after, saved⟩ : ∃ after, lockfile.save disk = (.ok (), after) := ⟨_, Prod.ext (by decide +kernel) rfl⟩
  obtain ⟨-, opened, -⟩ := reload after saved
  exact ⟨tree, plain, ordered, entries, after, saved, opened⟩

end Lockfile

end SafeMigration
