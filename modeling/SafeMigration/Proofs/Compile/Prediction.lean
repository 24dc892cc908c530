import SafeMigration.Proofs.Compile.Run
import SafeMigration.Proofs.Script.Section

/-!
What the check of a source tells of its compilation.

A source that is compiled with nothing remembered is read, parsed and validated as it is for the check. The check does
not look at the database, and it does not write anything out; but a migration without violations can always be written
out, so nothing else can go wrong.
-/

namespace SafeMigration

/-- A migration that may be compiled for a database: one of the two is left open, or both are the same. -/
def Migration.MeantFor (migration : Migration) (database : Option String) : Prop :=
  ∀ requested declared, database = some requested → migration.database = some declared → requested = declared

namespace Compiler

variable {compiler : Compiler} {path : String} {database : Option String} {disk : Disk} {content : ByteArray}
  {migration : Migration} {lockfile : Lockfile}

/-- The migration that a source holds. -/
def migrationAt (compiler : Compiler) (path : String) (disk : Disk) : Except MigrationError Migration := do
  let content ← readSource path disk
  Migration.ofBytes content path compiler.registry

/-- A result of compiling a source that agrees with the check of the source. -/
structure Foretold (compiler : Compiler) (path : String) (database : Option String) (disk : Disk)
    (result : Except MigrationError CompiledFile) : Prop where
  /-- A source that cannot be read fails for that in both. -/
  unread : ∀ fault, disk.read path = .error fault →
    compiler.check path disk = .error (.access path fault) ∧ result = .error (.access path fault)
  /-- So does a source that cannot be parsed. -/
  unparsed : ∀ content e, disk.read path = .ok content →
    Migration.ofBytes content path compiler.registry = .error e →
      (∃ fault, e = .source path fault) ∧ compiler.check path disk = .error e ∧ result = .error e
  /-- A migration for another database is refused, whatever the check says. -/
  misdirected : ∀ migration requested declared, compiler.migrationAt path disk = .ok migration →
    database = some requested → migration.database = some declared → requested ≠ declared →
      result = .error (.databaseMismatch (Path.label path) declared requested)
  /-- Any other migration is compiled if the check lets it pass. -/
  passed : ∀ migration, compiler.migrationAt path disk = .ok migration → migration.MeantFor database →
    compiler.check path disk = .ok () → ∃ file, result = .ok file
  /-- If not, its violations are reported as they are by the check. -/
  rejected : ∀ migration e, compiler.migrationAt path disk = .ok migration → migration.MeantFor database →
    compiler.check path disk = .error e →
      e = .rejected migration.name (migration.validate compiler.config.timeouts {}).1 ∧ result = .error e

theorem migrationAt_of_read (read : disk.read path = .ok content) :
    compiler.migrationAt path disk = Migration.ofBytes content path compiler.registry := by
  rw [migrationAt, readSource_of_read read]
  rfl

theorem read_of_migrationAt (held : compiler.migrationAt path disk = .ok migration) :
    ∃ content, disk.read path = .ok content ∧
      Migration.ofBytes content path compiler.registry = .ok migration := by
  cases read : disk.read path with
  | error fault =>
    rw [migrationAt, readSource, read] at held
    cases held
  | ok content => exact ⟨content, rfl, migrationAt_of_read read ▸ held⟩

/-- The check judges the migration that the source holds. -/
theorem check_eq (compiler : Compiler) (path : String) (disk : Disk) :
    compiler.check path disk = compiler.migrationAt path disk >>= fun migration =>
      requireSafe migration.name (migration.validate compiler.config.timeouts {}).1 := by
  unfold check migrationAt
  cases readSource path disk <;> rfl

theorem check_of_migrationAt (held : compiler.migrationAt path disk = .ok migration) :
    compiler.check path disk =
      requireSafe migration.name (migration.validate compiler.config.timeouts {}).1 := by
  rw [check_eq, held]
  rfl

theorem requireDatabase_of_meantFor (meant : migration.MeantFor database) (file : String) :
    requireDatabase migration file database = .ok () := by
  unfold requireDatabase
  split
  next requested declared declares => rw [if_pos (meant requested declared rfl declares)]
  · rfl

/-- Nothing is remembered of any source, so it is written out anew. -/
theorem compileFile_of_empty (read : disk.read path = .ok content) :
    compiler.compileFile path database [] disk = compiler.rebuild path database content :=
  compileFile_of_due read fun _ known => by cases known

/-- A migration for the database is written out when it has no violations, and else these are reported. -/
theorem rebuild_of_meantFor (parsed : Migration.ofBytes content path compiler.registry = .ok migration)
    (meant : migration.MeantFor database) :
    compiler.rebuild path database content =
      (migration.validated compiler.config.timeouts {}).1 >>= fun valid =>
        (compiler.renderer.render valid).map fun body =>
          compiler.fileWith path database content body valid.capabilities .compiled := by
  rw [rebuild, parsed]
  simp only [bind, Except.bind, requireDatabase_of_meantFor meant, pure, Except.pure]
  split
  · rfl
  next valid _ => cases compiler.renderer.render valid <;> rfl

variable {config : Config} {registry : Registry} {path : String} {database : Option String} {disk : Disk}
  {lockfile : Lockfile}

/-- What a source is compiled to with nothing remembered agrees with its check. -/
theorem foretold_compileFile (config : Config) (registry : Registry) (path : String) (database : Option String)
    (disk : Disk) :
    Foretold { config, registry } path database disk
      (compileFile { config, registry } path database [] disk) := by
  constructor
  case unread =>
    intro fault failed
    refine ⟨?_, compileFile_of_unread failed⟩
    rw [check, readSource, failed]
    rfl
  case unparsed =>
    intro content e read failed
    refine ⟨?_, ?_, ?_⟩
    · unfold Migration.ofBytes MigrationSource.ofBytes at failed
      cases parsed : Yaml.ofBytes MigrationSource.read content with
      | error fault =>
        rw [parsed] at failed
        exact ⟨fault, (Except.error.inj failed).symm⟩
      | ok source =>
        rw [parsed] at failed
        cases failed
    · rw [check_eq, migrationAt_of_read read, failed]
      rfl
    · rw [compileFile_of_empty read, rebuild, failed]
      rfl
  case misdirected =>
    intro migration requested declared held asked declares different
    obtain ⟨content, read, parsed⟩ := read_of_migrationAt held
    have refused : requireDatabase migration (Path.label path) database =
        .error (.databaseMismatch (Path.label path) declared requested) := by
      simp only [requireDatabase, asked, declares, if_neg different]
    rw [compileFile_of_empty read, rebuild, parsed]
    simp only [bind, Except.bind, refused]
  case passed =>
    intro migration held meant safe
    obtain ⟨content, read, parsed⟩ := read_of_migrationAt held
    rw [check_of_migrationAt held] at safe
    obtain ⟨valid, handed⟩ := Migration.exists_validated (requireSafe_eq_ok_iff.mp safe)
    obtain ⟨parts, rendered, -⟩ := exists_sections handed
    rw [compileFile_of_empty read, rebuild_of_meantFor parsed meant, handed]
    exact ⟨_, congrArg (Except.map _) rendered⟩
  case rejected =>
    intro migration e held meant refused
    obtain ⟨content, read, parsed⟩ := read_of_migrationAt held
    rw [check_of_migrationAt held] at refused
    obtain ⟨unhanded, same⟩ := Migration.validated_of_unsafe refused
    refine ⟨same, ?_⟩
    rw [compileFile_of_empty read, rebuild_of_meantFor parsed meant, unhanded]
    rfl

/-- The check of a source tells what compiling it alone gives when nothing is remembered, and a migration that was
validated can always be written out. -/
theorem check_foretells_compile (config : Config) (registry : Registry) (path : String) (database : Option String)
    (empty : lockfile.entries disk = .ok []) :
    (∃ result, compile { config, registry } [path] database lockfile disk =
          .ok ⟨[result.mapError (FileFailure.mk (Path.label path) path)]⟩ ∧
        Foretold { config, registry } path database disk result) ∧
      ∀ (migration : Migration) timeouts session valid, (migration.validated timeouts session).1 = .ok valid →
        ∃ body, Renderer.postgres.render valid = .ok body := by
  refine ⟨⟨_, compile_single _ path database empty, foretold_compileFile config registry path database disk⟩, ?_⟩
  intro migration timeouts session valid success
  obtain ⟨parts, rendered, -⟩ := exists_sections success
  exact ⟨_, rendered⟩

/-- A migration of one database that drops an index without saying which. -/
def whicheverIndex : Disk :=
  .holding [("m/drop.yml", "database: shop\nup:\n- op: remove_index\n  table: users\ndown: []\n")]

/-- Compiled for that database it is refused as it is by the check. -/
theorem check_foretells_compile_whicheverIndex :
    Lockfile.entries { path := "oxide-guard.lock" } whicheverIndex = .ok [] ∧
      ∃ violations, check {} "m/drop.yml" whicheverIndex = .error (.rejected "drop" violations) ∧
        compile {} ["m/drop.yml"] (some "shop") { path := "oxide-guard.lock" } whicheverIndex =
          .ok ⟨[.error ⟨"drop.yml", "m/drop.yml", .rejected "drop" violations⟩]⟩ := by
  have empty : Lockfile.entries { path := "oxide-guard.lock" } whicheverIndex = .ok [] := by decide +kernel
  obtain ⟨⟨result, compiled, foretold⟩, -⟩ := check_foretells_compile {} {} "m/drop.yml" (some "shop") empty
  have known : (migrationAt {} "m/drop.yml" whicheverIndex).toOption.map
      (fun migration => (migration.name, migration.database)) = some ("drop", some "shop") := by decide +kernel
  obtain ⟨migration, held, names⟩ := Option.map_eq_some_iff.mp known
  obtain ⟨named, declared⟩ := Prod.mk.inj names
  have held : migrationAt {} "m/drop.yml" whicheverIndex = .ok migration := by
    cases parsed : migrationAt {} "m/drop.yml" whicheverIndex <;> rw [parsed] at held <;> cases held
    rfl
  have meant : migration.MeantFor (some "shop") := by
    rintro _ _ ⟨⟩ declares
    exact Option.some.inj (declared.symm.trans declares)
  have notSafe : check {} "m/drop.yml" whicheverIndex ≠ .ok () := by decide +kernel
  cases refused : check {} "m/drop.yml" whicheverIndex with
  | ok _ => exact absurd refused notSafe
  | error e =>
    obtain ⟨rfl, failed⟩ := foretold.rejected migration e held meant refused
    rw [named] at failed ⊢
    exact ⟨empty, _, rfl, by rw [compiled, failed]; rfl⟩

end Compiler

end SafeMigration
