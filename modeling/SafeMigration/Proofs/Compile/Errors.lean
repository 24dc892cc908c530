import SafeMigration.Proofs.Compile.Results
import SafeMigration.Proofs.Recorder

/-!
Writing out a source says nothing of outputs: neither that one was changed nor that one is claimed twice.

The reading of a migration, its recording, its validation and its rendering fail with errors of their own. So an
integrity violation comes from comparing digests and from nothing else, and a collision from comparing sources.
-/

namespace SafeMigration

/-- Whether an error is about an output: it was changed, or several sources claim it. -/
def MigrationError.isAboutOutput : MigrationError → Bool
  | integrity .. | outputCollision .. => true
  | _ => false

/-- A result that says nothing of an output. -/
structure Benign {α : Type} (result : Except MigrationError α) : Prop where
  other : ∀ error, result = .error error → error.isAboutOutput = false

namespace Benign

variable {α β : Type} {result : Except MigrationError α}

theorem ok (value : α) : Benign (.ok value) := ⟨fun _ failed => by cases failed⟩

theorem error {error : MigrationError} (benign : error.isAboutOutput = false) :
    Benign (.error error : Except MigrationError α) := ⟨fun _ failed => by
  cases failed
  exact benign⟩

/-- Such a result does not say that an output was changed. -/
theorem unchanged (benign : Benign result) {error : MigrationError} (failed : result = .error error) :
    error.isIntegrityViolation = false := by
  have other := benign.other error failed
  cases error <;> first | rfl | cases other

theorem map (benign : Benign result) (f : α → β) : Benign (result.map f) := by
  cases result with
  | error e => exact .error (benign.other e rfl)
  | ok value => exact .ok (f value)

theorem bind (benign : Benign result) {next : α → Except MigrationError β} (later : ∀ value, Benign (next value)) :
    Benign (result >>= next) := by
  cases result with
  | error e => exact .error (benign.other e rfl)
  | ok value => exact later value

theorem mapError {ε : Type} {wrap : ε → MigrationError} (benign : ∀ fault, (wrap fault).isAboutOutput = false)
    (result : Except ε α) : Benign (result.mapError wrap) := by
  cases result with
  | error fault => exact .error (benign fault)
  | ok value => exact .ok value

theorem mapM {f : α → Except MigrationError β} (benign : ∀ value, Benign (f value)) (values : List α) :
    Benign (values.mapM f) := by
  induction values with
  | nil => exact .ok []
  | cons value values ih =>
    rw [List.mapM_cons]
    exact (benign value).bind fun _ => ih.bind fun _ => .ok _

end Benign

/-- A direction fails by the first call that does. -/
theorem benign_ofCalls (direction : Direction) (registry : Registry) (calls : List Call) (run : Nat) :
    Benign (Procedure.ofCalls direction registry calls run) := by
  rw [Recorder.ofCalls_eq_mapM]
  refine .mapM (fun call => ⟨fun e failed => ?_⟩) calls
  have recording := Call.isOfRecording_of_instruction failed
  cases e <;> first | rfl | cases recording

/-- A migration whose directions never say that an output was changed. -/
structure Migration.Benign (migration : Migration) : Prop where
  run : ∀ direction procedure, migration.procedure? direction = some procedure →
    ∀ count, SafeMigration.Benign (procedure count)

theorem Migration.Benign.instructions {migration : Migration} (benign : migration.Benign) (direction : Direction)
    (session : Session) : SafeMigration.Benign (migration.instructions direction session).1 := by
  unfold Migration.instructions
  simp only
  split
  · exact .ok _
  · split
    · exact .error rfl
    next procedure found =>
      split
      next e failed => exact .error ((benign.run direction procedure found _).other e failed)
      · exact .ok _

theorem Migration.Benign.capabilities {migration : Migration} (benign : migration.Benign) (session : Session) :
    SafeMigration.Benign (migration.capabilities session).1 := by
  unfold Migration.capabilities
  have up := benign.instructions .up session
  split
  next e after failed =>
    rw [failed] at up
    exact .error (up.other e rfl)
  next after recorded =>
    have down := benign.instructions .down after
    split
    next e later failed =>
      rw [failed] at down
      exact .error (down.other e rfl)
    · exact .ok _

theorem Migration.Benign.validated {migration : Migration} (benign : migration.Benign) (config : TimeoutConfig)
    (session : Session) : SafeMigration.Benign (migration.validated config session).1 := by
  unfold Migration.validated
  generalize migration.validate config session = validated
  obtain ⟨violations, session⟩ := validated
  simp only
  split
  next e failed =>
    unfold requireSafe at failed
    split at failed
    · cases failed
    · cases failed
      exact .error rfl
  · have up := benign.instructions .up session
    split
    next e after failed =>
      rw [failed] at up
      exact .error (up.other e rfl)
    next after recorded =>
      have down := benign.instructions .down after
      split
      next e later failed =>
        rw [failed] at down
        exact .error (down.other e rfl)
      · exact .ok _

/-- The migration in a file fails by its calls. -/
theorem benign_of_ofBytes {content : ByteArray} {path : String} {registry : Registry} {migration : Migration}
    (parsed : Migration.ofBytes content path registry = .ok migration) : migration.Benign := by
  unfold Migration.ofBytes at parsed
  cases read : MigrationSource.ofBytes content path with
  | error e =>
    rw [read] at parsed
    cases parsed
  | ok source =>
    rw [read] at parsed
    cases parsed
    refine ⟨fun direction procedure found count => ?_⟩
    cases direction <;>
    · obtain ⟨calls, _, rfl⟩ := Option.map_eq_some_iff.mp found
      exact benign_ofCalls ..

theorem benign_ofBytes (content : ByteArray) (path : String) (registry : Registry) :
    Benign (Migration.ofBytes content path registry) := (Benign.mapError (fun _ => rfl) _).map _

theorem benign_ofInstruction (instruction : Instruction) : Benign (Statement.ofInstruction instruction) := by
  cases instruction with
  | custom call => exact .ok _
  | change table change extra =>
    refine Benign.map ?_ _
    cases change with
    | removeIndex choice =>
      refine Benign.map ?_ _
      unfold Statement.indexToDrop
      split
      · exact .ok _
      · exact .ok _
      · exact .error rfl
    | changeColumnDefault column default => cases default <;> exact .ok _
    | _ => exact .ok _

theorem benign_render (migration : ValidatedMigration) : Benign (Renderer.postgres.render migration) := by
  refine Benign.map (Benign.bind (.mapM (fun direction => ?_) _) fun _ => .ok _) _
  exact (Benign.mapM benign_ofInstruction _).bind fun _ => .ok _

/-- What is known of a source can fail to be found out only for an output that cannot be read. -/
theorem benign_detect (record : Option DigestRecord) (source : Digest) (output : String) (disk : Disk) :
    Benign (FileStatus.detect record source output disk) := by
  unfold FileStatus.detect
  split
  · exact .ok _
  · split
    · exact .ok _
    · split
      · exact .ok _
      · split
        · exact .error rfl
        · exact .ok _

namespace Compiler

variable {compiler : Compiler}

theorem benign_reuse (path : String) (database : Option String) (content : ByteArray) (body : String) :
    Benign (compiler.reuse path database content body) := by
  unfold reuse
  cases parsed : Migration.ofBytes content path compiler.registry with
  | error e => exact .error ((benign_ofBytes ..).other e parsed)
  | ok migration => exact ((benign_of_ofBytes parsed).capabilities {}).bind fun _ => .ok _

theorem benign_requireDatabase (migration : Migration) (file : String) (database : Option String) :
    Benign (requireDatabase migration file database) := by
  unfold requireDatabase
  split
  · split
    · exact .ok _
    · exact .error rfl
  · exact .ok _

/-- A source that is not written out fails by itself, or by the renderer. -/
theorem error_of_rebuild {path : String} {database : Option String} {content : ByteArray} {e : MigrationError}
    (failed : compiler.rebuild path database content = .error e) :
    e.isAboutOutput = false ∨ ∃ valid, compiler.renderer.render valid = .error e := by
  simp only [rebuild, bind_eq_error_iff] at failed
  rcases failed with unparsed | ⟨migration, parsed, refused | ⟨_, -, invalid | ⟨valid, -, unrendered | ⟨_, -, done⟩⟩⟩⟩
  · exact .inl ((benign_ofBytes ..).other e unparsed)
  · exact .inl ((benign_requireDatabase ..).other e refused)
  · exact .inl (((benign_of_ofBytes parsed).validated _ {}).other e invalid)
  · exact .inr ⟨valid, unrendered⟩
  · cases done

/-- A source is written out or fails by itself, if that is so for the renderer. -/
theorem benign_rebuild (rendered : ∀ migration, Benign (compiler.renderer.render migration)) (path : String)
    (database : Option String) (content : ByteArray) : Benign (compiler.rebuild path database content) := by
  refine ⟨fun e failed => ?_⟩
  rcases error_of_rebuild failed with benign | ⟨valid, failed⟩
  · exact benign
  · exact (rendered valid).other e failed

end Compiler

end SafeMigration
