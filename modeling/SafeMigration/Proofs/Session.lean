import SafeMigration.Proofs.Migration

/-!
Asking for the directions of a migration, again and again.

A request runs the procedure of its direction unless a run has been kept, and it concerns no other direction. So what
a direction records is decided by one run: the first that succeeds, which is kept from then on.
-/

namespace SafeMigration

namespace Session

variable (session : Session) {direction other : Direction} (recording : Recording)

@[simp]
theorem recording_note : (session.note direction recording).recording direction = recording := by
  cases direction <;> rfl

theorem recording_note_of_ne (different : other ≠ direction) :
    (session.note direction recording).recording other = session.recording other := by
  cases direction <;> cases other <;> first | rfl | exact absurd rfl different

end Session

/-- The number of the run that decides on a direction: of the run that was kept, or else of the next one. -/
def Recording.decidingRun (recording : Recording) : Nat :=
  match recording.recorded with
  | some _ => recording.runs
  | none => recording.runs + 1

namespace Migration

/-- The sessions of a migration: nothing is known at first, and more once a direction is asked for. -/
inductive Asked (migration : Migration) : Session → Prop
  | nothing : Asked migration {}
  | next {session : Session} (asked : Asked migration session) (direction : Direction) :
      Asked migration (migration.instructions direction session).2

/-- A direction has a procedure, and the run that decides on it records some instructions. -/
def Records (migration : Migration) (session : Session) (direction : Direction) (recorded : List Instruction) : Prop :=
  ∃ procedure, migration.procedure? direction = some procedure ∧
    procedure (session.recording direction).decidingRun = .ok recorded

variable {migration : Migration} {direction other : Direction} {session before after : Session}

theorem instructions_of_kept {kept : List Instruction}
    (known : (session.recording direction).recorded = some kept) :
    migration.instructions direction session = (.ok ⟨direction, kept⟩, session) :=
  instructions_of_recorded rfl known

theorem instructions_of_absent (unknown : (session.recording direction).recorded = none)
    (absent : migration.procedure? direction = none) :
    migration.instructions direction session = (.error (.notImplemented migration.name direction), session) := by
  simp only [instructions, unknown, absent]

theorem instructions_of_procedure {procedure : Procedure} (unknown : (session.recording direction).recorded = none)
    (present : migration.procedure? direction = some procedure) :
    migration.instructions direction session =
      let run := (session.recording direction).runs + 1
      ((procedure run).map (⟨direction, ·⟩), session.note direction ⟨run, (procedure run).toOption⟩) := by
  simp only [instructions, unknown, present]
  split <;> simp [*, Except.map, Except.toOption]

/-- A request leaves what is known of the other direction. -/
theorem recording_instructions_of_ne (different : other ≠ direction) :
    (migration.instructions direction session).2.recording other = session.recording other := by
  simp only [instructions]
  split
  · rfl
  · split
    · rfl
    · split <;> exact session.recording_note_of_ne _ different

/-- What a request gives depends on what is known of its own direction. -/
theorem instructions_fst_congr (same : before.recording direction = after.recording direction) :
    (migration.instructions direction before).1 = (migration.instructions direction after).1 := by
  simp only [instructions, same]
  split
  · rfl
  · split
    · rfl
    · split <;> rfl

/-- What is kept was recorded by the last run of the procedure. -/
theorem Asked.kept (asked : migration.Asked session) {recorded : List Instruction}
    (known : (session.recording direction).recorded = some recorded) :
    ∃ procedure, migration.procedure? direction = some procedure ∧
      procedure (session.recording direction).runs = .ok recorded := by
  induction asked with
  | nothing => cases direction <;> cases known
  | @next session asked requested ih =>
    by_cases same : direction = requested
    · subst same
      cases before : (session.recording direction).recorded with
      | some earlier =>
        rw [instructions_of_kept before] at known ⊢
        exact ih known
      | none =>
        cases present : migration.procedure? direction with
        | none =>
          rw [instructions_of_absent before present] at known
          rw [before] at known
          cases known
        | some procedure =>
          rw [instructions_of_procedure before present] at known ⊢
          simp only [Session.recording_note] at known ⊢
          refine ⟨procedure, rfl, ?_⟩
          cases run : procedure ((session.recording direction).runs + 1) <;> simp_all [Except.toOption]
    · rw [recording_instructions_of_ne same] at known ⊢
      exact ih known

/-- A request succeeds exactly if the direction has a procedure whose deciding run does. -/
theorem instructions_eq_ok_iff (asked : migration.Asked session) {set : InstructionSet} :
    (migration.instructions direction session).1 = .ok set ↔
      ∃ recorded, migration.Records session direction recorded ∧ set = ⟨direction, recorded⟩ := by
  cases known : (session.recording direction).recorded with
  | some kept =>
    obtain ⟨procedure, present, run⟩ := asked.kept known
    rw [instructions_of_kept known]
    simp [Records, Recording.decidingRun, known, present, run, eq_comm]
  | none =>
    cases present : migration.procedure? direction with
    | none => simp [instructions_of_absent known present, Records, present]
    | some procedure =>
      rw [instructions_of_procedure known present]
      cases run : procedure ((session.recording direction).runs + 1) <;>
        simp [Records, Recording.decidingRun, known, present, run, Except.map, eq_comm]

end Migration

end SafeMigration
