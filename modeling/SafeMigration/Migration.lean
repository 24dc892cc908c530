import SafeMigration.Recorder
import SafeMigration.Timeout.Basic

/-!
Migrations, and the record that is kept of what their directions do.

A direction's procedure runs when the direction is first asked for. What it recorded is kept; a run that fails is
not, and the next request runs the procedure again.
-/

namespace SafeMigration

/-- What the run of a procedure with a given number, counted from one, records or fails with. -/
abbrev Procedure := Nat → Except MigrationError (List Instruction)

/-- What a run of a procedure leaves in its recorder, and what it fails with, if it does. -/
structure Attempt where
  recorded : List Instruction
  error? : Option MigrationError := none

/-- What is kept of a run: all that it recorded, or nothing if it failed. -/
def Attempt.result (attempt : Attempt) : Except MigrationError (List Instruction) :=
  match attempt.error? with
  | none => .ok attempt.recorded
  | some e => .error e

/-- The procedure whose runs are these, by their numbers. -/
def Procedure.ofAttempts (attempts : Nat → Attempt) : Procedure := fun number => (attempts number).result

/-- The procedure that makes the same calls each time. -/
def Procedure.ofCalls (direction : Direction) (registry : Registry) (calls : List Call) : Procedure :=
  fun _ =>
    match (Recorder.new direction registry).replay calls with
    | (recorder, none) => .ok recorder.recorded.instructions
    | (_, some e) => .error e

/-- A named schema change with its two directions. -/
structure Migration where
  name : String
  database : Option String := none
  lockTimeout : Option Timeout := none
  statementTimeout : Option Timeout := none
  up : Option Procedure := none
  down : Option Procedure := none

/-- What is known of one direction: how often its procedure ran, and what the successful run recorded. -/
structure Recording where
  runs : Nat := 0
  recorded : Option (List Instruction) := none

/-- What is known of both directions. -/
structure Session where
  up : Recording := {}
  down : Recording := {}

namespace Session

/-- What is known of a direction. -/
def recording (session : Session) : Direction → Recording
  | .up => session.up
  | .down => session.down

/-- Notes what is known of a direction. -/
def note (session : Session) (direction : Direction) (recording : Recording) : Session :=
  match direction with
  | .up => { session with up := recording }
  | .down => { session with down := recording }

end Session

namespace Migration

/-- The procedure of a direction. -/
def procedure? (migration : Migration) : Direction → Option Procedure
  | .up => migration.up
  | .down => migration.down

/-- Whether a direction has a procedure. -/
def implements (migration : Migration) (direction : Direction) : Bool :=
  (migration.procedure? direction).isSome

/-- The instructions of a direction, recorded now unless they are known. -/
def instructions (migration : Migration) (direction : Direction) (session : Session) :
    Except MigrationError InstructionSet × Session :=
  let known := session.recording direction
  match known.recorded with
  | some recorded => (.ok ⟨direction, recorded⟩, session)
  | none =>
    match migration.procedure? direction with
    | none => (.error (.notImplemented migration.name direction), session)
    | some procedure =>
      match procedure (known.runs + 1) with
      | .error e => (.error e, session.note direction ⟨known.runs + 1, none⟩)
      | .ok recorded => (.ok ⟨direction, recorded⟩, session.note direction ⟨known.runs + 1, some recorded⟩)

/-- What both directions need from whoever runs them. The second direction is left alone when the first fails. -/
def capabilities (migration : Migration) (session : Session) :
    Except MigrationError (List Capability) × Session :=
  match migration.instructions .up session with
  | (.error e, session) => (.error e, session)
  | (.ok up, session) =>
    match migration.instructions .down session with
    | (.error e, session) => (.error e, session)
    | (.ok down, session) => (.ok (Capability.ofSets [up, down]), session)

end Migration

end SafeMigration
