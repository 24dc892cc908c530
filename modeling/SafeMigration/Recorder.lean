import SafeMigration.Instruction.Call
import SafeMigration.InstructionSet
import SafeMigration.Registry

/-!
Recording the instructions of one direction.

Each step either adds one instruction or fails and adds none.
-/

namespace SafeMigration

/-- An operation called with arguments. -/
structure Call where
  operation : String
  arguments : Fields

/-- What has been recorded of one direction, and the custom operations that can be called. -/
structure Recorder where
  registry : Registry
  recorded : InstructionSet

namespace Recorder

/-- A recorder that has recorded nothing. -/
def new (direction : Direction) (registry : Registry) : Recorder := ⟨registry, ⟨direction, []⟩⟩

/-- Adds an instruction. -/
def record (recorder : Recorder) (instruction : Instruction) : Recorder :=
  { recorder with
    recorded := { recorder.recorded with
      instructions := recorder.recorded.instructions ++ [instruction] } }

/-- Adds the instruction of a custom operation. -/
def custom (recorder : Recorder) (name : String) (arguments : Fields) : Except MigrationError Recorder :=
  (recorder.registry.construct name arguments).map fun c => recorder.record (.custom c)

/-- Adds the instruction of an operation: a built-in one if the name is built in, else a custom one. -/
def call (recorder : Recorder) (name : String) (arguments : Fields) : Except MigrationError Recorder :=
  match Operation.ofName? name with
  | some operation => (Instruction.ofCall operation arguments).map recorder.record
  | none => recorder.custom name arguments

/-- Makes calls in order up to the first that fails. -/
def replay (recorder : Recorder) : List Call → Recorder × Option MigrationError
  | [] => (recorder, none)
  | c :: calls =>
    match recorder.call c.operation c.arguments with
    | .ok next => next.replay calls
    | .error e => (recorder, some e)

end Recorder

end SafeMigration
