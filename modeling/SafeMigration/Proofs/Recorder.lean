import SafeMigration.Migration
import SafeMigration.Proofs.Failure
import SafeMigration.Proofs.Instruction.Called

/-!
What a recorder holds after steps of which some fail.

A program keeps its recorder when a step fails, and may go on with it. What is to be recorded is settled before anything
is recorded, so a step that fails leaves the recorder as it was, and any other adds one instruction. No name is both
built in and registered, so the name alone decides what a call leads to.
-/

namespace SafeMigration

namespace Registry

variable {templates : Entries Template} {registry start : Registry}

/-- A name that is free to be registered is not built in. -/
theorem register_eq_ok_iff {name : String} {template : Template} : start.register name template = .ok registry ↔
    Operation.ofName? name = none ∧ registry = ⟨Entries.put start.templates name template⟩ := by
  unfold register
  cases Operation.ofName? name <;> simp [eq_comm]

/-- Templates make a registry unless one of them has the name of a built-in operation. -/
theorem ofTemplates_eq_ok_iff : ofTemplates templates = .ok registry ↔
    (∀ entry ∈ templates, Operation.ofName? entry.1 = none) ∧ registry = ⟨Entries.ofPairs templates⟩ := by
  have general : ∀ start : Registry,
      templates.foldlM (fun registry entry => registry.register entry.1 entry.2) start = .ok registry ↔
        (∀ entry ∈ templates, Operation.ofName? entry.1 = none) ∧
          registry = ⟨templates.foldl (fun entries entry => Entries.put entries entry.1 entry.2) start.templates⟩ := by
    induction templates with
    | nil => simp [pure, Except.pure, eq_comm]
    | cons entry templates ih =>
      intro start
      simp only [List.foldlM_cons, bind_eq_ok_iff, register_eq_ok_iff, ih, List.forall_mem_cons, List.foldl_cons]
      constructor
      · rintro ⟨_, ⟨free, rfl⟩, others, rfl⟩
        exact ⟨⟨free, others⟩, rfl⟩
      · rintro ⟨⟨free, others⟩, rfl⟩
        exact ⟨_, ⟨free, rfl⟩, others, rfl⟩
  exact general {}

/-- What is registered are the names of the templates. -/
theorem contains_ofTemplates (built : ofTemplates templates = .ok registry) (name : String) :
    registry.contains name = true ↔ ∃ entry ∈ templates, entry.1 = name := by
  obtain ⟨-, rfl⟩ := ofTemplates_eq_ok_iff.mp built
  exact Entries.has_ofPairs templates name

/-- No built-in operation is registered. -/
theorem contains_name (built : ofTemplates templates = .ok registry) (operation : Operation) :
    registry.contains operation.name = false := by
  refine Bool.eq_false_iff.mpr fun known => ?_
  obtain ⟨entry, member, named⟩ := (contains_ofTemplates built _).mp known
  have free := (ofTemplates_eq_ok_iff.mp built).1 entry member
  rw [named, Operation.ofName?_name] at free
  cases free

end Registry

/-- What calling a built-in operation may come to: an instruction of this operation, or a fault of its arguments. -/
structure Operation.Answers (operation : Operation) (result : Except MigrationError Instruction) : Prop where
  own : ∀ instruction, result = .ok instruction → instruction.operation? = some operation
  refused : ∀ e, result = .error e → ∃ mismatch, e = .invalidArgument operation.name mismatch

namespace Operation.Answers

variable {operation : Operation} {instruction : Instruction}

theorem ok (own : instruction.operation? = some operation) : operation.Answers (.ok instruction) where
  own _ same := Except.ok.inj same ▸ own
  refused e same := by cases same

theorem error (mismatch : Mismatch) : operation.Answers (.error (.invalidArgument operation.name mismatch)) where
  own instruction same := by cases same
  refused e same := ⟨mismatch, (Except.error.inj same).symm⟩

/-- Arguments that cannot be read are a fault, and those that can are gone on with. -/
theorem bind {α : Type} {read : Except Mismatch α} {next : α → Except MigrationError Instruction}
    (later : ∀ a, operation.Answers (next a)) : operation.Answers (Instruction.argumentsOf operation read >>= next) := by
  cases read with
  | error mismatch => exact error mismatch
  | ok a => exact later a

theorem addIndex (table : String) (columns : List String) (options : IndexOptions) (extra : Fields) :
    Operation.addIndex.Answers (Instruction.addIndex table columns options extra) := by
  unfold Instruction.addIndex
  split
  · exact error _
  · exact ok rfl

theorem ofCall (operation : Operation) (arguments : Fields) :
    operation.Answers (Instruction.ofCall operation arguments) := by
  cases operation with
  | addIndex => exact bind fun _ => addIndex ..
  | validateForeignKey => exact bind fun _ => bind fun _ => ok rfl
  | removeForeignKey => exact bind fun _ => bind fun _ => ok rfl
  | _ => exact bind fun _ => ok rfl

end Operation.Answers

theorem Instruction.name_of_operation? {instruction : Instruction} {operation : Operation}
    (own : instruction.operation? = some operation) : instruction.name = operation.name := by
  cases instruction with
  | change table change extra => exact congrArg Operation.name (Option.some.inj own)
  | custom _ => cases own

theorem Operation.name_of_ofName? {name : String} {operation : Operation} (built : ofName? name = some operation) :
    operation.name = name := by
  simpa using List.find?_some built

namespace Template

variable {template : Template} {name : String} {arguments : Fields}

theorem name_of_instantiate {instruction : CustomInstruction}
    (made : template.instantiate name arguments = .ok instruction) : instruction.name = name := by
  obtain ⟨_, -, done⟩ := bind_eq_ok_iff.mp made
  cases done
  rfl

/-- A template fails by arguments that are missing. -/
theorem instantiate_eq_error {e : MigrationError} (failed : template.instantiate name arguments = .error e) :
    ∃ mismatch, e = .invalidArgument name mismatch := by
  rcases bind_eq_error_iff.mp failed with unfilled | ⟨_, -, done⟩
  · obtain ⟨_, statement, _, _, -, -, culprit⟩ := mapM_eq_error_iff.mp unfilled
    unfold expand at culprit
    simp only at culprit
    split at culprit
    · cases culprit
    · exact ⟨_, (Except.error.inj culprit).symm⟩
  · cases done

end Template

/-- The instruction that a call records. -/
def Call.instruction (registry : Registry) (call : Call) : Except MigrationError Instruction :=
  match Operation.ofName? call.operation with
  | some operation => Instruction.ofCall operation call.arguments
  | none => (registry.construct call.operation call.arguments).map .custom

/-- An error of a direction that cannot be recorded. -/
def MigrationError.isOfRecording : MigrationError → Bool
  | unknownOperation _ | invalidArgument .. | notImplemented .. => true
  | _ => false

/-- A call fails because its operation is not known or by its arguments. -/
theorem Call.isOfRecording_of_instruction {registry : Registry} {call : Call} {e : MigrationError}
    (failed : call.instruction registry = .error e) : e.isOfRecording = true := by
  unfold Call.instruction at failed
  split at failed
  next operation _ =>
    obtain ⟨mismatch, rfl⟩ := (Operation.Answers.ofCall operation call.arguments).refused e failed
    rfl
  next =>
    cases constructed : registry.construct call.operation call.arguments with
    | ok c =>
      rw [constructed] at failed
      cases failed
    | error fault =>
      rw [constructed] at failed
      cases failed
      unfold Registry.construct at constructed
      split at constructed
      · obtain ⟨mismatch, rfl⟩ := Template.instantiate_eq_error constructed
        rfl
      · cases constructed
        rfl

namespace Recorder

/-- What a program does with its recorder: it changes it in place, and may fail. What was changed by then stays. -/
abbrev Act (α : Type) := ExceptT MigrationError (StateM Recorder) α

namespace Act

/-- What an act gives or fails with, and the recorder afterwards. -/
def on {α : Type} (act : Act α) (recorder : Recorder) : Except MigrationError α × Recorder := act recorder

/-- Adds an instruction. -/
def add (instruction : Instruction) : Act Unit := modify (·.record instruction)

/-- Adds the instruction of a custom operation, which has to be known. -/
def custom (name : String) (arguments : Fields) : Act Unit := do
  let recorder ← get
  if recorder.registry.contains name then
    let instruction ← recorder.registry.construct name arguments
    add (.custom instruction)
  else throw (.unknownOperation name)

/-- Adds the instruction of an operation: a built-in one if the name is built in, else a custom one. -/
def call (name : String) (arguments : Fields) : Act Unit :=
  match Operation.ofName? name with
  | some operation => do
    let instruction ← Instruction.ofCall operation arguments
    add instruction
  | none => custom name arguments

/-- Makes calls in order up to the first that fails. -/
def script (calls : List Call) : Act Unit := calls.forM fun c => call c.operation c.arguments

end Act

/-- A recorder that is kept when there is no other. -/
def settle (recorder : Recorder) : Except MigrationError Recorder → Except MigrationError Unit × Recorder
  | .ok next => (.ok (), next)
  | .error e => (.error e, recorder)

/-- A recorder with more instructions. -/
def extend (recorder : Recorder) (instructions : List Instruction) : Recorder :=
  { recorder with
    recorded := { recorder.recorded with
      instructions := recorder.recorded.instructions ++ instructions } }

variable {recorder : Recorder} {calls : List Call}

@[simp] theorem registry_extend (instructions : List Instruction) :
    (recorder.extend instructions).registry = recorder.registry := rfl

@[simp] theorem extend_nil : recorder.extend [] = recorder := by simp [extend]

@[simp] theorem extend_extend (first second : List Instruction) :
    (recorder.extend first).extend second = recorder.extend (first ++ second) := by
  simp [extend]

theorem call_eq (call : Call) :
    recorder.call call.operation call.arguments = (call.instruction recorder.registry).map recorder.record := by
  unfold Recorder.call Call.instruction
  cases Operation.ofName? call.operation with
  | some operation => rfl
  | none =>
    simp only [custom]
    cases recorder.registry.construct call.operation call.arguments <;> rfl

theorem record_eq_extend (instruction : Instruction) : recorder.record instruction = recorder.extend [instruction] :=
  rfl

namespace Act

variable {α β : Type}

/-- An act goes on with the recorder that the act before it left, unless that failed. -/
theorem on_bind (act : Act α) (next : α → Act β) (recorder : Recorder) :
    (act >>= next).on recorder =
      match act.on recorder with
      | (.ok a, after) => (next a).on after
      | (.error e, after) => (.error e, after) := by
  change ExceptT.bindCont next (act recorder).1 (act recorder).2 = _
  unfold on
  rcases act recorder with ⟨_ | _, after⟩ <;> rfl

/-- A result that is known does nothing to the recorder. -/
theorem on_lift (result : Except MigrationError α) (recorder : Recorder) :
    Act.on (liftM result) recorder = (result, recorder) := by
  cases result <;> rfl

/-- What is settled first is added then. -/
theorem on_add (result : Except MigrationError Instruction) (recorder : Recorder) :
    Act.on (do let instruction ← result; add instruction) recorder = recorder.settle (result.map recorder.record) := by
  rw [on_bind, on_lift]
  cases result <;> rfl

end Act

/-- Done in place, adding a custom operation leaves the recorder that is given or was there. -/
theorem on_custom (recorder : Recorder) (name : String) (arguments : Fields) :
    (Act.custom name arguments).on recorder = recorder.settle (recorder.custom name arguments) := by
  have asked : (Act.custom name arguments).on recorder =
      Act.on (if recorder.registry.contains name then do
        let instruction ← recorder.registry.construct name arguments
        Act.add (.custom instruction) else throw (.unknownOperation name)) recorder := rfl
  rw [asked]
  split
  next known =>
    rw [Act.on_bind, Act.on_lift, custom]
    cases recorder.registry.construct name arguments <;> rfl
  next unknown =>
    have absent : Entries.get? recorder.registry.templates name = none := by
      simpa [Registry.contains, Entries.has] using unknown
    simp only [custom, Registry.construct, absent]
    rfl

/-- So does a call. -/
theorem on_call (recorder : Recorder) (name : String) (arguments : Fields) :
    (Act.call name arguments).on recorder = recorder.settle (recorder.call name arguments) := by
  unfold Act.call call
  cases Operation.ofName? name with
  | some operation => exact Act.on_add ..
  | none => exact on_custom ..

/-- Calls made in place leave the recorder that replaying them leaves. -/
theorem on_script (recorder : Recorder) (calls : List Call) : (Act.script calls).on recorder =
    match recorder.replay calls with
    | (after, none) => (.ok (), after)
    | (after, some e) => (.error e, after) := by
  induction calls generalizing recorder with
  | nil => rfl
  | cons call calls ih =>
    have first : (Act.script (call :: calls)).on recorder =
        Act.on (Act.call call.operation call.arguments >>= fun _ => Act.script calls) recorder := rfl
    rw [first, Act.on_bind, on_call, replay]
    cases recorder.call call.operation call.arguments with
    | error e => rfl
    | ok next => exact ih next

/-- A step that a program makes with its recorder. -/
inductive Step where
  | call (name : String) (arguments : Fields)
  | custom (name : String) (arguments : Fields)

namespace Step

/-- The operation that a step names. -/
def name : Step → String
  | call name _ | custom name _ => name

/-- What a step does. -/
def act : Step → Act Unit
  | call name arguments => .call name arguments
  | custom name arguments => .custom name arguments

/-- What a step adds. -/
def instruction (registry : Registry) : Step → Except MigrationError Instruction
  | call name arguments => Call.instruction registry ⟨name, arguments⟩
  | custom name arguments => (registry.construct name arguments).map .custom

/-- A step whose operation is not known: no built-in one and none that is registered, or just the latter where only
custom operations are looked for. -/
def Unknown (registry : Registry) : Step → Prop
  | call name _ => Operation.ofName? name = none ∧ registry.contains name = false
  | custom name _ => registry.contains name = false

/-- The recorder that a step gives. -/
def next (recorder : Recorder) : Step → Except MigrationError Recorder
  | call name arguments => recorder.call name arguments
  | custom name arguments => recorder.custom name arguments

theorem next_eq (step : Step) (recorder : Recorder) :
    step.next recorder = (step.instruction recorder.registry).map recorder.record := by
  cases step with
  | call name arguments => exact call_eq ⟨name, arguments⟩
  | custom name arguments =>
    rw [next, Recorder.custom, instruction]
    cases recorder.registry.construct name arguments <;> rfl

/-- A step leaves the recorder that it gives, or the one that was there. -/
theorem on_act (step : Step) (recorder : Recorder) : step.act.on recorder = recorder.settle (step.next recorder) := by
  cases step with
  | call name arguments => exact on_call ..
  | custom name arguments => exact on_custom ..

theorem name_of_construct {registry : Registry} {name : String} {arguments : Fields} {instruction : CustomInstruction}
    (made : registry.construct name arguments = .ok instruction) : instruction.name = name := by
  unfold Registry.construct at made
  split at made
  · exact Template.name_of_instantiate made
  · cases made

/-- The instruction that a step adds has the name that the step names. -/
theorem name_of_instruction {registry : Registry} {step : Step} {instruction : Instruction}
    (made : step.instruction registry = .ok instruction) : instruction.name = step.name := by
  cases step with
  | call name arguments =>
    simp only [Step.instruction, Call.instruction] at made
    split at made
    next operation built =>
      rw [Instruction.name_of_operation? ((Operation.Answers.ofCall ..).own _ made)]
      exact Operation.name_of_ofName? built
    next =>
      obtain ⟨_, constructed, rfl⟩ := map_eq_ok_iff.mp made
      exact name_of_construct constructed
  | custom name arguments =>
    obtain ⟨_, constructed, rfl⟩ := map_eq_ok_iff.mp made
    exact name_of_construct constructed

/-- Only an operation that is not known is reported as such. -/
theorem construct_eq_unknown_iff {registry : Registry} {name other : String} {arguments : Fields} :
    registry.construct name arguments = .error (.unknownOperation other) ↔
      other = name ∧ registry.contains name = false := by
  unfold Registry.construct Registry.contains Entries.has
  cases Entries.get? registry.templates name with
  | none => simp [eq_comm]
  | some template =>
    refine iff_of_false (fun failed => ?_) (by simp)
    obtain ⟨_, same⟩ := Template.instantiate_eq_error failed
    cases same

theorem instruction_eq_unknown_iff {registry : Registry} {step : Step} {other : String} :
    step.instruction registry = .error (.unknownOperation other) ↔ other = step.name ∧ step.Unknown registry := by
  have mapped : ∀ {name arguments}, (registry.construct name arguments).map Instruction.custom =
      .error (.unknownOperation other) ↔ other = name ∧ registry.contains name = false := by
    intro name arguments
    rw [← @construct_eq_unknown_iff registry name other arguments]
    cases registry.construct name arguments <;> simp [Except.map]
  cases step with
  | call name arguments =>
    simp only [instruction, Call.instruction, Step.name, Unknown]
    cases built : Operation.ofName? name with
    | none => simpa using mapped
    | some operation =>
      refine iff_of_false (fun failed => ?_) (by simp)
      obtain ⟨_, same⟩ := (Operation.Answers.ofCall ..).refused _ failed
      cases same
  | custom name arguments => exact mapped

end Step

/-- The recorder after some steps, each made whether or not those before it failed. -/
def after (recorder : Recorder) (steps : List Step) : Recorder :=
  steps.foldl (fun recorder step => (step.act.on recorder).2) recorder

/-- What the steps that do not fail add is there in their order, behind what was there before. -/
theorem after_eq (recorder : Recorder) (steps : List Step) :
    recorder.after steps =
      recorder.extend (steps.filterMap fun step => (step.instruction recorder.registry).toOption) := by
  induction steps generalizing recorder with
  | nil => simp [after]
  | cons step steps ih =>
    rw [after, List.foldl_cons, ← after, ih, Step.on_act, Step.next_eq, List.filterMap_cons]
    cases step.instruction recorder.registry with
    | error e => rfl
    | ok instruction => exact extend_extend ..

/-- Calls that are not refused are gone on from with their instructions recorded. -/
theorem replay_append {instructions : List Instruction} (recorder : Recorder)
    (made : List.Forall₂ (fun call instruction => Call.instruction recorder.registry call = .ok instruction) calls
      instructions) (later : List Call) :
    recorder.replay (calls ++ later) = (recorder.extend instructions).replay later := by
  induction calls generalizing recorder instructions with
  | nil =>
    cases made
    rw [List.nil_append, extend_nil]
  | cons call calls ih =>
    obtain ⟨instruction, rest, first, others, rfl⟩ := List.forall₂_cons_left_iff.mp made
    simp only [List.cons_append, replay, call_eq, first, Except.map, record_eq_extend]
    rw [ih (recorder.extend [instruction]) others, extend_extend]
    rfl

/-- Calls of which none is refused are recorded. -/
theorem replay_of_made {instructions : List Instruction} (recorder : Recorder)
    (made : List.Forall₂ (fun call instruction => Call.instruction recorder.registry call = .ok instruction) calls
      instructions) : recorder.replay calls = (recorder.extend instructions, none) := by
  have replayed := replay_append recorder made []
  rw [List.append_nil] at replayed
  exact replayed

/-- Calls of which one is refused are recorded up to this one. -/
theorem replay_of_failed {instructions : List Instruction} {first : Call} {e : MigrationError} (recorder : Recorder)
    (made : List.Forall₂ (fun call instruction => Call.instruction recorder.registry call = .ok instruction) calls
      instructions) (failed : Call.instruction recorder.registry first = .error e) (later : List Call) :
    recorder.replay (calls ++ first :: later) = (recorder.extend instructions, some e) := by
  rw [replay_append recorder made]
  simp only [replay, call_eq, registry_extend, failed, Except.map]

/-- What comes of calls that are made in order: all their instructions are recorded, or those before the first call that
fails are, and the error is that of this call. -/
inductive Plays (recorder : Recorder) (calls : List Call) : Except MigrationError Unit × Recorder → Prop
  | all {instructions : List Instruction}
    (made : List.Forall₂ (fun call instruction => Call.instruction recorder.registry call = .ok instruction) calls
      instructions) : Plays recorder calls (.ok (), recorder.extend instructions)
  | upTo {before later : List Call} {first : Call} {instructions : List Instruction} {e : MigrationError}
    (split : calls = before ++ first :: later)
    (made : List.Forall₂ (fun call instruction => Call.instruction recorder.registry call = .ok instruction) before
      instructions)
    (failed : Call.instruction recorder.registry first = .error e) :
    Plays recorder calls (.error e, recorder.extend instructions)

theorem plays_script (recorder : Recorder) (calls : List Call) :
    recorder.Plays calls ((Act.script calls).on recorder) := by
  rw [on_script]
  cases result : calls.mapM (Call.instruction recorder.registry) with
  | ok instructions =>
    have made := mapM_eq_ok_iff.mp result
    rw [replay_of_made recorder made]
    exact .all made
  | error e =>
    obtain ⟨before, first, later, instructions, rfl, made, failed⟩ := mapM_eq_error_iff.mp result
    rw [replay_of_failed recorder made failed]
    exact .upTo rfl made failed

/-- The procedure of some calls gives their instructions. -/
theorem ofCalls_eq_mapM (direction : Direction) (registry : Registry) (calls : List Call) (number : Nat) :
    Procedure.ofCalls direction registry calls number = calls.mapM (Call.instruction registry) := by
  cases result : calls.mapM (Call.instruction registry) with
  | ok instructions =>
    rw [Procedure.ofCalls, replay_of_made _ (mapM_eq_ok_iff.mp result)]
    rfl
  | error e =>
    obtain ⟨before, first, later, instructions, rfl, made, failed⟩ := mapM_eq_error_iff.mp result
    have ends := replay_of_failed (.new direction registry) made failed later
    simp only [Procedure.ofCalls, ends]

/-- The procedure of some calls gives what they record for a new recorder. -/
theorem ofCalls_of_plays {direction : Direction} {registry : Registry} {calls : List Call} {number : Nat} :
    Procedure.ofCalls direction registry calls number =
      ((Act.script calls).on (.new direction registry)).1.map fun _ =>
        ((Act.script calls).on (.new direction registry)).2.recorded.instructions := by
  rw [on_script, Procedure.ofCalls]
  rcases (new direction registry).replay calls with ⟨after, _ | e⟩ <;> rfl

/-- What comes of a step: nothing, or one instruction more. -/
structure Settles (recorder : Recorder) (step : Step) : Prop where
  /-- Done in place, the step leaves the recorder that it gives, or else the one that was there. -/
  inPlace : step.act.on recorder = recorder.settle (step.next recorder)
  /-- A step that fails leaves the recorder as it was. -/
  failed : ∀ e after, step.act.on recorder = (.error e, after) → after = recorder
  /-- Any other adds one instruction of the operation that it names, behind those that are there. -/
  recorded : ∀ after, step.act.on recorder = (.ok (), after) → ∃ instruction,
    step.instruction recorder.registry = .ok instruction ∧ instruction.name = step.name ∧
      after = recorder.extend [instruction]
  /-- An operation is reported as unknown just if it is. -/
  unknown : ∀ name, (step.act.on recorder).1 = .error (.unknownOperation name) ↔
    name = step.name ∧ step.Unknown recorder.registry

theorem settles (recorder : Recorder) (step : Step) : recorder.Settles step := by
  have result := step.on_act recorder
  rw [step.next_eq] at result
  constructor
  case inPlace => exact step.on_act recorder
  case failed =>
    intro e after failed
    rw [result] at failed
    cases made : step.instruction recorder.registry with
    | error _ =>
      rw [made] at failed
      exact (Prod.mk.inj failed).2.symm
    | ok _ =>
      rw [made] at failed
      cases failed
  case recorded =>
    intro after done
    rw [result] at done
    cases made : step.instruction recorder.registry with
    | error _ =>
      rw [made] at done
      cases done
    | ok instruction =>
      rw [made] at done
      exact ⟨instruction, rfl, Step.name_of_instruction made, (Prod.mk.inj done).2.symm⟩
  case unknown =>
    intro name
    rw [result, ← Step.instruction_eq_unknown_iff]
    cases step.instruction recorder.registry <;> simp [settle, Except.map]

/-- With the operations of some templates, none of which has a built-in name, every step of a recorder adds the one
instruction that it calls for or adds nothing, whatever steps there were before it and whether or not these failed. A
list of calls that is played through is recorded up to the first call that fails. -/
theorem all_or_nothing {templates : Entries Template} {registry : Registry}
    (built : Registry.ofTemplates templates = .ok registry) {recorder : Recorder} (uses : recorder.registry = registry) :
    (∀ given, (∃ made, Registry.ofTemplates given = .ok made) ↔
        ∀ entry ∈ given, Operation.ofName? entry.1 = none) ∧
      (∀ name, registry.contains name = true ↔ ∃ entry ∈ templates, entry.1 = name) ∧
      (∀ before step, (recorder.after before).Settles step) ∧
      (∀ steps, recorder.after steps =
        recorder.extend (steps.filterMap fun step => (step.instruction registry).toOption)) ∧
      (∀ (operation : Operation) arguments, (Act.custom operation.name arguments).on recorder =
        (.error (.unknownOperation operation.name), recorder)) ∧
      (∀ calls, recorder.Plays calls ((Act.script calls).on recorder)) ∧
      ∀ direction calls number, Procedure.ofCalls direction registry calls number =
        ((Act.script calls).on (.new direction registry)).1.map fun _ =>
          ((Act.script calls).on (.new direction registry)).2.recorded.instructions := by
  subst uses
  refine ⟨fun given => ?_, Registry.contains_ofTemplates built, fun before step => settles _ step, after_eq recorder,
    fun operation arguments => ?_, plays_script recorder, fun _ _ _ => ofCalls_of_plays⟩
  · simp [Registry.ofTemplates_eq_ok_iff]
  · have unknown : (Step.custom operation.name arguments).Unknown recorder.registry :=
      Registry.contains_name built operation
    have failed := ((recorder.settles (.custom operation.name arguments)).unknown _).mpr ⟨rfl, unknown⟩
    exact Prod.ext failed ((recorder.settles _).failed _ _ (Prod.ext failed rfl))

/-- An operation that a program brings along. -/
def partitioning : Entries Template :=
  [("attach_partition", ⟨some .accessExclusive, "table", ["ALTER TABLE \x7btable\x7d ATTACH PARTITION \x7bpart\x7d"]⟩)]

/-- Of a call, a built-in operation that is taken for a custom one, a call without an argument and one with all, the
first and the last are recorded. -/
theorem all_or_nothing_partitioning : ∃ registry, Registry.ofTemplates partitioning = .ok registry ∧
    (Recorder.new .up registry).registry = registry ∧
    ((Recorder.new .up registry).after
      [.call "drop_table" [("table", .string "logs")], .custom "drop_table" [("table", .string "logs")],
        .call "attach_partition" [("table", .string "events")],
        .custom "attach_partition" [("part", .string "events_2025"), ("table", .string "events")]]
      ).recorded.instructions.map Instruction.description = ["drop_table logs", "attach_partition events"] := by
  have built : Registry.ofTemplates partitioning = .ok ⟨partitioning⟩ := by rfl
  have uses : (Recorder.new .up ⟨partitioning⟩).registry = ⟨partitioning⟩ := rfl
  obtain ⟨-, -, -, after, -⟩ := all_or_nothing built uses
  refine ⟨_, built, rfl, ?_⟩
  rw [after]
  decide +kernel

end Recorder

end SafeMigration
