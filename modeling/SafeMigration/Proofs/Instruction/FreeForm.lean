import SafeMigration.Proofs.Requests
import SafeMigration.Proofs.Validation.Report
import SafeMigration.Script.Renderer

/-!
Arguments that have no meaning to an operation.

An operation reads what is given under its own keys, and keeps everything else with the instruction as it was given. What
is done with an instruction later is settled without these arguments: they can be left out of every call of a migration,
and it meets the same rules and is written out the same.
-/

namespace SafeMigration

namespace Instruction

open Json Json.Shape

/-- A built-in instruction with other arguments that have no meaning to it. A custom one has none of these. -/
def withExtra (extra : Fields) : Instruction → Instruction
  | .change table c _ => .change table c extra
  | .custom c => .custom c

/-- An instruction without the arguments that have no meaning to it. -/
def bare : Instruction → Instruction := withExtra []

variable {α β : Type} {operation : Operation} {instruction : Instruction} {extra : Fields}

theorem extra_withExtra (builtIn : instruction.operation? = some operation) (extra : Fields) :
    (instruction.withExtra extra).extra = extra := by
  cases instruction with
  | change _ _ _ => rfl
  | custom _ => cases builtIn

@[simp] theorem operation?_withExtra : (instruction.withExtra extra).operation? = instruction.operation? := by
  cases instruction <;> rfl

@[simp] theorem bare_withExtra : (instruction.withExtra extra).bare = instruction.bare := by
  cases instruction <;> rfl

/-- The arguments of an operation without options are those under its keys, and the others are left over. -/
theorem single_eq {shape : Shape α} (isLocal : shape.Local) (arguments : Fields) :
    single shape arguments = (single shape (arguments.only shape.keys)).map
      fun (own, _) => (own, Entries.without arguments shape.keys) := by
  rw [single, single, isLocal.ofFields_only fun _ => id]
  cases shape.ofFields arguments <;> rfl

/-- So it is with options besides; the keys of the options are looked for among what the own arguments leave over. -/
theorem withOptions_eq {shape : Shape α} {options : Shape β} (isLocal : shape.Local) (optionsLocal : options.Local)
    (arguments : Fields) :
    withOptions shape options arguments = (withOptions shape options (arguments.only (shape.keys ++ options.keys))).map
      fun (own, chosen, _) => (own, chosen, Entries.without arguments (shape.keys ++ options.keys)) := by
  rw [withOptions, withOptions, isLocal.ofFields_only fun _ => List.mem_append_left _]
  simp only [Entries.without_only, optionsLocal.ofFields_only fun _ => List.mem_append_right _,
    Entries.without_without]
  cases shape.ofFields arguments with
  | error e => rfl
  | ok own => cases options.ofFields (arguments.without shape.keys) <;> rfl

/-- What is done with arguments that were read passes on those that have no meaning. -/
theorem argumentsOf_bind {read : Except Mismatch α} (replace : α → α)
    {next other : α → Except MigrationError Instruction}
    (passes : ∀ a, other (replace a) = (next a).map (withExtra extra)) :
    (argumentsOf operation (read.map replace) >>= other) =
      (argumentsOf operation read >>= next).map (withExtra extra) := by
  cases read with
  | error mismatch => rfl
  | ok a => exact passes a

theorem single_bind {shape : Shape α} (isLocal : shape.Local) (arguments : Fields)
    {next : α × Fields → Except MigrationError Instruction}
    (passes : ∀ own extra left, next (own, extra) = (next (own, left)).map (withExtra extra)) :
    (argumentsOf operation (single shape arguments) >>= next) =
      (argumentsOf operation (single shape (arguments.only shape.keys)) >>= next).map
        (withExtra (arguments.without shape.keys)) := by
  rw [single_eq isLocal arguments]
  exact argumentsOf_bind _ fun (own, left) => passes own _ left

theorem withOptions_bind {shape : Shape α} {options : Shape β} (isLocal : shape.Local) (optionsLocal : options.Local)
    (arguments : Fields) {next : α × β × Fields → Except MigrationError Instruction}
    (passes : ∀ own chosen extra left, next (own, chosen, extra) = (next (own, chosen, left)).map (withExtra extra)) :
    (argumentsOf operation (withOptions shape options arguments) >>= next) =
      (argumentsOf operation (withOptions shape options (arguments.only (shape.keys ++ options.keys))) >>= next).map
        (withExtra (arguments.without (shape.keys ++ options.keys))) := by
  rw [withOptions_eq isLocal optionsLocal arguments]
  exact argumentsOf_bind _ fun (own, chosen, left) => passes own chosen _ left

theorem addIndex_withExtra (table : String) (columns : List String) (options : IndexOptions) (left : Fields) :
    addIndex table columns options extra = (addIndex table columns options left).map (withExtra extra) := by
  unfold addIndex
  split <;> rfl

theorem local_tableShape : tableShape.Local := .required ..

theorem local_withText (key : String) : (withText key).Local := .seq (.map _ local_tableShape) (.required ..)

theorem local_typedColumnShape : typedColumnShape.Local :=
  .seq (.seq (.map _ local_tableShape) (.required ..)) (.required ..)

theorem local_foreignKeyShape : foreignKeyShape.Local :=
  .seq (.seq (.map _ local_tableShape) (.maybe ..)) (.maybe ..)

theorem local_columnOptions : ColumnOptions.shape.Local :=
  .seq (.seq (.map _ (.optional ..)) (.maybe ..)) (.optional ..)

theorem local_referenceOptions : ReferenceOptions.shape.Local :=
  .seq (.seq (.seq (.seq (.map _ (.optional ..)) (.optional ..)) (.optional ..)) (.optional ..)) (.optional ..)

theorem local_indexOptions : IndexOptions.shape.Local :=
  .seq (.seq (.seq (.map _ (.maybe ..)) (.optional ..)) (.optional ..)) (.maybe ..)

theorem local_indexChoice : IndexChoice.shape.Local := .seq (.map _ (.maybe ..)) (.maybe ..)

theorem local_foreignKeyOptions : ForeignKeyOptions.shape.Local :=
  .seq (.seq (.seq (.seq (.map _ (.maybe ..)) (.maybe ..)) (.maybe ..)) (.maybe ..)) (.maybe ..)

/-- An operation is called the same with the arguments under its own keys alone, and all others are kept besides. -/
theorem ofCall_eq (operation : Operation) (arguments : Fields) :
    ofCall operation arguments = (ofCall operation (arguments.only operation.typedKeys)).map
      (withExtra (arguments.without operation.typedKeys)) := by
  cases operation with
  | createTable => exact single_bind (.seq (.map _ local_tableShape) (.optional ..)) arguments fun _ _ _ => rfl
  | dropTable => exact single_bind local_tableShape arguments fun _ _ _ => rfl
  | addColumn | changeColumn =>
    exact withOptions_bind local_typedColumnShape local_columnOptions arguments fun _ _ _ _ => rfl
  | removeColumn | validateCheckConstraint | removeCheckConstraint =>
    exact single_bind (local_withText _) arguments fun _ _ _ => rfl
  | renameColumn =>
    exact single_bind (.seq (.seq (.map _ local_tableShape) (.required ..)) (.required ..)) arguments fun _ _ _ => rfl
  | changeColumnDefault | addCheckConstraint =>
    exact single_bind (.seq (.seq (.map _ local_tableShape) (.required ..)) (.maybe ..)) arguments fun _ _ _ => rfl
  | addReference =>
    exact withOptions_bind (local_withText _) local_referenceOptions arguments fun _ _ _ _ => rfl
  | removeReference =>
    exact single_bind (.seq (.seq (.map _ local_tableShape) (.required ..)) (.optional ..)) arguments fun _ _ _ => rfl
  | addIndex =>
    exact withOptions_bind (.seq (.map _ local_tableShape) (.eitherKey ..)) local_indexOptions arguments
      fun _ _ _ _ => addIndex_withExtra ..
  | removeIndex => exact withOptions_bind local_tableShape local_indexChoice arguments fun _ _ _ _ => rfl
  | addForeignKey =>
    exact withOptions_bind (local_withText _) local_foreignKeyOptions arguments fun _ _ _ _ => rfl
  | validateForeignKey | removeForeignKey =>
    refine single_bind local_foreignKeyShape arguments fun (table, target, name) _ _ => ?_
    simp only
    cases foreignKeyName table target name <;> rfl

/-- With the arguments under its own keys alone the instruction is the same but for those that have no meaning. -/
theorem ofCall_only (operation : Operation) (arguments : Fields) :
    ofCall operation (arguments.only operation.typedKeys) = (ofCall operation arguments).map bare := by
  have left : Entries.without (Entries.only arguments operation.typedKeys) operation.typedKeys = [] := by
    rw [Entries.without_only, Entries.only_without]
  have restricted := ofCall_eq operation (arguments.only operation.typedKeys)
  rw [Entries.only_only, left] at restricted
  rw [ofCall_eq operation arguments]
  cases result : ofCall operation (arguments.only operation.typedKeys) with
  | error e => rfl
  | ok instruction =>
    rw [result] at restricted
    have same : instruction = instruction.bare := Except.ok.inj restricted
    change Except.ok instruction = .ok (instruction.withExtra _).bare
    rw [bare_withExtra, ← same]

/-- Two instructions are alike in everything that is ever asked of an instruction, but for the arguments that have no
meaning. -/
structure SameEffect (instruction other : Instruction) : Prop where
  operation : instruction.operation? = other.operation?
  name : instruction.name = other.name
  table : instruction.table? = other.table?
  lock : instruction.lock? = other.lock?
  concurrent : instruction.isConcurrent = other.isConcurrent
  description : instruction.description = other.description
  policy : TimeoutPolicy.ofInstruction instruction = TimeoutPolicy.ofInstruction other
  violations : instruction.violations = other.violations
  statements : Statement.ofInstruction instruction = Statement.ofInstruction other

theorem sameEffect_bare (instruction : Instruction) : instruction.bare.SameEffect instruction := by
  cases instruction <;> constructor <;> rfl

end Instruction

namespace InstructionSet

/-- The instructions without the arguments that have no meaning to them. -/
def bare (set : InstructionSet) : InstructionSet := { set with instructions := set.instructions.map .bare }

variable (set : InstructionSet)

theorem strictestLock_bare : set.bare.strictestLock = set.strictestLock := by
  have locks : Instruction.lock? ∘ Instruction.bare = Instruction.lock? := funext fun i => i.sameEffect_bare.lock
  simp only [strictestLock, bare, List.filterMap_map, locks]

theorem hasConcurrent_bare : set.bare.hasConcurrent = set.hasConcurrent := by
  have concurrent : Instruction.isConcurrent ∘ Instruction.bare = Instruction.isConcurrent :=
    funext fun i => i.sameEffect_bare.concurrent
  simp only [hasConcurrent, bare, List.any_map, concurrent]

theorem isolationViolations_bare : set.bare.isolationViolations = set.isolationViolations := by
  have concurrent : Instruction.isConcurrent ∘ Instruction.bare = Instruction.isConcurrent :=
    funext fun i => i.sameEffect_bare.concurrent
  simp only [isolationViolations, bare, List.length_map, List.filter_map, concurrent, List.map_map]
  simp only [Function.comp_def, (Instruction.sameEffect_bare _).description]

end InstructionSet

theorem TimeoutPolicy.check_bare (set : InstructionSet) (timeouts : EffectiveTimeouts) (config : TimeoutConfig) :
    check set.bare timeouts config = check set timeouts config := by
  have policies : TimeoutPolicy.ofInstruction ∘ Instruction.bare = TimeoutPolicy.ofInstruction :=
    funext fun i => i.sameEffect_bare.policy
  simp only [check, ofInstructions, InstructionSet.bare, List.map_map, policies]

theorem Capability.customNames_bare (instructions : List Instruction) :
    customNames (instructions.map .bare) = customNames instructions := by
  rw [customNames, customNames, List.filterMap_map]
  congr
  funext i
  cases i <;> rfl

theorem Capability.ofSets_bare (up down : InstructionSet) : ofSets [up.bare, down.bare] = ofSets [up, down] := by
  have names : customNames ([up.bare, down.bare].flatMap InstructionSet.instructions) =
      customNames ([up, down].flatMap InstructionSet.instructions) := by
    rw [← customNames_bare ([up, down].flatMap InstructionSet.instructions)]
    simp [InstructionSet.bare]
  simp only [ofSets, names, List.any_cons, InstructionSet.hasConcurrent_bare]
  rfl

namespace Migration

variable (migration : Migration) (config : TimeoutConfig)

theorem timeouts_bare (set : InstructionSet) : migration.timeouts config set.bare = migration.timeouts config set := by
  simp only [timeouts, set.strictestLock_bare]

theorem setViolations_bare (set : InstructionSet) :
    migration.setViolations config set.bare = migration.setViolations config set := by
  have own : Instruction.violations ∘ Instruction.bare = Instruction.violations :=
    funext fun i => i.sameEffect_bare.violations
  have singles : set.bare.instructions.flatMap Instruction.violations =
      set.instructions.flatMap Instruction.violations := by
    rw [InstructionSet.bare, List.flatMap_map]
    exact congrArg (set.instructions.flatMap ·) own
  simp only [setViolations, singles, set.isolationViolations_bare, TimeoutPolicy.check_bare, timeouts_bare]
  rfl

theorem directionViolations_bare (direction : Direction) (recorded : Except MigrationError InstructionSet) :
    migration.directionViolations config direction (recorded.map .bare) =
      migration.directionViolations config direction recorded := by
  cases recorded with
  | error e => rfl
  | ok set => exact setViolations_bare ..

end Migration

namespace ValidatedMigration

/-- The migration without the arguments that have no meaning to its instructions. -/
def bare (valid : ValidatedMigration) : ValidatedMigration :=
  { valid with
    up := valid.up.bare
    down := valid.down.bare }

variable (valid : ValidatedMigration)

theorem instructions_bare (direction : Direction) :
    valid.bare.instructions direction = (valid.instructions direction).bare := by
  cases direction <;> rfl

theorem timeouts_bare (direction : Direction) : valid.bare.timeouts direction = valid.timeouts direction := by
  cases direction <;> rfl

theorem ofDirection_bare (direction : Direction) :
    ScriptSection.ofDirection valid.bare direction = ScriptSection.ofDirection valid direction := by
  have statements : Statement.ofInstruction ∘ Instruction.bare = Statement.ofInstruction :=
    funext fun i => i.sameEffect_bare.statements
  simp only [ScriptSection.ofDirection, isTransactional, instructions_bare, InstructionSet.hasConcurrent_bare,
    timeouts_bare]
  simp only [InstructionSet.bare, List.mapM_map, statements, List.isEmpty_map]

/-- What a migration is written out as is settled without these arguments. -/
theorem render_bare : Renderer.postgres.render valid.bare = Renderer.postgres.render valid := by
  have needs : valid.bare.capabilities = valid.capabilities := Capability.ofSets_bare ..
  have sections : ScriptSection.ofDirection valid.bare = ScriptSection.ofDirection valid :=
    funext valid.ofDirection_bare
  simp only [Renderer.postgres, Script.ofMigration, sections, needs]
  rfl

end ValidatedMigration

namespace Migration

/-- Two migrations, each asked for what it was asked for, break the same rules and need the same, and are written out the
same. What is handed on of the first is without the arguments that have no meaning to its instructions. -/
structure Alike (first second : Migration) (config : TimeoutConfig) (session other : Session) : Prop where
  violations : (first.validate config session).1 = (second.validate config other).1
  capabilities : (first.capabilities session).1 = (second.capabilities other).1
  validated : (first.validated config session).1 = (second.validated config other).1.map .bare
  script : ((first.validated config session).1 >>= Renderer.postgres.render) =
    ((second.validated config other).1 >>= Renderer.postgres.render)

variable {migration : Migration} {config : TimeoutConfig} {session other : Session} {up down : Option Procedure}

theorem violationsOf_bare (outcome : DirectionOutcome) :
    migration.violationsOf config (fun direction => (outcome direction).map .bare) =
      migration.violationsOf config outcome := by
  simp only [violationsOf, directionViolations_bare]

/-- Procedures that record the same but for these arguments make a migration that is the same in all else. -/
theorem alike_of_outcome
    (outcomes : { migration with up := up, down := down }.outcome session =
      fun direction => (migration.outcome other direction).map .bare) (config : TimeoutConfig) :
    Alike { migration with up := up, down := down } migration config session other := by
  have violations : { migration with up := up, down := down }.violationsOf config
      (fun direction => (migration.outcome other direction).map .bare) =
        migration.violationsOf config (migration.outcome other) := violationsOf_bare ..
  have timeouts (set : InstructionSet) : { migration with up := up, down := down }.timeouts config set.bare =
      migration.timeouts config set := timeouts_bare ..
  have validated : ({ migration with up := up, down := down }.validated config session).1 =
      (migration.validated config other).1.map .bare := by
    rw [validated_fst, validated_fst, outcomes, violations]
    beta_reduce
    cases requireSafe migration.name (migration.violationsOf config (migration.outcome other)) with
    | error e => rfl
    | ok _ =>
      cases migration.outcome other .up with
      | error e => rfl
      | ok upSet =>
        cases migration.outcome other .down with
        | error e => rfl
        | ok downSet =>
          simp only [Except.map, bind, Except.bind, timeouts]
          rfl
  constructor
  case violations => rw [validate_fst, validate_fst, outcomes, violations]
  case capabilities =>
    rw [capabilities_fst, capabilities_fst, outcomes]
    beta_reduce
    cases migration.outcome other .up with
    | error e => rfl
    | ok upSet =>
      cases migration.outcome other .down with
      | error e => rfl
      | ok downSet => exact congrArg Except.ok (Capability.ofSets_bare upSet downSet)
  case validated => exact validated
  case script =>
    rw [validated]
    cases (migration.validated config other).1 with
    | error e => rfl
    | ok valid => exact valid.render_bare

end Migration

/-- A call with the arguments under the keys of its operation alone, if that is built in. -/
def Call.typedOnly (call : Call) : Call :=
  match Operation.ofName? call.operation with
  | some operation => { call with arguments := call.arguments.only operation.typedKeys }
  | none => call

theorem Call.instruction_typedOnly (registry : Registry) (call : Call) :
    call.typedOnly.instruction registry = (call.instruction registry).map .bare := by
  cases builtIn : Operation.ofName? call.operation with
  | some operation => simp only [typedOnly, instruction, builtIn, Instruction.ofCall_only]
  | none =>
    simp only [typedOnly, instruction, builtIn]
    cases registry.construct call.operation call.arguments <;> rfl

theorem Procedure.ofCalls_typedOnly (direction : Direction) (registry : Registry) (calls : List Call) (number : Nat) :
    ofCalls direction registry (calls.map .typedOnly) number =
      (ofCalls direction registry calls number).map (List.map .bare) := by
  simp only [Recorder.ofCalls_eq_mapM, List.mapM_map, ← mapM_map_eq, ← Call.instruction_typedOnly]
  rfl

namespace MigrationSource

/-- The document without the arguments that have no meaning to the operations of its calls. -/
def typedOnly (source : MigrationSource) : MigrationSource :=
  { source with
    up := source.up.map (List.map .typedOnly)
    down := source.down.map (List.map .typedOnly) }

variable {source : MigrationSource} {defaultName : String} {registry : Registry} {config : TimeoutConfig}
  {session other : Session} {direction : Direction}

theorem calls?_typedOnly : source.typedOnly.calls? direction = (source.calls? direction).map (List.map .typedOnly) := by
  cases direction <;> rfl

/-- A direction gives the same instructions but for the arguments that have no meaning. -/
theorem outcome_typedOnly (asked : (source.migration defaultName registry).Asked session)
    (otherAsked : (source.typedOnly.migration defaultName registry).Asked other) (direction : Direction) :
    (source.typedOnly.migration defaultName registry).outcome other direction =
      ((source.migration defaultName registry).outcome session direction).map .bare := by
  unfold Migration.outcome
  cases given : source.calls? direction with
  | none =>
    have absent : source.typedOnly.calls? direction = none := by rw [calls?_typedOnly, given]; rfl
    rw [instructions_of_no_calls asked given, instructions_of_no_calls otherAsked absent]
    rfl
  | some calls =>
    have typed : source.typedOnly.calls? direction = some (calls.map .typedOnly) := by rw [calls?_typedOnly, given]; rfl
    rw [instructions_of_calls asked given, instructions_of_calls otherAsked typed, Procedure.ofCalls_typedOnly]
    cases Procedure.ofCalls direction registry calls 1 <;> rfl

theorem alike_typedOnly (asked : (source.migration defaultName registry).Asked session)
    (otherAsked : (source.typedOnly.migration defaultName registry).Asked other) (config : TimeoutConfig) :
    (source.typedOnly.migration defaultName registry).Alike (source.migration defaultName registry) config other
      session := by
  have outcomes : { source.migration defaultName registry with
      up := (source.typedOnly.migration defaultName registry).up
      down := (source.typedOnly.migration defaultName registry).down }.outcome other = _ :=
    funext (outcome_typedOnly asked otherAsked)
  exact Migration.alike_of_outcome outcomes config

end MigrationSource

namespace Operation

/-- What becomes of the arguments that have no meaning to an operation. -/
structure KeepsFreeForm (operation : Operation) (arguments : Fields) : Prop where
  /-- They do not decide whether the arguments are accepted, nor what is wrong with these. -/
  refused : ∀ e, Instruction.ofCall operation arguments = .error e ↔
    Instruction.ofCall operation (arguments.only operation.typedKeys) = .error e
  accepted : (∃ instruction, Instruction.ofCall operation arguments = .ok instruction) ↔
    ∃ instruction, Instruction.ofCall operation (arguments.only operation.typedKeys) = .ok instruction
  /-- They are kept as they were given, and no others are. -/
  kept : ∀ instruction, Instruction.ofCall operation arguments = .ok instruction →
    instruction.extra = arguments.without operation.typedKeys
  /-- The instruction is the one that there is without them, in all else and in all its effects. -/
  inert : ∀ instruction, Instruction.ofCall operation arguments = .ok instruction →
    Instruction.ofCall operation (arguments.only operation.typedKeys) = .ok instruction.bare ∧
      instruction.bare.extra = [] ∧ instruction.bare.SameEffect instruction

theorem keepsFreeForm (operation : Operation) (arguments : Fields) : operation.KeepsFreeForm arguments := by
  have restricted := Instruction.ofCall_only operation arguments
  constructor
  case refused =>
    intro e
    rw [restricted]
    cases Instruction.ofCall operation arguments <;> simp [Except.map]
  case accepted =>
    rw [restricted]
    cases Instruction.ofCall operation arguments <;> simp [Except.map]
  case kept =>
    intro instruction made
    have builtIn := (Answers.ofCall operation arguments).own instruction made
    rw [Instruction.ofCall_eq] at made
    obtain ⟨alone, -, rfl⟩ := map_eq_ok_iff.mp made
    rw [Instruction.operation?_withExtra] at builtIn
    exact Instruction.extra_withExtra builtIn _
  case inert =>
    intro instruction made
    have builtIn := (Answers.ofCall operation arguments).own instruction made
    rw [made] at restricted
    exact ⟨restricted, Instruction.extra_withExtra builtIn [], instruction.sameEffect_bare⟩

/-- Whatever arguments an operation is called with, those that have no meaning to it are kept with the instruction as
they were given, and nothing depends on them: neither whether the call is accepted, nor the instruction beside them, nor
which rules a document with such calls breaks, what it needs and what it is written out as. -/
theorem freeForm_inert : (∀ (operation : Operation) (arguments : Fields), operation.KeepsFreeForm arguments) ∧
    ∀ (source : MigrationSource) (defaultName : String) (registry : Registry) (config : TimeoutConfig)
      (session other : Session), (source.migration defaultName registry).Asked session →
        (source.typedOnly.migration defaultName registry).Asked other →
          (source.typedOnly.migration defaultName registry).Alike (source.migration defaultName registry) config other
            session :=
  ⟨keepsFreeForm, fun _ _ _ config _ _ asked otherAsked => MigrationSource.alike_typedOnly asked otherAsked config⟩

/-- Calls with keys that other operations have a use for. -/
def annotated : MigrationSource :=
  { up := some [⟨"add_index", [("column", .string "email"), ("columns_note", .null), ("owner", .string "web"),
      ("table", .string "users")]⟩]
    down := some [⟨"remove_index", [("column", .string "email"), ("columns", .string "phone"),
      ("table", .string "users"), ("unique", .bool true)]⟩] }

/-- What has no meaning here is a note and an owner, and for the index that is dropped two keys of the one that is added;
the script is the same without all of them. -/
theorem freeForm_inert_annotated :
    (∃ instruction, Instruction.ofCall .removeIndex [("column", .string "email"), ("columns", .string "phone"),
        ("table", .string "users"), ("unique", .bool true)] = .ok instruction ∧
      instruction.extra = [("columns", .string "phone"), ("unique", .bool true)]) ∧
      (((annotated.typedOnly.migration "index" {}).validated {} {}).1 >>= Renderer.postgres.render) =
        (((annotated.migration "index" {}).validated {} {}).1 >>= Renderer.postgres.render) := by
  obtain ⟨keeps, alike⟩ := freeForm_inert
  constructor
  · have made : Instruction.ofCall .removeIndex [("column", .string "email"), ("columns", .string "phone"),
        ("table", .string "users"), ("unique", .bool true)] = .ok (.change "users"
          (.removeIndex { columns := some (.one "email") }) [("columns", .string "phone"), ("unique", .bool true)]) := by
      rfl
    exact ⟨_, made, (keeps .removeIndex _).kept _ made⟩
  · exact (alike annotated "index" {} {} {} {} .nothing .nothing).script

end Operation

end SafeMigration
