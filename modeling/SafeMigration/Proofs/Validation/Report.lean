import SafeMigration.Proofs.Recorder
import SafeMigration.Proofs.Validation.Accepted
import SafeMigration.Source

/-!
What is reported about the calls of a direction.

A call can be at fault in two ways: it is refused, so that it records nothing, or what it records breaks rules of its
own. Faults of the second kind are looked for once the direction has been recorded, and then in every call. But
recording ends at the first call that is refused, and what is said of that call is all that is said of the direction.
-/

namespace SafeMigration

namespace Call

variable (registry : Registry) (call : Call)

/-- Whether a call records nothing, as its operation is not known or its arguments do not suit it. -/
def isRefused : Bool :=
  match call.instruction registry with
  | .error _ => true
  | .ok _ => false

/-- What is wrong with a call by itself. -/
def faults : List Violation :=
  match call.instruction registry with
  | .error e => [.ofError e]
  | .ok instruction => instruction.violations

/-- Whether something is wrong with a call by itself. -/
def isFaulty : Bool := !(call.faults registry).isEmpty

/-- What is said of the calls of a direction: of the first that is refused, or of all of them if none is. -/
def reported (calls : List Call) : List Violation :=
  match calls.find? (isRefused registry) with
  | some first => first.faults registry
  | none => calls.flatMap (faults registry)

variable {registry call}

theorem isRefused_eq_false_iff :
    call.isRefused registry = false ↔ ∃ instruction, call.instruction registry = .ok instruction := by
  unfold isRefused
  cases call.instruction registry <;> simp

theorem isRefused_iff : call.isRefused registry = true ↔ ∃ e, call.instruction registry = .error e := by
  unfold isRefused
  cases call.instruction registry <;> simp

/-- There is one thing to say of a call that is refused. -/
theorem exists_faults_of_isRefused (refused : call.isRefused registry = true) :
    ∃ violation, call.faults registry = [violation] := by
  obtain ⟨e, failed⟩ := isRefused_iff.mp refused
  exact ⟨.ofError e, by rw [faults, failed]⟩

theorem isFaulty_iff : call.isFaulty registry = true ↔ call.faults registry ≠ [] := by
  simp [isFaulty]

theorem isFaulty_of_isRefused (refused : call.isRefused registry = true) : call.isFaulty registry = true := by
  obtain ⟨violation, same⟩ := exists_faults_of_isRefused refused
  simp [isFaulty, same]

/-- Calls that are not at fault add nothing. -/
theorem flatMap_faults_filter (calls : List Call) :
    (calls.filter (isFaulty registry)).flatMap (faults registry) = calls.flatMap (faults registry) := by
  induction calls with
  | nil => rfl
  | cons call calls ih =>
    cases faulty : call.isFaulty registry with
    | true => simp only [List.filter_cons_of_pos faulty, List.flatMap_cons, ih]
    | false =>
      have none : call.faults registry = [] := by simpa [isFaulty] using faulty
      simp [faulty, none, ih]

/-- Calls that are all at fault, with one thing to say of them, are one call. -/
theorem eq_singleton_of_flatMap_faults {calls : List Call} (faulty : ∀ c ∈ calls, c.isFaulty registry = true)
    (one : (calls.flatMap (faults registry)).length = 1) (member : call ∈ calls) : calls = [call] := by
  match calls with
  | [only] => rw [List.mem_singleton.mp member]
  | first :: second :: rest =>
    have firstFaulty := List.length_pos_iff.mpr (isFaulty_iff.mp (faulty first (by simp)))
    have secondFaulty := List.length_pos_iff.mpr (isFaulty_iff.mp (faulty second (by simp)))
    simp only [List.flatMap_cons, List.length_append] at one
    omega

variable {calls : List Call}

theorem reported_of_only
    (only : ∀ call ∈ calls, call.isRefused registry = true → calls.filter (isFaulty registry) = [call]) :
    reported registry calls = calls.flatMap (faults registry) := by
  unfold reported
  split
  next first found =>
    rw [← flatMap_faults_filter, only first (List.mem_of_find?_eq_some found) (List.find?_some found)]
    simp
  · rfl

/-- If as much is said of the calls as there is to say, then a call that is refused is the only one at fault. -/
theorem only_of_length_reported
    (same : (reported registry calls).length = (calls.flatMap (faults registry)).length) (member : call ∈ calls)
    (refused : call.isRefused registry = true) : calls.filter (isFaulty registry) = [call] := by
  unfold reported at same
  split at same
  next first found =>
    obtain ⟨violation, one⟩ := exists_faults_of_isRefused (List.find?_some found)
    rw [one, ← flatMap_faults_filter] at same
    refine eq_singleton_of_flatMap_faults (fun c kept => (List.mem_filter.mp kept).2) same.symm ?_
    exact List.mem_filter.mpr ⟨member, isFaulty_of_isRefused refused⟩
  next absent => exact absurd refused (List.find?_eq_none.mp absent call member)

/-- A call that records an instruction is not refused. -/
theorem find?_isRefused_append {instructions : List Instruction}
    (made : List.Forall₂ (fun call instruction => Call.instruction registry call = .ok instruction) calls instructions)
    (later : List Call) : (calls ++ later).find? (isRefused registry) = later.find? (isRefused registry) := by
  induction made with
  | nil => rfl
  | @cons call instruction _ _ records _ ih =>
    have accepted : call.isRefused registry = false := isRefused_eq_false_iff.mpr ⟨instruction, records⟩
    rw [List.cons_append, List.find?_cons_of_neg (by simp [accepted]), ih]

/-- Calls of which none is refused are at fault by what they record. -/
theorem reported_of_made {instructions : List Instruction}
    (made : List.Forall₂ (fun call instruction => Call.instruction registry call = .ok instruction) calls instructions) :
    reported registry calls = instructions.flatMap Instruction.violations := by
  have none := find?_isRefused_append made []
  rw [List.append_nil, List.find?_nil] at none
  simp only [reported, none]
  clear none
  induction made with
  | nil => rfl
  | cons records _ ih => rw [List.flatMap_cons, List.flatMap_cons, ih, faults, records]

/-- A call that is refused is all that is reported, if it is the first. -/
theorem reported_of_failed {instructions : List Instruction} {first : Call} {e : MigrationError}
    (made : List.Forall₂ (fun call instruction => Call.instruction registry call = .ok instruction) calls instructions)
    (failed : first.instruction registry = .error e) (later : List Call) :
    reported registry (calls ++ first :: later) = [.ofError e] := by
  have found := find?_isRefused_append made (first :: later)
  rw [List.find?_cons_of_pos (isRefused_iff.mpr ⟨e, failed⟩)] at found
  simp only [reported, found, faults, failed]

end Call

/-- Among some violations those about single calls of a direction: not those about its instructions together, nor about
its timeouts. -/
def Violation.aboutCalls (direction : Direction) (violations : List Violation) : List Violation :=
  violations.filter fun violation =>
    violation.direction = some direction ∧ violation.kind ≠ .crossInstruction ∧ violation.kind ≠ .timeoutPolicy

theorem Violation.aboutCalls_append (direction : Direction) (first second : List Violation) :
    aboutCalls direction (first ++ second) = aboutCalls direction first ++ aboutCalls direction second :=
  List.filter_append ..

theorem Violation.ofError_kind (e : MigrationError) :
    (ofError e).kind ≠ .crossInstruction ∧ (ofError e).kind ≠ .timeoutPolicy := by
  cases e <;> simp [ofError, new]

theorem Instruction.kind_of_mem_violations {instruction : Instruction} {violation : Violation}
    (member : violation ∈ instruction.violations) : violation.kind = .structural := by
  cases instruction with
  | change table change extra =>
    obtain ⟨text, -, rfl⟩ := List.mem_map.mp member
    rfl
  | custom instruction => cases member

theorem InstructionSet.kind_of_mem_isolationViolations {set : InstructionSet} {violation : Violation}
    (member : violation ∈ set.isolationViolations) : violation.kind = .crossInstruction := by
  unfold isolationViolations at member
  split at member
  · cases member
  · obtain ⟨instruction, -, rfl⟩ := List.mem_map.mp member
    rfl

namespace TimeoutPolicy

variable {violation : Violation}

theorem kind_of_mem_underStrictLock {name : TimeoutName} {timeout : Timeout} {maximum : Duration}
    (member : violation ∈ underStrictLock name timeout maximum) : violation.kind = .timeoutPolicy := by
  unfold underStrictLock at member
  split at member
  · simp_all [Violation.new]
  · split at member <;> simp_all [Violation.new]

theorem kind_of_mem_check {set : InstructionSet} {timeouts : EffectiveTimeouts} {config : TimeoutConfig}
    (member : violation ∈ check set timeouts config) : violation.kind = .timeoutPolicy := by
  obtain ⟨policy, -, found⟩ := List.mem_flatMap.mp member
  cases policy with
  | noop => cases found
  | accessExclusive =>
    rcases List.mem_append.mp found with found | found
    · exact kind_of_mem_underStrictLock found
    · exact kind_of_mem_underStrictLock found
  | concurrent =>
    simp only [evaluate] at found
    split at found
    · cases found
    · split at found <;> simp_all [Violation.new]

end TimeoutPolicy

namespace Migration

variable {migration : Migration} {config : TimeoutConfig} {direction other : Direction} {session : Session}

theorem direction_of_mem_directionViolations {recorded : Except MigrationError InstructionSet} {violation : Violation}
    (own : ∀ set, recorded = .ok set → set.direction = direction)
    (member : violation ∈ migration.directionViolations config direction recorded) :
    violation.direction = some direction := by
  cases recorded with
  | error e =>
    cases List.mem_singleton.mp member
    rfl
  | ok set =>
    obtain ⟨_, -, rfl⟩ := List.mem_map.mp member
    rw [← own set rfl]
    rfl

/-- What is said of the calls of one direction comes from that direction alone. -/
theorem aboutCalls_validate :
    Violation.aboutCalls direction (migration.validate config session).1 =
      Violation.aboutCalls direction
        (migration.directionViolations config direction (migration.instructions direction session).1) := by
  have own : ∀ asked set, (migration.instructions asked session).1 = .ok set → set.direction = asked :=
    fun asked set recorded => (recorded_of_instructions (Prod.ext recorded rfl)).1
  have silent : ∀ asked, asked ≠ direction → Violation.aboutCalls direction
      (migration.directionViolations config asked (migration.instructions asked session).1) = [] := by
    intro asked different
    refine List.filter_eq_nil_iff.mpr fun violation member => ?_
    simp [direction_of_mem_directionViolations (own asked) member, different]
  rw [validate_eq, Violation.aboutCalls_append]
  cases direction with
  | up => rw [silent .down (by decide), List.append_nil]
  | down => rw [silent .up (by decide), List.nil_append]

theorem aboutCalls_error (e : MigrationError) :
    Violation.aboutCalls direction (migration.directionViolations config direction (.error e)) =
      [(Violation.ofError e).inDirection direction] := by
  simp [Violation.aboutCalls, directionViolations, Violation.inDirection, Violation.ofError_kind]

/-- Of a direction that was recorded, what breaks rules of single instructions is what is said of its calls. -/
theorem aboutCalls_ok (instructions : List Instruction) :
    Violation.aboutCalls direction (migration.directionViolations config direction (.ok ⟨direction, instructions⟩)) =
      (instructions.flatMap Instruction.violations).map (.inDirection direction) := by
  simp only [Violation.aboutCalls, directionViolations, setViolations, List.map_append, List.filter_append]
  rw [List.filter_eq_self.mpr, List.filter_eq_nil_iff.mpr, List.filter_eq_nil_iff.mpr, List.append_nil, List.append_nil]
  · intro violation member
    obtain ⟨plain, checked, rfl⟩ := List.mem_map.mp member
    simp [Violation.inDirection, TimeoutPolicy.kind_of_mem_check checked]
  · intro violation member
    obtain ⟨plain, isolated, rfl⟩ := List.mem_map.mp member
    simp [Violation.inDirection, InstructionSet.kind_of_mem_isolationViolations isolated]
  · intro violation member
    obtain ⟨plain, single, rfl⟩ := List.mem_map.mp member
    obtain ⟨instruction, -, own⟩ := List.mem_flatMap.mp single
    simp [Violation.inDirection, Instruction.kind_of_mem_violations own]

end Migration

namespace MigrationSource

/-- The calls of a direction. -/
def calls? (source : MigrationSource) : Direction → Option (List Call)
  | .up => source.up
  | .down => source.down

variable {source : MigrationSource} {defaultName : String} {registry : Registry} {config : TimeoutConfig}
  {session : Session} {direction : Direction} {calls : List Call}

theorem procedure?_migration (given : source.calls? direction = some calls) :
    (source.migration defaultName registry).procedure? direction =
      some (Procedure.ofCalls direction registry calls) := by
  cases direction <;> simp_all [calls?, migration, Migration.procedure?]

/-- Whenever a direction is asked for, its calls decide what is given. -/
theorem instructions_of_calls (asked : (source.migration defaultName registry).Asked session)
    (given : source.calls? direction = some calls) :
    ((source.migration defaultName registry).instructions direction session).1 =
      (Procedure.ofCalls direction registry calls 1).map (⟨direction, ·⟩) := by
  have present : (source.migration defaultName registry).procedure? direction = _ := procedure?_migration given
  cases known : (session.recording direction).recorded with
  | some kept =>
    obtain ⟨procedure, isProcedure, ran⟩ := asked.kept known
    cases present.symm.trans isProcedure
    rw [Migration.instructions_of_kept known]
    exact congrArg (Except.map _) ran.symm
  | none =>
    rw [Migration.instructions_of_procedure known present]
    rfl

/-- A direction without calls has no instructions, whenever it is asked for. -/
theorem instructions_of_no_calls (asked : (source.migration defaultName registry).Asked session)
    (absent : source.calls? direction = none) :
    ((source.migration defaultName registry).instructions direction session).1 =
      .error (.notImplemented (source.name.getD defaultName) direction) := by
  have unimplemented : (source.migration defaultName registry).procedure? direction = none := by
    cases direction <;> simp_all [calls?, migration, Migration.procedure?]
  cases known : (session.recording direction).recorded with
  | some kept =>
    obtain ⟨procedure, present, -⟩ := asked.kept known
    cases unimplemented.symm.trans present
  | none =>
    rw [Migration.instructions_of_absent known unimplemented]
    rfl

/-- What is said of the calls of a direction. -/
theorem aboutCalls_validate_eq (asked : (source.migration defaultName registry).Asked session)
    (given : source.calls? direction = some calls) :
    Violation.aboutCalls direction ((source.migration defaultName registry).validate config session).1 =
      (Call.reported registry calls).map (.inDirection direction) := by
  rw [Migration.aboutCalls_validate, instructions_of_calls asked given, Recorder.ofCalls_eq_mapM]
  cases result : calls.mapM (Call.instruction registry) with
  | ok instructions =>
    rw [Call.reported_of_made (mapM_eq_ok_iff.mp result)]
    exact Migration.aboutCalls_ok instructions
  | error e =>
    obtain ⟨before, first, later, instructions, rfl, made, failed⟩ := mapM_eq_error_iff.mp result
    rw [Call.reported_of_failed made failed later]
    exact Migration.aboutCalls_error e

/-- What the report says of the calls of a direction is settled by these calls. It says all there is to say of each of
them exactly if a call that is refused is the only one at fault; else it has one violation, that of the first call that
is refused. -/
theorem aboutCalls_reported (source : MigrationSource) (defaultName : String) (registry : Registry)
    (config : TimeoutConfig) {session : Session} (asked : (source.migration defaultName registry).Asked session)
    {direction : Direction} {calls : List Call} (given : source.calls? direction = some calls) :
    let report := ((source.migration defaultName registry).validate config session).1
    Violation.aboutCalls direction report = (Call.reported registry calls).map (.inDirection direction) ∧
      (Violation.aboutCalls direction report = (calls.flatMap (Call.faults registry)).map (.inDirection direction) ↔
        ∀ call ∈ calls, call.isRefused registry = true → calls.filter (Call.isFaulty registry) = [call]) := by
  intro report
  have said : Violation.aboutCalls direction report = (Call.reported registry calls).map (.inDirection direction) :=
    aboutCalls_validate_eq asked given
  refine ⟨said, ?_⟩
  constructor
  · intro same call member refused
    have lengths := congrArg List.length (said.symm.trans same)
    rw [List.length_map, List.length_map] at lengths
    exact Call.only_of_length_reported lengths member refused
  · intro only
    rw [said, Call.reported_of_only only]

/-- A call that leads nowhere, beside one that adds a column without nulls and without a default. -/
def twoFaults : MigrationSource :=
  { up := some
      [⟨"rename_table", [("table", .string "users")]⟩,
       ⟨"add_column", [("column", .string "age"), ("null", .bool false), ("table", .string "users"),
         ("type", .string "bigint")]⟩]
    down := some [] }

/-- Only the first is reported. -/
theorem aboutCalls_reported_twoFaults :
    (twoFaults.migration "add_age" {}).Asked {} ∧
      twoFaults.calls? .up = some (twoFaults.up.getD []) ∧
      Violation.aboutCalls .up ((twoFaults.migration "add_age" {}).validate {} {}).1 =
        [⟨.unknownOperation, some .up, "Unknown operation 'rename_table'"⟩] := by
  have asked : (twoFaults.migration "add_age" {}).Asked {} := .nothing
  have given : twoFaults.calls? .up = some (twoFaults.up.getD []) := rfl
  obtain ⟨said, -⟩ := aboutCalls_reported twoFaults "add_age" {} {} asked given
  exact ⟨asked, given, said.trans (by decide +kernel)⟩

/-- The second call is at fault by itself, and nothing is said of it. -/
theorem unreported_twoFaults :
    ∃ call ∈ twoFaults.up.getD [],
      call.faults {} =
        [⟨.structural, none, "add_column users.age: a NOT NULL column needs a default value"⟩] ∧
      ∀ violation ∈ call.faults {},
        violation.inDirection .up ∉ ((twoFaults.migration "add_age" {}).validate {} {}).1 :=
  ⟨_, List.mem_cons_of_mem _ (List.mem_singleton_self _), by decide +kernel, by decide +kernel⟩

end MigrationSource

end SafeMigration
