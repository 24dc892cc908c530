import SafeMigration.Proofs.Validation.Accepted

/-!
What a migration answers to requests, one after another.

A procedure may do something else each time it runs. It runs until it succeeds once, at most once for each request, and
what that run recorded is what every request gets from then on. So the violations of a migration, its timeouts and its
capabilities are about the same instructions once there are any.
-/

namespace SafeMigration

/-- What a migration is asked for. -/
inductive Request where
  | instructions (direction : Direction)
  | capabilities
  | validate (config : TimeoutConfig)
  | validated (config : TimeoutConfig)

/-- What it answers. -/
inductive Answer where
  | instructions (result : Except MigrationError InstructionSet)
  | capabilities (result : Except MigrationError (List Capability))
  | violations (violations : List Violation)
  | validated (result : Except MigrationError ValidatedMigration)

/-- What each direction gives, or fails with. -/
abbrev DirectionOutcome := Direction → Except MigrationError InstructionSet

/-- A request gets to a direction. What both directions need is not asked of the second when the first fails. -/
def Request.Reaches (outcome : DirectionOutcome) (direction : Direction) : Request → Prop
  | .instructions asked => direction = asked
  | .capabilities => direction = .down → ∃ set, outcome .up = .ok set
  | .validate _ | .validated _ => True

namespace Migration

/-- The answer to a request, and what is known then. -/
def answer (migration : Migration) (request : Request) (session : Session) : Answer × Session :=
  match request with
  | .instructions direction => (migration.instructions direction session).map .instructions id
  | .capabilities => (migration.capabilities session).map .capabilities id
  | .validate config => (migration.validate config session).map .violations id
  | .validated config => (migration.validated config session).map .validated id

/-- What is known after some requests. -/
def after (migration : Migration) : List Request → Session → Session
  | [], session => session
  | request :: requests, session => migration.after requests (migration.answer request session).2

/-- What a direction gives in a session. -/
def outcome (migration : Migration) (session : Session) : DirectionOutcome :=
  fun direction => (migration.instructions direction session).1

/-- The violations of both directions, if they give this. -/
def violationsOf (migration : Migration) (config : TimeoutConfig) (outcome : DirectionOutcome) : List Violation :=
  migration.directionViolations config .up (outcome .up) ++ migration.directionViolations config .down (outcome .down)

/-- The answer to a request, if the directions give this. -/
def answerOf (migration : Migration) (outcome : DirectionOutcome) : Request → Answer
  | .instructions direction => .instructions (outcome direction)
  | .capabilities => .capabilities do
    let up ← outcome .up
    let down ← outcome .down
    return Capability.ofSets [up, down]
  | .validate config => .violations (migration.violationsOf config outcome)
  | .validated config => .validated do
    requireSafe migration.name (migration.violationsOf config outcome)
    let up ← outcome .up
    let down ← outcome .down
    return ⟨migration.name, up, down, migration.timeouts config up, migration.timeouts config down⟩

/-- The migration whose directions have these runs, where there are any. -/
def behaving (migration : Migration) (runs : Direction → Option (Nat → Attempt)) : Migration :=
  { migration with up := (runs .up).map .ofAttempts, down := (runs .down).map .ofAttempts }

end Migration

/-- The first of some runs that succeeds. -/
structure FirstSuccess (runs : Nat → Attempt) (first : Nat) : Prop where
  counted : 1 ≤ first
  succeeds : (runs first).error? = none
  failures : ∀ number, 1 ≤ number → number < first → (runs number).error? ≠ none

/-- What a request does with a direction, and what the direction gives or would give. -/
structure Served (name : String) (direction : Direction) (runs? : Option (Nat → Attempt)) (reached : Prop)
    (before after : Recording) (outcome : Except MigrationError InstructionSet) : Prop where
  /-- A direction without a procedure says so. -/
  missing : runs? = none → outcome = .error (.notImplemented name direction) ∧ after = before
  /-- As long as every run failed the procedure runs once for each request, and that run decides. -/
  running : ∀ runs, runs? = some runs →
    (∀ number, 1 ≤ number → number ≤ before.runs → (runs number).error? ≠ none) →
    outcome = (runs (before.runs + 1)).result.map (⟨direction, ·⟩) ∧ (reached → after.runs = before.runs + 1)
  /-- After the first success there are no runs, and what that run recorded is given. -/
  kept : ∀ runs first, runs? = some runs → FirstSuccess runs first → first ≤ before.runs →
    outcome = .ok ⟨direction, (runs first).recorded⟩ ∧ after = before
  /-- A direction that the request does not get to is left alone. -/
  unreached : ¬ reached → after = before

namespace Migration

/-- What a migration that is handed on holds: the instructions that were looked at, and what follows from them. -/
structure Handed (migration : Migration) (config : TimeoutConfig) (outcome : DirectionOutcome)
    (valid : ValidatedMigration) : Prop where
  up : outcome .up = .ok valid.up
  down : outcome .down = .ok valid.down
  safe : migration.violationsOf config outcome = []
  upTimeouts : valid.upTimeouts = migration.timeouts config valid.up
  downTimeouts : valid.downTimeouts = migration.timeouts config valid.down
  capabilities : valid.capabilities = Capability.ofSets [valid.up, valid.down]

/-- How a migration whose directions have some runs meets a request that follows others. -/
structure Meets (migration : Migration) (runs : Direction → Option (Nat → Attempt)) (earlier : List Request)
    (request : Request) (outcome : DirectionOutcome) : Prop where
  answer : (migration.answer request (migration.after earlier {})).1 = migration.answerOf outcome request
  served : ∀ direction, Served migration.name direction (runs direction) (request.Reaches outcome direction)
    ((migration.after earlier {}).recording direction) ((migration.after (earlier ++ [request]) {}).recording direction)
    (outcome direction)
  /-- What is handed on is what was looked at, and nothing is found in it later. -/
  handed : ∀ config valid, request = .validated config →
    (migration.answer request (migration.after earlier {})).1 = .validated (.ok valid) →
      migration.Handed config outcome valid ∧ ∀ later,
        (migration.answer (.validate config) (migration.after (earlier ++ request :: later) {})).1 = .violations []

variable {migration : Migration} {direction : Direction} {session before after : Session} {config : TimeoutConfig}
  {request : Request} {runs : Direction → Option (Nat → Attempt)}

/-- A request leaves the same of its direction where the same was known of it. -/
theorem recording_instructions_congr (same : before.recording direction = after.recording direction) :
    (migration.instructions direction before).2.recording direction =
      (migration.instructions direction after).2.recording direction := by
  simp only [instructions, same]
  split
  · exact same
  · split
    · exact same
    · split <;> simp only [Session.recording_note]

theorem validate_fst (config : TimeoutConfig) (session : Session) :
    (migration.validate config session).1 = migration.violationsOf config (migration.outcome session) :=
  validate_eq ..

/-- Both directions are asked for to find the violations. -/
theorem recording_validate (config : TimeoutConfig) (session : Session) (direction : Direction) :
    (migration.validate config session).2.recording direction =
      (migration.instructions direction session).2.recording direction := by
  change (migration.instructions .down (migration.instructions .up session).2).2.recording direction = _
  cases direction with
  | up => exact recording_instructions_of_ne (by decide)
  | down => exact recording_instructions_congr (recording_instructions_of_ne (by decide))

/-- A direction that gave its instructions is known from then on. -/
theorem recorded_of_outcome {set : InstructionSet} (given : migration.outcome session direction = .ok set) :
    set.direction = direction ∧
      ((migration.instructions direction session).2.recording direction).recorded = some set.instructions := by
  obtain ⟨own, known, -⟩ := recorded_of_instructions (Prod.ext given rfl)
  exact ⟨own, known⟩

/-- Nothing is recorded once more when the instructions are handed on. -/
theorem validated_snd (config : TimeoutConfig) (session : Session) :
    (migration.validated config session).2 = (migration.validate config session).2 := by
  cases required : requireSafe migration.name (migration.validate config session).1 with
  | error e => simp only [validated, required]
  | ok _ =>
    obtain ⟨up, down, upOk, downOk, -, -⟩ := validate_eq_nil_iff.mp (requireSafe_eq_ok_iff.mp required)
    obtain ⟨isUp, knownUp⟩ := recorded_of_outcome upOk
    obtain ⟨isDown, knownDown⟩ := recorded_of_outcome downOk
    rw [← recording_validate config] at knownUp knownDown
    simp only [validated, required, instructions_of_recorded isUp knownUp, instructions_of_recorded isDown knownDown]

theorem capabilities_fst (session : Session) :
    (migration.capabilities session).1 = do
      let up ← migration.outcome session .up
      let down ← migration.outcome session .down
      return Capability.ofSets [up, down] := by
  simp only [outcome, ← @instructions_down_after_up migration session]
  unfold capabilities
  rcases migration.instructions .up session with ⟨_ | up, afterUp⟩
  · rfl
  · simp only [bind, Except.bind]
    rcases migration.instructions .down afterUp with ⟨_ | down, afterDown⟩ <;> rfl

/-- The second direction is asked for what both need only if the first gave its instructions. -/
theorem capabilities_snd (session : Session) :
    (migration.capabilities session).2 =
      match migration.outcome session .up with
      | .error _ => (migration.instructions .up session).2
      | .ok _ => (migration.instructions .down (migration.instructions .up session).2).2 := by
  unfold capabilities outcome
  rcases migration.instructions .up session with ⟨_ | up, afterUp⟩
  · rfl
  · simp only
    rcases migration.instructions .down afterUp with ⟨_ | down, afterDown⟩ <;> rfl

theorem validated_fst (config : TimeoutConfig) (session : Session) :
    (migration.validated config session).1 = do
      requireSafe migration.name (migration.violationsOf config (migration.outcome session))
      let up ← migration.outcome session .up
      let down ← migration.outcome session .down
      return ⟨migration.name, up, down, migration.timeouts config up, migration.timeouts config down⟩ := by
  rw [← validate_fst config session]
  cases required : requireSafe migration.name (migration.validate config session).1 with
  | error e =>
    simp only [validated, required]
    rfl
  | ok _ =>
    obtain ⟨up, down, upOk, downOk, -, -⟩ := validate_eq_nil_iff.mp (requireSafe_eq_ok_iff.mp required)
    rw [validated_of_recorded upOk downOk, required]
    simp only [outcome, upOk, downOk]
    rfl

/-- The answer to a request is settled by what the directions give when it is made. -/
theorem answer_fst (migration : Migration) (request : Request) (session : Session) :
    (migration.answer request session).1 = migration.answerOf (migration.outcome session) request := by
  cases request with
  | instructions direction => rfl
  | capabilities => exact congrArg Answer.capabilities (capabilities_fst session)
  | validate config => exact congrArg Answer.violations (validate_fst config session)
  | validated config => exact congrArg Answer.validated (validated_fst config session)

/-- A request that gets to a direction leaves what asking for it once leaves. -/
theorem recording_answer_of_reaches (reached : request.Reaches (migration.outcome session) direction) :
    (migration.answer request session).2.recording direction =
      (migration.instructions direction session).2.recording direction := by
  cases request with
  | instructions asked =>
    cases reached
    rfl
  | capabilities =>
    change (migration.capabilities session).2.recording direction = _
    rw [capabilities_snd]
    cases direction with
    | up =>
      split
      · rfl
      · exact recording_instructions_of_ne (by decide)
    | down =>
      obtain ⟨set, given⟩ := reached rfl
      rw [given]
      exact recording_instructions_congr (recording_instructions_of_ne (by decide))
  | validate config => exact recording_validate config session direction
  | validated config =>
    change (migration.validated config session).2.recording direction = _
    rw [validated_snd, recording_validate]

theorem recording_answer_of_not_reaches (unreached : ¬ request.Reaches (migration.outcome session) direction) :
    (migration.answer request session).2.recording direction = session.recording direction := by
  cases request with
  | instructions asked => exact recording_instructions_of_ne unreached
  | capabilities =>
    obtain ⟨rfl, failed⟩ := Classical.not_imp.mp unreached
    change (migration.capabilities session).2.recording .down = _
    rw [capabilities_snd]
    split
    · exact recording_instructions_of_ne (by decide)
    next set given => exact absurd ⟨set, given⟩ failed
  | validate config => exact absurd trivial unreached
  | validated config => exact absurd trivial unreached

/-- Either way a request leaves of a direction what asking for it once leaves, or leaves it alone. -/
theorem recording_answer (migration : Migration) (request : Request) (session : Session) (direction : Direction) :
    (migration.answer request session).2.recording direction =
        (migration.instructions direction session).2.recording direction ∨
      (migration.answer request session).2.recording direction = session.recording direction := by
  by_cases reached : request.Reaches (migration.outcome session) direction
  · exact .inl (recording_answer_of_reaches reached)
  · exact .inr (recording_answer_of_not_reaches reached)

end Migration

/-- What is known of a direction with these runs: nothing, or that all of them failed so far, or the first success. -/
inductive Remembers : Option (Nat → Attempt) → Recording → Prop
  | missing : Remembers none {}
  | failing (runs : Nat → Attempt) (count : Nat)
      (failures : ∀ number, 1 ≤ number → number ≤ count → (runs number).error? ≠ none) :
      Remembers (some runs) ⟨count, none⟩
  | succeeded (runs : Nat → Attempt) (first : Nat) (success : FirstSuccess runs first) :
      Remembers (some runs) ⟨first, some (runs first).recorded⟩

theorem Attempt.result_of_none {attempt : Attempt} (succeeds : attempt.error? = none) :
    attempt.result = .ok attempt.recorded := by
  rw [result, succeeds]

theorem Attempt.result_of_some {attempt : Attempt} {e : MigrationError} (fails : attempt.error? = some e) :
    attempt.result = .error e := by
  rw [result, fails]

/-- There is one first success. -/
theorem FirstSuccess.unique {runs : Nat → Attempt} {first other : Nat} (success : FirstSuccess runs first)
    (success' : FirstSuccess runs other) : first = other := by
  rcases Nat.lt_trichotomy first other with less | same | greater
  · exact absurd success.succeeds (success'.failures first success.counted less)
  · exact same
  · exact absurd success'.succeeds (success.failures other success'.counted greater)

namespace Migration

variable {migration profile : Migration} {direction : Direction} {session : Session} {request : Request}
  {runs : Direction → Option (Nat → Attempt)}

/-- Asking for a direction keeps to what is known of it. -/
theorem remembers_instructions {runs? : Option (Nat → Attempt)}
    (present : migration.procedure? direction = runs?.map .ofAttempts)
    (remembers : Remembers runs? (session.recording direction)) :
    Remembers runs? ((migration.instructions direction session).2.recording direction) := by
  generalize known : session.recording direction = recording at remembers
  cases remembers with
  | missing =>
    rw [instructions_of_absent (by rw [known]) present, known]
    exact .missing
  | failing runs count failures =>
    rw [instructions_of_procedure (by rw [known]) present, Session.recording_note, known]
    cases last : (runs (count + 1)).error? with
    | none =>
      have success : FirstSuccess runs (count + 1) :=
        ⟨Nat.le_add_left .., last, fun number counted less => failures number counted (Nat.le_of_lt_succ less)⟩
      rw [Procedure.ofAttempts, Attempt.result_of_none last]
      exact .succeeded runs (count + 1) success
    | some e =>
      rw [Procedure.ofAttempts, Attempt.result_of_some last]
      refine .failing runs (count + 1) fun number counted atMost => ?_
      rcases Nat.le_succ_iff.mp atMost with earlier | rfl
      · exact failures number counted earlier
      · rw [last]
        exact Option.some_ne_none e
  | succeeded runs first success =>
    rw [instructions_of_kept (by rw [known]), known]
    exact .succeeded runs first success

theorem remembers_answer {runs? : Option (Nat → Attempt)}
    (present : migration.procedure? direction = runs?.map .ofAttempts)
    (remembers : Remembers runs? (session.recording direction)) (request : Request) :
    Remembers runs? ((migration.answer request session).2.recording direction) := by
  rcases recording_answer migration request session direction with asked | same
  · rw [asked]
    exact remembers_instructions present remembers
  · rw [same]
    exact remembers

theorem after_append (migration : Migration) (earlier later : List Request) (session : Session) :
    migration.after (earlier ++ later) session = migration.after later (migration.after earlier session) := by
  induction earlier generalizing session with
  | nil => rfl
  | cons request earlier ih => exact ih _

/-- So every sequence of requests keeps to it. -/
theorem remembers_after {runs? : Option (Nat → Attempt)}
    (present : migration.procedure? direction = runs?.map .ofAttempts) (requests : List Request)
    (remembers : Remembers runs? (session.recording direction)) :
    Remembers runs? ((migration.after requests session).recording direction) := by
  induction requests generalizing session with
  | nil => exact remembers
  | cons request requests ih => exact ih (remembers_answer present remembers request)

/-- A direction that is known is not asked again. -/
theorem recording_after_of_kept {kept : List Instruction} (requests : List Request)
    (known : (session.recording direction).recorded = some kept) :
    (migration.after requests session).recording direction = session.recording direction := by
  induction requests generalizing session with
  | nil => rfl
  | cons request requests ih =>
    have same : (migration.answer request session).2.recording direction = session.recording direction := by
      rcases recording_answer migration request session direction with asked | same
      · rw [asked, instructions_of_kept known]
      · exact same
    rw [← same] at known ⊢
    exact ih known

/-- What a direction gave to a request is given ever after. -/
theorem outcome_after_of_given {set : InstructionSet} (reached : request.Reaches (migration.outcome session) direction)
    (given : migration.outcome session direction = .ok set) (later : List Request) :
    migration.outcome (migration.after (request :: later) session) direction = .ok set := by
  obtain ⟨own, known⟩ := recorded_of_outcome given
  rw [← recording_answer_of_reaches reached] at known
  rw [← recording_after_of_kept later known] at known
  exact congrArg Prod.fst (instructions_of_recorded own known)

/-- What a direction is remembered to do decides what a request gets from it. -/
theorem served_of_remembers {runs? : Option (Nat → Attempt)}
    (present : migration.procedure? direction = runs?.map .ofAttempts)
    (remembers : Remembers runs? (session.recording direction)) (request : Request) :
    Served migration.name direction runs? (request.Reaches (migration.outcome session) direction)
      (session.recording direction) ((migration.answer request session).2.recording direction)
      (migration.outcome session direction) := by
  have settled (same : (migration.instructions direction session).2 = session) :
      (migration.answer request session).2.recording direction = session.recording direction := by
    rcases recording_answer migration request session direction with asked | unchanged
    · rw [asked, same]
    · exact unchanged
  generalize known : session.recording direction = recording at remembers
  have unreached (unreached : ¬ request.Reaches (migration.outcome session) direction) :
      (migration.answer request session).2.recording direction = recording := by
    rw [recording_answer_of_not_reaches unreached, known]
  cases remembers with
  | missing =>
    have given := instructions_of_absent (by rw [known]) present
    refine ⟨fun _ => ⟨congrArg Prod.fst given, ?_⟩, nofun, nofun, unreached⟩
    rw [settled (congrArg Prod.snd given), known]
  | failing runs count failures =>
    have given := instructions_of_procedure (by rw [known]) present
    rw [known] at given
    refine ⟨nofun, ?_, ?_, unreached⟩
    · rintro _ ⟨⟩ -
      refine ⟨congrArg Prod.fst given, fun reached => ?_⟩
      rw [recording_answer_of_reaches reached, given, Session.recording_note]
    · rintro _ first ⟨⟩ success atMost
      exact absurd success.succeeds (failures first success.counted atMost)
  | succeeded runs first success =>
    have given := @instructions_of_kept migration direction session (runs first).recorded (by rw [known])
    refine ⟨nofun, ?_, ?_, unreached⟩
    · rintro _ ⟨⟩ failures
      exact absurd success.succeeds (failures first success.counted (Nat.le_refl first))
    · rintro _ other ⟨⟩ success' -
      cases success.unique success'
      exact ⟨congrArg Prod.fst given, by rw [settled (congrArg Prod.snd given), known]⟩

/-- A procedure is told by its runs. -/
theorem exists_attempts (procedure : Procedure) : ∃ attempts, .ofAttempts attempts = procedure := by
  refine ⟨fun number => match procedure number with
    | .ok recorded => ⟨recorded, none⟩
    | .error e => ⟨[], some e⟩, funext fun number => ?_⟩
  simp only [Procedure.ofAttempts]
  cases procedure number <;> rfl

/-- Every migration is one whose directions have some runs. -/
theorem exists_behaving (migration : Migration) : ∃ runs, migration.behaving runs = migration := by
  have attempts (procedure? : Option Procedure) : ∃ runs?, Option.map Procedure.ofAttempts runs? = procedure? := by
    cases procedure? with
    | none => exact ⟨none, rfl⟩
    | some procedure =>
      obtain ⟨attempts, rfl⟩ := exists_attempts procedure
      exact ⟨some attempts, rfl⟩
  obtain ⟨up, upEq⟩ := attempts migration.up
  obtain ⟨down, downEq⟩ := attempts migration.down
  refine ⟨fun direction => if direction = .up then up else down, ?_⟩
  simp only [behaving, if_true, reduceCtorEq, if_false, upEq, downEq]

theorem procedure?_behaving (profile : Migration) (runs : Direction → Option (Nat → Attempt))
    (direction : Direction) : (profile.behaving runs).procedure? direction = (runs direction).map .ofAttempts := by
  cases direction <;> rfl

/-- Nothing is known of a direction at first. -/
theorem remembers_nothing (runs? : Option (Nat → Attempt)) (direction : Direction) :
    Remembers runs? (({} : Session).recording direction) := by
  have nothing : ({} : Session).recording direction = {} := by cases direction <;> rfl
  rw [nothing]
  cases runs? with
  | none => exact .missing
  | some runs => exact .failing runs 0 fun number counted atMost => absurd atMost (Nat.not_le.mpr counted)

/-- Whatever was asked of a migration before, a request runs the procedure of a direction that it gets to unless one of
its runs succeeded, and else gets what the first success recorded. A migration that is handed on is handed on as it was
looked at, and no violations are found in it later. -/
theorem behaving_meets (profile : Migration) (runs : Direction → Option (Nat → Attempt)) (earlier : List Request)
    (request : Request) : ∃ outcome, (profile.behaving runs).Meets runs earlier request outcome := by
  refine ⟨(profile.behaving runs).outcome ((profile.behaving runs).after earlier {}), ?_⟩
  constructor
  case answer => exact answer_fst ..
  case served =>
    intro direction
    have present := procedure?_behaving profile runs direction
    rw [after_append]
    exact served_of_remembers present (remembers_after present earlier (remembers_nothing ..)) request
  case handed =>
    rintro config valid rfl answered
    obtain ⟨up, down, upOk, downOk, upSafe, downSafe, rfl⟩ := validated_eq_ok_iff.mp (Answer.validated.inj answered)
    refine ⟨⟨upOk, downOk, ?_, rfl, rfl, rfl⟩, fun later => ?_⟩
    · simp only [violationsOf, outcome, upOk, downOk, directionViolations, upSafe, downSafe, List.append_nil]
    · have reached (direction) : (Request.validated config).Reaches
          ((profile.behaving runs).outcome ((profile.behaving runs).after earlier {})) direction := trivial
      have upLater := outcome_after_of_given (reached .up) upOk later
      have downLater := outcome_after_of_given (reached .down) downOk later
      rw [after_append]
      exact congrArg Answer.violations (validate_eq_nil_iff.mpr ⟨up, down, upLater, downLater, upSafe, downSafe⟩)

/-- The first run breaks off after it dropped the table, and later runs add the index. -/
def breaksOffOnce : Nat → Attempt
  | 1 => ⟨[.change "users" .dropTable []], some (.config (.other "run 1"))⟩
  | _ => ⟨[.change "users" (.addIndex ["email"] "index_users_on_email" {}) []], none⟩

/-- A migration that breaks off once, and can always be reverted. -/
def secondRun : Direction → Option (Nat → Attempt)
  | .up => some breaksOffOnce
  | .down => some fun _ => ⟨[.change "users" (.removeIndex { name := some "index_users_on_email" }) []], none⟩

/-- When it is asked for its capabilities first, the request after that hands on what the second run recorded. -/
theorem behaving_meets_secondRun : ∃ outcome,
    (indexByItself.behaving secondRun).Meets secondRun [.capabilities] (.validated {}) outcome ∧
      outcome .up = .ok ⟨.up, [.change "users" (.addIndex ["email"] "index_users_on_email" {}) []]⟩ ∧
      ((indexByItself.behaving secondRun).after [.capabilities, .validated {}] {}).up.runs = 2 ∧
      ∃ valid, (indexByItself.behaving secondRun).Handed {} outcome valid := by
  obtain ⟨outcome, meets⟩ := behaving_meets indexByItself secondRun [.capabilities] (.validated {})
  have failed : ∀ number, 1 ≤ number → number ≤ 1 → (breaksOffOnce number).error? ≠ none := by
    intro number counted atMost
    cases Nat.le_antisymm counted atMost
    nofun
  obtain ⟨given, ran⟩ := (meets.served .up).running breaksOffOnce rfl failed
  have safe : ((indexByItself.behaving secondRun).validate {}
      ((indexByItself.behaving secondRun).after [.capabilities] {})).1 = [] := by decide +kernel
  obtain ⟨valid, success⟩ := exists_validated safe
  have answered := congrArg Answer.validated success
  exact ⟨outcome, meets, given, ran trivial, valid, (meets.handed {} valid rfl answered).1⟩

end Migration

end SafeMigration
