import SafeMigration.Error
import SafeMigration.InstructionSet

/-!
Timeout settings, the timeouts a direction runs with, and the policies that they have to fit.

A direction with a strict lock gets the configured defaults, any other none, unless the migration gives its own.
Each lock brings a policy; every policy of a direction is checked once.
-/

namespace SafeMigration

/-- Defaults and bounds for timeouts. -/
structure TimeoutConfig where
  defaultLock : Timeout := .ofSeconds 5
  defaultStatement : Timeout := .ofSeconds 60
  maxLock : Duration := .ofSeconds 10
  maxStatement : Duration := .ofSeconds 60
  /-- The least time a concurrent index operation is given, if it is limited at all. -/
  minConcurrentStatement : Duration := .ofSeconds 3600
  deriving DecidableEq, Repr

/-- The timeouts that a direction runs with. -/
structure EffectiveTimeouts where
  lock : Timeout
  statement : Timeout
  deriving DecidableEq, Repr

namespace EffectiveTimeouts

/-- The default that applies under a lock. -/
def fallback (strictest : LockWeight) (default : Timeout) : Timeout :=
  match strictest with
  | .share => .disabled
  | .accessExclusive => default

/-- The timeouts of a direction: what the migration asks for, else what the lock calls for. -/
def resolve (lock statement : Option Timeout) (strictest : LockWeight) (config : TimeoutConfig) :
    EffectiveTimeouts :=
  { lock := lock.getD (fallback strictest config.defaultLock)
    statement := statement.getD (fallback strictest config.defaultStatement) }

end EffectiveTimeouts

/-- What an instruction asks of the timeouts. -/
inductive TimeoutPolicy where
  | noop
  | accessExclusive
  | concurrent
  deriving DecidableEq, Repr

namespace TimeoutPolicy

/-- Every policy, in the order in which they are checked. -/
def all : List TimeoutPolicy := [noop, accessExclusive, concurrent]

/-- The policy of an instruction. -/
def ofInstruction (instruction : Instruction) : TimeoutPolicy :=
  match instruction.lock? with
  | some .accessExclusive => accessExclusive
  | some .share => if instruction.isConcurrent then concurrent else noop
  | none => noop

/-- The distinct policies of some instructions. -/
def ofInstructions (instructions : List Instruction) : List TimeoutPolicy :=
  all.filter (instructions.map ofInstruction).contains

/-- What is wrong with one timeout under a strict lock. -/
def underStrictLock (name : TimeoutName) (timeout : Timeout) (maximum : Duration) : List Violation :=
  match timeout with
  | .disabled =>
    [.new .timeoutPolicy
      (name.name ++ " timeout must not be disabled for ACCESS EXCLUSIVE operations")]
  | .limit d =>
    if maximum.nanoseconds < d.nanoseconds then
      [.new .timeoutPolicy
        (name.name ++ " timeout " ++ d.text ++ " exceeds the maximum of " ++ maximum.text ++
          " for ACCESS EXCLUSIVE operations")]
    else []

/-- What is wrong with timeouts under a policy. -/
def evaluate (policy : TimeoutPolicy) (timeouts : EffectiveTimeouts) (config : TimeoutConfig) :
    List Violation :=
  match policy with
  | noop => []
  | accessExclusive =>
    underStrictLock .lock timeouts.lock config.maxLock ++
      underStrictLock .statement timeouts.statement config.maxStatement
  | concurrent =>
    match timeouts.statement with
    | .disabled => []
    | .limit d =>
      if d.nanoseconds < config.minConcurrentStatement.nanoseconds then
        [.new .timeoutPolicy
          ("statement timeout " ++ d.text ++ " is below the minimum of " ++
            config.minConcurrentStatement.text ++ " for concurrent index operations")]
      else []

/-- What is wrong with the timeouts of a direction. -/
def check (set : InstructionSet) (timeouts : EffectiveTimeouts) (config : TimeoutConfig) :
    List Violation :=
  (ofInstructions set.instructions).flatMap fun policy => policy.evaluate timeouts config

end TimeoutPolicy

end SafeMigration
