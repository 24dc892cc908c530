/-!
Command line arguments: options with and without values, then a command with options and paths of its own.

An option is written with two dashes and its name, or with one dash and its letter. Its value is the next argument, or
stands behind an equals sign, or directly behind the letter. Letters can share a dash. No option is given twice.
-/

namespace SafeMigration.Cli

/-- What an option is for. -/
inductive SwitchKind where
  /-- It takes a value, which is a path and not empty. -/
  | path
  /-- It takes a value, which can be any text. -/
  | text
  /-- It says yes. -/
  | flag
  | help
  | version
  deriving DecidableEq, Repr

/-- An option. -/
structure Switch where
  name : String
  letter : Char
  kind : SwitchKind
  deriving DecidableEq, Repr

/-- Why arguments cannot be understood. -/
inductive UsageFault where
  | unknownArgument (argument : String)
  | missingValue (option : String)
  | emptyValue (option : String)
  | unneededValue (option : String)
  | givenTwice (option : String)
  | unknownCommand (name : String)
  | missingCommand
  deriving DecidableEq, Repr

/-- The text of a fault. -/
def UsageFault.message : UsageFault → String
  | unknownArgument argument => "unexpected argument '" ++ argument ++ "' found"
  | missingValue option => "a value is required for '--" ++ option ++ "' but none was supplied"
  | emptyValue option => "a value is required for '" ++ option ++ "' but none was supplied"
  | unneededValue option => "unexpected value for '--" ++ option ++ "' found; no more were expected"
  | givenTwice option => "the argument '--" ++ option ++ "' cannot be used multiple times"
  | unknownCommand name => "unrecognized subcommand '" ++ name ++ "'"
  | missingCommand => "a subcommand is required but one was not provided"

/-- Why nothing is run. -/
inductive Halt where
  | help
  | version
  | fault (fault : UsageFault)
  deriving DecidableEq, Repr

/-- What has been given so far. -/
structure Given where
  values : List (String × String) := []
  flags : List String := []
  positional : List String := []
  deriving DecidableEq, Repr

namespace Given

/-- The value of an option. -/
def value? (given : Given) (name : String) : Option String := given.values.lookup name

/-- Adds the value of an option. -/
def addValue (given : Given) (switch : Switch) (value : String) : Except Halt Given :=
  if (given.value? switch.name).isSome then .error (.fault (.givenTwice switch.name))
  else if switch.kind = .path ∧ value.isEmpty then .error (.fault (.emptyValue ("--" ++ switch.name)))
  else .ok { given with values := given.values ++ [(switch.name, value)] }

/-- Adds an option without a value. -/
def addFlag (given : Given) (switch : Switch) : Except Halt Given :=
  match switch.kind with
  | .help => .error .help
  | .version => .error .version
  | .flag | .path | .text =>
    if given.flags.contains switch.name then .error (.fault (.givenTwice switch.name))
    else .ok { given with flags := given.flags ++ [switch.name] }

/-- Adds a path. -/
def addPath (given : Given) (path : String) : Except Halt Given :=
  if path.isEmpty then .error (.fault (.emptyValue "paths"))
  else .ok { given with positional := given.positional ++ [path] }

end Given

/-- Whether an option takes a value. -/
def Switch.takesValue (switch : Switch) : Bool := switch.kind = .path || switch.kind = .text

/-- Reads an option by its name, after its dashes; an option whose value is to follow is given back. -/
def readLong (known : List Switch) (given : Given) (cs : List Char) : Except Halt (Given × Option Switch) :=
  let name := String.ofList (cs.takeWhile (· != '='))
  let attached := match cs.dropWhile (· != '=') with
    | [] => none
    | _ :: value => some (String.ofList value)
  match known.find? (·.name == name) with
  | none => .error (.fault (.unknownArgument (String.ofList ('-' :: '-' :: cs))))
  | some switch =>
    match switch.takesValue, attached with
    | true, some value => (given.addValue switch value).map fun given => (given, none)
    | true, none => .ok (given, some switch)
    | false, some _ => .error (.fault (.unneededValue switch.name))
    | false, none => (given.addFlag switch).map fun given => (given, none)

/-- Reads options by their letters, after the dash. -/
def readLetters (known : List Switch) (given : Given) : List Char → Except Halt (Given × Option Switch)
  | [] => .ok (given, none)
  | c :: cs =>
    match known.find? (·.letter == c) with
    | none => .error (.fault (.unknownArgument (String.ofList ['-', c])))
    | some switch =>
      if switch.takesValue then
        match cs with
        | [] => .ok (given, some switch)
        | '=' :: value => (given.addValue switch (String.ofList value)).map fun given => (given, none)
        | value => (given.addValue switch (String.ofList value)).map fun given => (given, none)
      else
        match given.addFlag switch with
        | .error halt => .error halt
        | .ok given => readLetters known given cs

/-- Adds paths in order. -/
def Given.addPaths (given : Given) (paths : List String) : Except Halt Given :=
  paths.foldlM Given.addPath given

/-- Reads the arguments of a command: options, and paths if there can be any. Two dashes end the options. -/
def readArguments (known : List Switch) (given : Given) (pending : Option Switch) :
    List String → Except Halt Given
  | [] =>
    match pending with
    | some switch => .error (.fault (.missingValue switch.name))
    | none => .ok given
  | argument :: rest =>
    match pending, argument.toList with
    | some switch, '-' :: _ :: _ => .error (.fault (.missingValue switch.name))
    | some switch, _ =>
      match given.addValue switch argument with
      | .error halt => .error halt
      | .ok given => readArguments known given none rest
    | none, ['-', '-'] => given.addPaths rest
    | none, '-' :: '-' :: cs =>
      match readLong known given cs with
      | .error halt => .error halt
      | .ok (given, pending) => readArguments known given pending rest
    | none, '-' :: c :: cs =>
      match readLetters known given (c :: cs) with
      | .error halt => .error halt
      | .ok (given, pending) => readArguments known given pending rest
    | none, _ =>
      match given.addPath argument with
      | .error halt => .error halt
      | .ok given => readArguments known given none rest

/-- Reads options up to the name of a command: what is given before it, its name, and the arguments after it. -/
def readToCommand (known : List Switch) (commands : List String) (given : Given) (pending : Option Switch) :
    List String → Except Halt (Given × String × List String)
  | [] =>
    match pending with
    | some switch => .error (.fault (.missingValue switch.name))
    | none => .error (.fault .missingCommand)
  | argument :: rest =>
    match pending, argument.toList with
    | some switch, '-' :: _ :: _ => .error (.fault (.missingValue switch.name))
    | some switch, _ =>
      match given.addValue switch argument with
      | .error halt => .error halt
      | .ok given => readToCommand known commands given none rest
    | none, ['-', '-'] => .error (.fault .missingCommand)
    | none, '-' :: '-' :: cs =>
      match readLong known given cs with
      | .error halt => .error halt
      | .ok (given, pending) => readToCommand known commands given pending rest
    | none, '-' :: c :: cs =>
      match readLetters known given (c :: cs) with
      | .error halt => .error halt
      | .ok (given, pending) => readToCommand known commands given pending rest
    | none, _ =>
      if commands.contains argument then .ok (given, argument, rest)
      else .error (.fault (.unknownCommand argument))

end SafeMigration.Cli
