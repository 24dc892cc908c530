import SafeMigration.Instruction.Basic
import SafeMigration.Json.Shape
import SafeMigration.Json.Writer

/-!
Custom operations given as statements with placeholders.

A placeholder is a name in braces. Each is replaced by the argument of that name: a string by its text, any other value
by its JSON text. What is put in is not looked at again.
-/

namespace SafeMigration

/-- A custom operation: statements with placeholders, and what is known about the operation. -/
structure Template where
  /-- The lock it takes; it is not classified without one. -/
  lock : Option LockWeight
  /-- The argument that names the table. -/
  tableArgument : String
  statements : List String
  deriving DecidableEq, Repr

/-- A part of a statement: a character that stands for itself, or a placeholder. -/
inductive Segment where
  | literal (char : Char)
  | placeholder (name : String)
  deriving DecidableEq, Repr

namespace Segment

/-- The characters a name may begin with. -/
def startsName (c : Char) : Bool := Text.isLetter c || c == '_'

/-- The characters a name may go on with. -/
def continuesName (c : Char) : Bool := startsName c || Text.isDigit c

/-- The name before the closing brace, after an opening brace. -/
def name? (cs : List Char) : Option (List Char) :=
  let name := cs.takeWhile continuesName
  if name.head?.any startsName && (cs.drop name.length).head? == some '\x7d' then some name else none

/-- Cuts a statement into its parts, after so many characters that belong to the placeholder before. -/
def cut : Nat → List Char → List Segment
  | _, [] => []
  | skip + 1, _ :: cs => cut skip cs
  | 0, c :: cs =>
    match if c == '\x7b' then name? cs else none with
    | some name => placeholder (String.ofList name) :: cut (name.length + 1) cs
    | none => literal c :: cut 0 cs

/-- Cuts a statement into its parts. -/
def ofText (statement : String) : List Segment := cut 0 statement.toList

/-- The names of the placeholders that no argument is given for. -/
def missing (arguments : Fields) (segments : List Segment) : List String :=
  segments.filterMap fun
    | literal _ => none
    | placeholder name => if Entries.has arguments name then none else some name

/-- The text of an argument in a statement. -/
def argumentChars : Json → List Char
  | .string s => s.toList
  | value => value.compact

/-- The characters of a part, with the argument in place of a placeholder. -/
def expand (arguments : Fields) : Segment → List Char
  | literal c => [c]
  | placeholder name =>
    match Entries.get? arguments name with
    | some value => argumentChars value
    | none => []

end Segment

namespace Template

/-- The fields of a template in a document. -/
def shape : Json.Shape Template :=
  .mk <$> .maybe "lock" LockWeight.ofJson <*> .optional "table_argument" Json.asString "table"
    <*> .required "sql" (Json.asList Json.asString)

/-- Reads a template from a document. -/
def ofJson (value : Json) : Except Mismatch Template := shape.ofJson "struct OperationTemplate" value

/-- One statement with the arguments put in. -/
def expand (operation : String) (arguments : Fields) (statement : String) :
    Except MigrationError String :=
  let segments := Segment.ofText statement
  match Segment.missing arguments segments with
  | [] => .ok (String.ofList (segments.flatMap (Segment.expand arguments)))
  | names =>
    .error (.invalidArgument operation
      (.rule ("missing argument(s): " ++ String.intercalate ", " names)))

/-- The instruction of a custom operation called with arguments. -/
def instantiate (template : Template) (operation : String) (arguments : Fields) :
    Except MigrationError CustomInstruction := do
  let statements ← template.statements.mapM (expand operation arguments)
  return {
    name := operation
    table := (Entries.get? arguments template.tableArgument).bind Json.string?
    lock := template.lock
    statements := statements
    arguments := arguments }

end Template

end SafeMigration
