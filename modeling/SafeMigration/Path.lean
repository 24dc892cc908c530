import SafeMigration.Text.Order

/-!
Paths of files, as text with slashes.

A path is taken apart into components: a leading slash, and the names between slashes. Empty names say nothing, and
neither does a single dot unless it stands first.
-/

namespace SafeMigration.Path

/-- A component of a path. -/
inductive Component where
  | root
  /-- The directory that the path starts from. -/
  | current
  | parent
  | name (name : String)
  deriving DecidableEq, Repr

/-- The component of a text between slashes, if it is one. -/
def component? (first : Bool) (cs : List Char) : Option Component :=
  if cs.isEmpty then none
  else if cs == ['.'] then (if first then some .current else none)
  else if cs == ['.', '.'] then some .parent
  else some (.name (String.ofList cs))

/-- The components of a path behind the characters of one that is being read, each with the position of its end. -/
def scan (first : Bool) (position : Nat) (pending : List Char) : List Char → List (Component × Nat)
  | [] => ((component? first pending.reverse).map fun c => (c, position)).toList
  | c :: cs =>
    if c == '/' then
      ((component? first pending.reverse).map fun component => (component, position)).toList ++
        scan false (position + 1) [] cs
    else scan first (position + 1) (c :: pending) cs

/-- The components of a path, each with the position of its end in the text. -/
def spans (path : String) : List (Component × Nat) :=
  match path.toList with
  | '/' :: cs => (.root, 1) :: scan false 1 [] cs
  | cs => scan true 0 [] cs

/-- The components of a path. -/
def components (path : String) : List Component := (spans path).map (·.1)

/-- The texts between slashes. -/
def cutAtSlashes : List Char → List (List Char)
  | [] => [[]]
  | c :: cs =>
    if c == '/' then [] :: cutAtSlashes cs
    else
      match cutAtSlashes cs with
      | [] => [[c]]
      | segment :: segments => (c :: segment) :: segments

/-- The texts between the slashes of a path, empty ones and dots included. -/
def segments (path : String) : List String := (cutAtSlashes path.toList).map String.ofList

/-- The text behind the last slash of a path. -/
def lastSegment (path : String) : String :=
  String.ofList (path.toList.reverse.takeWhile (· != '/')).reverse

/-- The path without slashes at its end; of the root a slash stays. -/
def withoutEndingSlashes (path : String) : String :=
  match path.toList.reverse.dropWhile (· == '/') with
  | [] => if path.isEmpty then path else "/"
  | cs => String.ofList cs.reverse

/-- Whether a path starts from the root. -/
def isAbsolute (path : String) : Bool := path.toList.head? == some '/'

/-- The name at the end of a path, if there is one. -/
def fileName? (path : String) : Option String :=
  match (components path).getLast? with
  | some (.name name) => some name
  | _ => none

/-- What a file is called in reports: the name at the end of its path, or the whole path if there is none. -/
def label (path : String) : String := (fileName? path).getD path

/-- The last dot of a name that does not begin with it: what stands before it, and what stands behind it. -/
def splitName (name : String) : String × Option String :=
  let reversed := name.toList.reverse
  let ending := reversed.takeWhile (· != '.')
  let stem := (reversed.drop (ending.length + 1)).reverse
  if stem.isEmpty then (name, none)
  else (String.ofList stem, some (String.ofList ending.reverse))

/-- The name at the end of a path without its ending; empty if there is no name. -/
def stem (path : String) : String :=
  match fileName? path with
  | some name => (splitName name).1
  | none => ""

/-- The ending of the name at the end of a path. -/
def extension? (path : String) : Option String := (fileName? path).bind fun name => (splitName name).2

/-- The directories on the way to a path, the nearest first; the last is the root or empty. -/
def parents (path : String) : List String :=
  match (spans path).reverse with
  | [] => []
  | _ :: before =>
    (before.map fun (_, position) => String.ofList (path.toList.take position)) ++
      (if isAbsolute path then [] else [""])

/-- The path without its last component, if it has one besides the root. -/
def parent? (path : String) : Option String := (parents path).head?

/-- Goes on from a path along another; an absolute one starts anew. -/
def join (path next : String) : String :=
  if isAbsolute next then next
  else
    match path.toList.getLast? with
    | none => next
    | some '/' => path ++ next
    | some _ => path ++ "/" ++ next

/-- The path with another name at its end. -/
def withFileName (path name : String) : String :=
  match fileName? path with
  | some _ => join ((parent? path).getD "") name
  | none => join path name

end SafeMigration.Path
