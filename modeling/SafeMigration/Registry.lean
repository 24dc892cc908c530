import SafeMigration.Template

/-!
The custom operations that are known by name.
-/

namespace SafeMigration

/-- Templates under the names of their operations, in the order of the names. -/
structure Registry where
  templates : Entries Template := []

namespace Registry

/-- Makes a custom operation known. The name of a built-in operation is refused; a custom name may be given again. -/
def register (registry : Registry) (name : String) (template : Template) :
    Except MigrationError Registry :=
  match Operation.ofName? name with
  | some _ => .error (.config (.reservedName name))
  | none => .ok ⟨Entries.put registry.templates name template⟩

/-- Whether a custom operation is known. -/
def contains (registry : Registry) (name : String) : Bool := Entries.has registry.templates name

/-- The names of the custom operations, sorted. -/
def names (registry : Registry) : List String := Entries.keys registry.templates

/-- The registry of some templates; a reserved name fails it. -/
def ofTemplates (templates : Entries Template) : Except MigrationError Registry :=
  templates.foldlM (fun registry entry => registry.register entry.1 entry.2) {}

/-- The instruction of a custom operation. -/
def construct (registry : Registry) (name : String) (arguments : Fields) :
    Except MigrationError CustomInstruction :=
  match Entries.get? registry.templates name with
  | some template => template.instantiate name arguments
  | none => .error (.unknownOperation name)

end Registry

end SafeMigration
