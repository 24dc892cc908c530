import SafeMigration.Reading

/-!
The words for values in messages about documents in the format YAML.
-/

namespace SafeMigration.Yaml

/-- In this format nothing is the unit value, and floating point numbers keep every digit in its place. -/
def vocabulary : Vocabulary := ⟨"YAML", "unit value", .pointed⟩

end SafeMigration.Yaml
