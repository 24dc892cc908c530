import SafeMigration.Yaml.Tag

/-!
The tokens of a YAML document. Indentation has tokens of its own: a block begins where a line stands deeper
than the block around it, and ends where a line stands less deep.
-/

namespace SafeMigration.Yaml

/-- How a scalar is written. -/
inductive ScalarStyle where
  | plain
  | quoted
  /-- A block whose line ends are kept. -/
  | literal
  /-- A block whose line ends are folded. -/
  | folded
  deriving DecidableEq, Repr

/-- A token of a document. -/
inductive Token where
  | streamEnd
  | version (major minor : Nat)
  /-- A short form for the beginnings of tags. -/
  | tagHandle (handle : String) (beginning : List UInt8)
  | documentStart
  | documentEnd
  | blockSequenceStart
  | blockMappingStart
  | blockEnd
  | flowSequenceStart
  | flowSequenceEnd
  | flowMappingStart
  | flowMappingEnd
  | blockEntry
  | flowEntry
  | key
  | value
  | link (name : String)
  | anchor (name : String)
  | tag (handle : String) (suffix : List UInt8)
  | scalar (text : String) (style : ScalarStyle)
  deriving DecidableEq, Repr

end SafeMigration.Yaml
