/-!
The tags of the nodes of a YAML document.

A tag is a row of bytes, since an escape in it may stand for any byte; a zero byte ends it. Tags of the standard types
share a beginning. Tags that begin with an exclamation mark are a document's own.
-/

namespace SafeMigration.Yaml

/-- The bytes of characters that have one byte each. -/
def asciiBytes (text : String) : List UInt8 := text.toList.map fun c => c.toNat.toUInt8

/-- The text that bytes in UTF-8 stand for. -/
def textOf? (bytes : List UInt8) : Option String := String.fromUTF8? ⟨bytes.toArray⟩

/-- A tag in full. -/
structure Tag where
  bytes : List UInt8
  deriving DecidableEq, Repr

namespace Tag

/-- The byte of an exclamation mark. -/
def mark : UInt8 := 0x21

/-- The bytes before the first zero, which are all that counts. -/
def significant (bytes : List UInt8) : List UInt8 := bytes.takeWhile (· != 0)

/-- The tag of a standard type. -/
def standard (name : String) : Tag := ⟨asciiBytes ("tag:yaml.org,2002:" ++ name)⟩

/-- Whether a tag is a document's own. -/
def isOwn (tag : Tag) : Bool := tag.bytes.head? == some mark

/-- The name in a tag of a document's own, if it is text. A mark without a name is named by itself. -/
def name? (tag : Tag) : Option String :=
  if tag.isOwn then textOf? (if tag.bytes.length == 1 then tag.bytes else tag.bytes.drop 1) else none

/-- The name by which tags are told apart: a mark before it makes no difference. -/
def bareName (name : String) : String :=
  match name.toList with
  | '!' :: c :: cs => String.ofList (c :: cs)
  | _ => name

end Tag

end SafeMigration.Yaml
