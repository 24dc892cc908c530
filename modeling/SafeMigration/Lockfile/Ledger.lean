import SafeMigration.Digest.Basic
import SafeMigration.Json.Reader
import SafeMigration.Json.Writer

/-!
What is remembered of compiled files: for each key the digests of the source and of the output, as a JSON document.

The document is read in the order of its text. The first thing that is wrong is reported, be it a value of another
type or a mistake in the text; a key that is given twice has its last record.
-/

namespace SafeMigration

/-- The digests of a source and of what it was compiled to. -/
structure DigestRecord where
  source : Digest
  compiled : Digest
  /-- The database that it was compiled for. -/
  database : Option String := none
  deriving DecidableEq, Repr

/-- The records of compiled files by their keys. -/
abbrev Ledger := Entries DigestRecord

namespace DigestRecord

/-- A record as JSON. -/
def json (record : DigestRecord) : Json :=
  .object ([("source_digest", .string record.source.hex), ("compiled_digest", .string record.compiled.hex)] ++
    (record.database.map fun database => ("database", .string database)).toList)

/-- What a part of a text is instead of what is expected there. -/
def mismatch {α : Type} (expected : String) : Json.Outline → Except DocumentFault α
  | .null => report .null
  | .bool b => report (.bool b)
  | .number n => report n.found
  | .string s => report (.string s)
  | .array .. => report .sequence
  | .object .. => report .map
  | .worthless | .broken => .error .malformed
where
  /-- Reports a value of the wrong type. -/
  report (found : Found) : Except DocumentFault α := .error (.mismatch [] (.wrongType found expected))

/-- Reads a text. -/
def readText : Json.Outline → Except DocumentFault String
  | .string s => .ok s
  | outline => mismatch "a string" outline

/-- Reads a digest, which is any text. -/
def readDigest (outline : Json.Outline) : Except DocumentFault Digest := (readText outline).map Digest.mk

/-- Reads a text that may be null. -/
def readDatabase : Json.Outline → Except DocumentFault (Option String)
  | .null => .ok none
  | outline => (readText outline).map some

/-- What has been read of a record. -/
structure Draft where
  source : Option Digest := none
  compiled : Option Digest := none
  database : Option (Option String) := none

/-- Reports a field that is given twice. -/
def unlessGiven {α : Type} (name : String) (given : Bool) (read : Except DocumentFault α) :
    Except DocumentFault α :=
  if given then .error (.mismatch [] (.duplicateField name)) else read

/-- Reads one field; a field without a meaning has to be well formed. -/
def Draft.readField (draft : Draft) (name : String) (outline : Json.Outline) : Except DocumentFault Draft :=
  if name = "source_digest" then
    unlessGiven name draft.source.isSome
      ((readDigest outline).map fun digest => { draft with source := some digest })
  else if name = "compiled_digest" then
    unlessGiven name draft.compiled.isSome
      ((readDigest outline).map fun digest => { draft with compiled := some digest })
  else if name = "database" then
    unlessGiven name draft.database.isSome
      ((readDatabase outline).map fun database => { draft with database := some database })
  else if outline.isWhole then .ok draft
  else .error .malformed

/-- Reads fields in their order. -/
def Draft.readFields (draft : Draft) : List (Option String × Json.Outline) → Except DocumentFault Draft
  | [] => .ok draft
  | (none, _) :: _ => .error .malformed
  | (some name, outline) :: fields =>
    match draft.readField name outline with
    | .ok draft => draft.readFields fields
    | .error fault => .error fault

/-- The record of what has been read. -/
def Draft.finish (draft : Draft) : Except DocumentFault DigestRecord :=
  match draft.source, draft.compiled with
  | none, _ => .error (.mismatch [] (.missingField "source_digest"))
  | some _, none => .error (.mismatch [] (.missingField "compiled_digest"))
  | some source, some compiled => .ok ⟨source, compiled, draft.database.getD none⟩

/-- Reports that a sequence of fields ends too early, unless it is the text that does. -/
def tooShort {α : Type} (count : Nat) (closed : Bool) : Except DocumentFault α :=
  if closed then .error (.mismatch [] (.wrongLength count "struct DigestRecord with 3 elements"))
  else .error .malformed

/-- Reads a record from its fields in a sequence; the last of them may be left out. -/
def readItems (items : List Json.Outline) (closed : Bool) : Except DocumentFault DigestRecord :=
  match items with
  | [] => tooShort 0 closed
  | [first] =>
    match readDigest first with
    | .error fault => .error fault
    | .ok _ => tooShort 1 closed
  | first :: second :: rest => do
    let source ← readDigest first
    let compiled ← readDigest second
    let database ← match rest with
      | [] => .ok none
      | third :: _ => readDatabase third
    if closed && rest.length ≤ 1 then .ok ⟨source, compiled, database⟩ else .error .malformed

/-- Reads a record, from an object or from a sequence of its fields. -/
def ofOutline : Json.Outline → Except DocumentFault DigestRecord
  | .object fields closed =>
    match ({} : Draft).readFields fields with
    | .error fault => .error fault
    | .ok draft => if closed then draft.finish else .error .malformed
  | .array items closed => readItems items closed
  | outline => mismatch "struct DigestRecord" outline

end DigestRecord

namespace Ledger

/-- The key of a file; those of different databases are kept apart. -/
def key (file : String) (database : Option String) : String :=
  match database with
  | some database => database ++ "/" ++ file
  | none => file

/-- A ledger as JSON. -/
def json (ledger : Ledger) : Json := .object (ledger.map fun entry => (entry.1, entry.2.json))

/-- The text of a ledger. -/
def text (ledger : Ledger) : String := String.ofList (ledger.json.pretty 0 ++ ['\n'])

/-- Adds the entries of a text to a ledger. -/
def readEntries (ledger : Ledger) : List (Option String × Json.Outline) → Except DocumentFault Ledger
  | [] => .ok ledger
  | (none, _) :: _ => .error .malformed
  | (some key, outline) :: entries =>
    match DigestRecord.ofOutline outline with
    | .error fault => .error fault
    | .ok record => readEntries (Entries.put ledger key record) entries

/-- Reads a ledger from an outline. -/
def ofOutline : Json.Outline → Except DocumentFault Ledger
  | .object entries closed =>
    match readEntries [] entries with
    | .error fault => .error fault
    | .ok ledger => if closed then .ok ledger else .error .malformed
  | outline => DigestRecord.mismatch "a map" outline

/-- Reads a ledger from its text. -/
def ofText (text : String) : Except DocumentFault Ledger :=
  let (outline, ended) := Json.Outline.ofChars text.toList
  match ofOutline outline with
  | .error fault => .error fault
  | .ok ledger => if ended then .ok ledger else .error .malformed

end Ledger

end SafeMigration
