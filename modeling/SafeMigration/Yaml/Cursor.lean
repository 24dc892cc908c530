import SafeMigration.Text.Chars

/-!
The characters of a YAML document, and a place among them.

A document is UTF-8 without control characters. Its line ends are all turned into line feeds, except the two separators
that Unicode has for lines and paragraphs, which end a line and stay what they are.
-/

namespace SafeMigration.Yaml

/-- The characters that may occur in a document. -/
def isPermitted (c : Char) : Bool :=
  let n := c.toNat
  n == 9 || n == 10 || n == 13 || (0x20 ≤ n && n ≤ 0x7E) || n == 0x85 || (0xA0 ≤ n && n ≤ 0xD7FF) ||
    (0xE000 ≤ n && n ≤ 0xFFFD) || 0x10000 ≤ n

/-- Writes carriage returns, with or without a line feed, and next-line characters as line feeds. -/
def unifyLineEnds : List Char → List Char
  | [] => []
  | '\r' :: '\n' :: cs => '\n' :: unifyLineEnds cs
  | c :: cs => (if c == '\r' || c.toNat == 0x85 then '\n' else c) :: unifyLineEnds cs

/-- The characters of a document, if its bytes are text and every character is permitted. -/
def characters? (bytes : ByteArray) : Option (List Char) :=
  match String.fromUTF8? bytes with
  | none => none
  | some text => if text.toList.all isPermitted then some (unifyLineEnds text.toList) else none

/-- The mark that may stand before the text at the start of a line. -/
def isByteOrderMark (c : Char) : Bool := c.toNat == 0xFEFF

/-- A space or a tab. -/
def isBlank (c : Char) : Bool := c == ' ' || c == '\t'

/-- The end of a line. -/
def isBreak (c : Char) : Bool := c == '\n' || c.toNat == 0x2028 || c.toNat == 0x2029

/-- Whether a list is at its end or at a character of a class. -/
def endsOr (p : Char → Bool) : List Char → Bool
  | [] => true
  | c :: _ => p c

/-- At a blank, a line end or the end of the document. -/
def atGap (cs : List Char) : Bool := endsOr (fun c => isBlank c || isBreak c) cs

/-- At a line end or the end of the document. -/
def atLineEnd (cs : List Char) : Bool := endsOr isBreak cs

/-- The letters of names: of anchors, tag handles and directives. -/
def isWordChar (c : Char) : Bool := Text.isLetter c || Text.isDigit c || c == '-' || c == '_'

/-- A place in a document: what is still to be read, and where it begins. -/
structure Cursor where
  rest : List Char
  index : Nat := 0
  line : Nat := 0
  column : Nat := 0

namespace Cursor

/-- Passes so many characters of one line. -/
def skip (cursor : Cursor) (count : Nat) : Cursor :=
  { cursor with
    rest := cursor.rest.drop count
    index := cursor.index + count
    column := cursor.column + count }

/-- Passes the characters of a class, none of which ends a line. -/
def skipWhile (cursor : Cursor) (p : Char → Bool) : Cursor :=
  cursor.skip (cursor.rest.takeWhile p).length

/-- Passes the end of a line. -/
def skipLine (cursor : Cursor) : Cursor :=
  { rest := cursor.rest.drop 1, index := cursor.index + 1, line := cursor.line + 1, column := 0 }

/-- Whether the next character is the one asked for. -/
def isAt (cursor : Cursor) (c : Char) : Bool := cursor.rest.head? == some c

/-- Passes a comment, if one begins here. -/
def skipComment (cursor : Cursor) : Cursor :=
  if cursor.isAt '#' then cursor.skipWhile (!isBreak ·) else cursor

/-- Whether a line begins here with the mark of the start or the end of a document. -/
def atDocumentMark (cursor : Cursor) : Bool :=
  cursor.column == 0 &&
    (match cursor.rest with
      | '-' :: '-' :: '-' :: cs => atGap cs
      | '.' :: '.' :: '.' :: cs => atGap cs
      | _ => false)

end Cursor

end SafeMigration.Yaml
