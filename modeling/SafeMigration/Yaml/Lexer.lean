import SafeMigration.Yaml.ScalarText
import SafeMigration.Yaml.Token

/-!
Cutting a YAML document into tokens.

A colon turns what stands before it on the same line into a key, so the places where a key may begin are remembered
until it is clear that none does. A block begins at the column of its first entry or key and ends before a line
that stands less deep.
-/

namespace SafeMigration.Yaml

/-- A place where a key may have begun. -/
structure KeyCandidate where
  /-- Whether a key has to begin here, because the line stands at the indentation of the block. -/
  required : Bool
  /-- The number of tokens before it. -/
  position : Nat
  index : Nat
  line : Nat
  column : Nat

/-- The state of the reading of tokens. -/
structure Lexer where
  cursor : Cursor
  /-- The column of the innermost block; before the first one it is negative. -/
  indent : Int := -1
  /-- The columns of the blocks around it. -/
  outer : List Int := []
  /-- For each open flow collection, and last for the blocks around them, where a key may have begun. -/
  candidates : List (Option KeyCandidate) := [none]
  /-- Whether a key may begin here. -/
  keyAllowed : Bool := true
  /-- The tokens read, the last one first. -/
  tokens : List Token := []
  /-- The number of tokens read. -/
  count : Nat := 0

namespace Lexer

/-- Whether a flow collection is open. -/
def inFlow (lexer : Lexer) : Bool := 1 < lexer.candidates.length

/-- Adds a token. -/
def emit (lexer : Lexer) (token : Token) : Lexer :=
  { lexer with tokens := token :: lexer.tokens, count := lexer.count + 1 }

/-- Puts a token before those read since a position. -/
def emitAt (lexer : Lexer) (position : Nat) (token : Token) : Lexer :=
  let since := lexer.count - position
  { lexer with
    tokens := lexer.tokens.take since ++ token :: lexer.tokens.drop since
    count := lexer.count + 1 }

/-- Passes characters of a line. -/
def advance (lexer : Lexer) (count : Nat) : Lexer := { lexer with cursor := lexer.cursor.skip count }

/-- Says whether a key may begin at the next token. -/
def allowKey (lexer : Lexer) (allowed : Bool) : Lexer := { lexer with keyAllowed := allowed }

/-- Puts the innermost place where a key may have begun. -/
def setCandidate (lexer : Lexer) (candidate : Option KeyCandidate) : Lexer :=
  { lexer with candidates := candidate :: lexer.candidates.drop 1 }

/-- Gives up the innermost place where a key may have begun, unless a key has to be there. -/
def dropCandidate? (lexer : Lexer) : Option Lexer :=
  match lexer.candidates.head? with
  | some (some candidate) => if candidate.required then none else some (lexer.setCandidate none)
  | _ => some lexer

/-- Remembers that a key may begin here. -/
def saveCandidate? (lexer : Lexer) : Option Lexer :=
  if lexer.keyAllowed then
    lexer.dropCandidate?.map fun next =>
      next.setCandidate (some
        { required := !lexer.inFlow && lexer.indent == (lexer.cursor.column : Int)
          position := lexer.count
          index := lexer.cursor.index
          line := lexer.cursor.line
          column := lexer.cursor.column })
  else some lexer

/-- A key begins on the line of its colon, at most 1024 characters before it. -/
def isStale (lexer : Lexer) (candidate : KeyCandidate) : Bool :=
  candidate.line < lexer.cursor.line || candidate.index + 1024 < lexer.cursor.index

/-- Gives up all places that are too far back for a key. -/
def dropStale? (lexer : Lexer) : Option Lexer :=
  let stale (candidate : Option KeyCandidate) : Bool := candidate.any (isStale lexer)
  if lexer.candidates.any fun candidate => stale candidate && candidate.any (·.required) then none
  else
    some { lexer with
      candidates := lexer.candidates.map fun candidate => if stale candidate then none else candidate }

/-- Begins a block at a column if none is open there; its token goes before those since a position. -/
def openBlock (lexer : Lexer) (column position : Nat) (token : Token) : Lexer :=
  if !lexer.inFlow && lexer.indent < (column : Int) then
    { lexer.emitAt position token with
      indent := column
      outer := lexer.indent :: lexer.outer }
  else lexer

/-- Ends the blocks that are deeper than a column. -/
def closeBlocks (lexer : Lexer) (column : Int) : Lexer :=
  if lexer.inFlow then lexer
  else
    let rec close (lexer : Lexer) : List Int → Lexer
      | [] => lexer
      | enclosing :: rest =>
        if column < lexer.indent then
          close { lexer.emit .blockEnd with indent := enclosing, outer := rest } rest
        else lexer
    close lexer lexer.outer

/-- Passes blanks, comments and line ends before a token. A tab counts as a blank where no key may begin. -/
def toNextToken : Nat → Lexer → Lexer
  | 0, lexer => lexer
  | fuel + 1, lexer =>
    let cursor := lexer.cursor
    let cursor :=
      if cursor.column == 0 && cursor.rest.head?.any isByteOrderMark then cursor.skip 1 else cursor
    let tabs := lexer.inFlow || !lexer.keyAllowed
    let cursor := (cursor.skipWhile fun c => c == ' ' || (tabs && c == '\t')).skipComment
    match cursor.rest with
    | c :: _ =>
      if isBreak c then
        toNextToken fuel
          { lexer with cursor := cursor.skipLine, keyAllowed := lexer.keyAllowed || !lexer.inFlow }
      else { lexer with cursor := cursor }
    | [] => { lexer with cursor := cursor }

/-! ## Directives -/

/-- Reads a number of at most nine digits. -/
def versionNumber? (cursor : Cursor) : Option (Nat × Cursor) :=
  let digits := cursor.rest.takeWhile Text.isDigit
  if 9 < digits.length then none
  else (Text.readNat? 10 digits).map fun n => (n, cursor.skip digits.length)

/-- Reads the two numbers of a version. -/
def version? (cursor : Cursor) : Option (Token × Cursor) :=
  match versionNumber? (cursor.skipWhile isBlank) with
  | none => none
  | some (major, cursor) =>
    if !cursor.isAt '.' then none
    else (versionNumber? (cursor.skip 1)).map fun (minor, cursor) => (.version major minor, cursor)

/-- Reads the handle of a tag: an exclamation mark, a word, and another exclamation mark if there is one. -/
def tagHandle? (cs : List Char) : Option (List Char) :=
  match cs with
  | '!' :: rest =>
    let word := rest.takeWhile isWordChar
    if (rest.drop word.length).head? == some '!' then some ('!' :: word ++ ['!']) else some ('!' :: word)
  | _ => none

/-- The characters of a tag. Brackets and commas may only stand in a tag that is closed by a mark of its own. -/
def isTagChar (verbatim : Bool) (c : Char) : Bool :=
  isWordChar c || ";/?:@&=+$.%!~*'()".toList.contains c || (verbatim && ",[]".toList.contains c)

/-- How many bytes follow the first byte of a character in UTF-8. -/
def continuation? (byte : Nat) : Option Nat :=
  if byte < 0x80 then some 0
  else if 0xC0 ≤ byte && byte < 0xE0 then some 1
  else if 0xE0 ≤ byte && byte < 0xF0 then some 2
  else if 0xF0 ≤ byte && byte < 0xF8 then some 3
  else none

/-- Reads a byte written as a percent sign and two hexadecimal digits. -/
def escapedByte? : List Char → Option (Nat × List Char)
  | '%' :: a :: b :: rest => (Text.readNat? 16 [a, b]).map fun n => (n, rest)
  | _ => none

/-- Reads so many continuation bytes. -/
def escapedRest? : Nat → List Char → Option (List UInt8 × List Char)
  | 0, cs => some ([], cs)
  | count + 1, cs =>
    match escapedByte? cs with
    | some (byte, rest) =>
      if 0x80 ≤ byte && byte < 0xC0 then
        (escapedRest? count rest).map fun (bytes, rest) => (byte.toUInt8 :: bytes, rest)
      else none
    | none => none

/-- Reads escaped bytes that have the form of a character; they need not be one. -/
def escapedBytes? (cs : List Char) : Option (List UInt8 × List Char) :=
  match escapedByte? cs with
  | none => none
  | some (byte, rest) =>
    match continuation? byte with
    | none => none
    | some count => (escapedRest? count rest).map fun (bytes, rest) => (byte.toUInt8 :: bytes, rest)

/-- Reads the bytes of a tag; escaped ones are put in. -/
def tagBytes? (verbatim : Bool) : Nat → List Char → Option (List UInt8 × List Char)
  | 0, _ => none
  | _ + 1, [] => some ([], [])
  | fuel + 1, c :: cs =>
    if c == '%' then
      match escapedBytes? (c :: cs) with
      | none => none
      | some (escaped, rest) =>
        (tagBytes? verbatim fuel rest).map fun (bytes, rest) => (escaped ++ bytes, rest)
    else if isTagChar verbatim c then
      (tagBytes? verbatim fuel cs).map fun (bytes, rest) => (c.toNat.toUInt8 :: bytes, rest)
    else some ([], c :: cs)

/-- Reads the bytes of a tag at a place. -/
def tagText? (verbatim : Bool) (fuel : Nat) (cursor : Cursor) : Option (List UInt8 × Cursor) :=
  (tagBytes? verbatim fuel cursor.rest).map fun (bytes, rest) =>
    (bytes, cursor.skip (cursor.rest.length - rest.length))

/-- Reads a handle for tags and the beginning that it stands for. -/
def shortForm? (fuel : Nat) (cursor : Cursor) : Option (Token × Cursor) :=
  let cursor := cursor.skipWhile isBlank
  match tagHandle? cursor.rest with
  | none => none
  | some handle =>
    let after := cursor.skip handle.length
    let complete := handle.length == 1 || (1 < handle.length && handle.getLast? == some '!')
    if !complete || !after.rest.head?.any isBlank then none
    else
      match tagText? true fuel (after.skipWhile isBlank) with
      | some (byte :: bytes, after) =>
        if atGap after.rest then
          some (.tagHandle (String.ofList handle) (Tag.significant (byte :: bytes)), after)
        else none
      | _ => none

/-- Reads a directive with its line. -/
def directive? (fuel : Nat) (cursor : Cursor) : Option (Token × Cursor) :=
  let cursor := cursor.skip 1
  let name := cursor.rest.takeWhile isWordChar
  let after := cursor.skip name.length
  if !atGap after.rest then none
  else
    let read :=
      if name == "YAML".toList then version? after
      else if name == "TAG".toList then shortForm? fuel after
      else none
    match read with
    | none => none
    | some (token, after) =>
      let after := (after.skipWhile isBlank).skipComment
      if !atLineEnd after.rest then none
      else some (token, if after.rest.isEmpty then after else after.skipLine)

/-! ## Anchors and tags -/

/-- Reads the name of an anchor or an alias after its mark. -/
def anchorName? (cursor : Cursor) : Option (String × Cursor) :=
  let name := cursor.rest.takeWhile isWordChar
  let after := cursor.skip name.length
  let ended := atGap after.rest || endsOr ("?:,]\x7d%@`".toList.contains ·) after.rest
  if name.isEmpty || !ended then none else some (String.ofList name, after)

/-- Reads a tag: in full between angle brackets, or behind a handle. -/
def tag? (inFlow : Bool) (fuel : Nat) (cursor : Cursor) : Option (Token × Cursor) :=
  let read : Option (Token × Cursor) :=
    match cursor.rest with
    | '!' :: '<' :: _ =>
      match tagText? true fuel (cursor.skip 2) with
      | some (byte :: bytes, after) =>
        if after.isAt '>' then some (.tag "" (Tag.significant (byte :: bytes)), after.skip 1) else none
      | _ => none
    | rest =>
      match tagHandle? rest with
      | none => none
      | some handle =>
        let after := cursor.skip handle.length
        match tagText? false fuel after with
        | none => none
        | some (bytes, after) =>
          if 1 < handle.length && handle.getLast? == some '!' then
            if bytes.isEmpty then none
            else some (.tag (String.ofList handle) (Tag.significant bytes), after)
          else
            let suffix := Tag.significant (asciiBytes (String.ofList (handle.drop 1)) ++ bytes)
            if suffix.isEmpty then some (.tag "" [Tag.mark], after)
            else some (.tag "!" suffix, after)
  read.filter fun (_, after) => (inFlow && after.isAt ',') || atGap after.rest

/-! ## Tokens -/

/-- Ends all blocks before a mark that is outside of them. -/
def leaveBlocks? (lexer : Lexer) : Option Lexer :=
  (lexer.closeBlocks (-1)).dropCandidate?.map (·.allowKey false)

/-- The end of the document's characters. -/
def streamEnd? (lexer : Lexer) : Option Lexer := (leaveBlocks? lexer).map (·.emit .streamEnd)

/-- A mark of the start or the end of a document. -/
def documentMark? (lexer : Lexer) (token : Token) : Option Lexer :=
  (leaveBlocks? lexer).map fun next => (next.advance 3).emit token

/-- A directive. -/
def directiveToken? (fuel : Nat) (lexer : Lexer) : Option Lexer :=
  match leaveBlocks? lexer with
  | none => none
  | some next =>
    (directive? fuel next.cursor).map fun (token, cursor) => { next.emit token with cursor := cursor }

/-- The opening of a flow collection, which may itself begin a key. -/
def openFlow? (lexer : Lexer) (token : Token) : Option Lexer :=
  lexer.saveCandidate?.map fun next =>
    ({ next with candidates := none :: next.candidates, keyAllowed := true }.advance 1).emit token

/-- The closing of a flow collection. -/
def closeFlow? (lexer : Lexer) (token : Token) : Option Lexer :=
  lexer.dropCandidate?.map fun next =>
    let candidates := if next.inFlow then next.candidates.drop 1 else next.candidates
    ({ next with candidates := candidates, keyAllowed := false }.advance 1).emit token

/-- The comma between the parts of a flow collection. -/
def flowEntry? (lexer : Lexer) : Option Lexer :=
  lexer.dropCandidate?.map fun next => ((next.allowKey true).advance 1).emit .flowEntry

/-- Begins a block of entries or keys here, where one may begin. -/
def openHere? (lexer : Lexer) (token : Token) : Option Lexer :=
  if lexer.inFlow then some lexer
  else if lexer.keyAllowed then some (lexer.openBlock lexer.cursor.column lexer.count token)
  else none

/-- The dash before an entry of a block. -/
def blockEntry? (lexer : Lexer) : Option Lexer :=
  match openHere? lexer .blockSequenceStart with
  | none => none
  | some next => next.dropCandidate?.map fun next => ((next.allowKey true).advance 1).emit .blockEntry

/-- The question mark before a key. -/
def key? (lexer : Lexer) : Option Lexer :=
  match openHere? lexer .blockMappingStart with
  | none => none
  | some next =>
    next.dropCandidate?.map fun next => ((next.allowKey (!next.inFlow)).advance 1).emit .key

/-- The colon before a value. What may have begun a key is one now. -/
def value? (lexer : Lexer) : Option Lexer :=
  let ready : Option Lexer :=
    match lexer.candidates.head? with
    | some (some candidate) =>
      some ((((lexer.emitAt candidate.position .key).openBlock candidate.column candidate.position
        .blockMappingStart).setCandidate none).allowKey false)
    | _ => (openHere? lexer .blockMappingStart).map fun next => next.allowKey (!next.inFlow)
  ready.map fun next => (next.advance 1).emit .value

/-- A token that may begin a key, read from the place where it stands. -/
def content? (lexer : Lexer) (read : Cursor → Option (Token × Cursor)) : Option Lexer :=
  match lexer.saveCandidate? with
  | none => none
  | some next =>
    (read lexer.cursor).map fun (token, cursor) =>
      { (next.allowKey false).emit token with cursor := cursor }

/-- An alias or an anchor. -/
def reference? (lexer : Lexer) (token : String → Token) : Option Lexer :=
  lexer.content? fun cursor => (anchorName? (cursor.skip 1)).map fun (name, after) => (token name, after)

/-- A quoted scalar. -/
def quoted? (fuel : Nat) (single : Bool) (lexer : Lexer) : Option Lexer :=
  lexer.content? fun cursor =>
    (quotedScalar? single fuel (cursor.skip 1) []).map fun (text, after) =>
      (.scalar (String.ofList text) .quoted, after)

/-- A block of text. -/
def block? (fuel : Nat) (folded : Bool) (lexer : Lexer) : Option Lexer :=
  match lexer.dropCandidate? with
  | none => none
  | some next =>
    (blockScalar? folded next.indent fuel (next.cursor.skip 1)).map fun (text, cursor) =>
      { (next.allowKey true).emit
          (.scalar (String.ofList text) (if folded then .folded else .literal)) with cursor := cursor }

/-- A plain scalar; after a line end a key may begin again. -/
def plain? (fuel : Nat) (lexer : Lexer) : Option Lexer :=
  match lexer.saveCandidate? with
  | none => none
  | some next =>
    (plainScalar? lexer.inFlow (lexer.indent + 1).toNat fuel lexer.cursor [] .empty).map
      fun (text, cursor, broken) =>
        { (next.allowKey broken).emit (.scalar (String.ofList text) .plain) with cursor := cursor }

/-- Whether a plain scalar may begin with a character before others. -/
def beginsPlain (inFlow : Bool) (c : Char) (cs : List Char) : Bool :=
  (!isBlank c && !isBreak c && !"-?:,[]\x7b\x7d#&*!|>'\"%@`".toList.contains c) ||
    ((c == '-' || (!inFlow && (c == '?' || c == ':'))) && !atGap cs)

/-- Reads one token, with the ends of blocks before it. -/
def step? (fuel : Nat) (lexer : Lexer) : Option Lexer :=
  let lexer := toNextToken fuel lexer
  match lexer.dropStale? with
  | none => none
  | some lexer =>
    let lexer := lexer.closeBlocks lexer.cursor.column
    match lexer.cursor.rest with
    | [] => streamEnd? lexer
    | c :: cs =>
      let separate := lexer.inFlow || atGap cs
      if lexer.cursor.column == 0 && c == '%' then directiveToken? fuel lexer
      else if lexer.cursor.atDocumentMark then
        documentMark? lexer (if c == '-' then .documentStart else .documentEnd)
      else if c == '[' then openFlow? lexer .flowSequenceStart
      else if c == '\x7b' then openFlow? lexer .flowMappingStart
      else if c == ']' then closeFlow? lexer .flowSequenceEnd
      else if c == '\x7d' then closeFlow? lexer .flowMappingEnd
      else if c == ',' then flowEntry? lexer
      else if c == '-' && atGap cs then blockEntry? lexer
      else if c == '?' && separate then key? lexer
      else if c == ':' && separate then value? lexer
      else if c == '*' then reference? lexer .link
      else if c == '&' then reference? lexer .anchor
      else if c == '!' then lexer.content? (tag? lexer.inFlow fuel)
      else if c == '|' && !lexer.inFlow then block? fuel false lexer
      else if c == '>' && !lexer.inFlow then block? fuel true lexer
      else if c == '\'' then quoted? fuel true lexer
      else if c == '"' then quoted? fuel false lexer
      else if beginsPlain lexer.inFlow c cs then plain? fuel lexer
      else none

/-- Reads tokens up to the end of the characters. -/
def run? : Nat → Lexer → Option (List Token)
  | 0, _ => none
  | fuel + 1, lexer =>
    match step? fuel lexer with
    | none => none
    | some next =>
      if next.tokens.head? == some .streamEnd then some next.tokens.reverse else run? fuel next

end Lexer

/-- The tokens of a document, the last of which is its end. -/
def tokens? (characters : List Char) : Option (List Token) :=
  Lexer.run? (characters.length + 8) { cursor := { rest := characters } }

end SafeMigration.Yaml
