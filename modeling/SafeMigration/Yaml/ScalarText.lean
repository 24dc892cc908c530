import SafeMigration.Yaml.Cursor

/-!
The text of a scalar: plain, in quotes, or as a block.

The fuel of every reader is at least the number of characters left, so that it never ends a scalar early.
Inside a plain or a quoted scalar a single line end stands for a space, and further line ends for themselves. In a block
line ends are kept or folded, and the ones at its end are treated as its header says.
-/

namespace SafeMigration.Yaml

/-- What stands between two words of a scalar. -/
inductive Gap where
  | blanks (chars : List Char)
  /-- The first line end, unless it was escaped, and those after it. -/
  | broken (first : Option Char) (others : List Char)

namespace Gap

/-- No gap. -/
def empty : Gap := blanks []

/-- Whether a gap goes over a line end. -/
def isBroken : Gap → Bool
  | blanks _ => false
  | broken .. => true

/-- The characters that a gap stands for. -/
def chars : Gap → List Char
  | blanks cs => cs
  | broken (some '\n') [] => [' ']
  | broken (some '\n') others => others
  | broken (some c) others => c :: others
  | broken none others => others

/-- One more line end. -/
def addBreak (c : Char) : Gap → Gap
  | blanks _ => broken (some c) []
  | broken first others => broken first (others ++ [c])

/-- One more blank; after a line end it is indentation. -/
def addBlank (c : Char) : Gap → Gap
  | blanks cs => blanks (cs ++ [c])
  | broken first others => broken first others

end Gap

/-- Reads blanks and line ends. A tab may not stand for indentation before a column. -/
def gap? (tabsFrom : Nat) : Nat → Cursor → Gap → Option (Gap × Cursor)
  | 0, _, _ => none
  | fuel + 1, cursor, gap =>
    match cursor.rest with
    | [] => some (gap, cursor)
    | c :: _ =>
      if isBlank c then
        if gap.isBroken && cursor.column < tabsFrom && c == '\t' then none
        else gap? tabsFrom fuel (cursor.skip 1) (gap.addBlank c)
      else if isBreak c then gap? tabsFrom fuel cursor.skipLine (gap.addBreak c)
      else some (gap, cursor)

/-! ## Plain scalars -/

/-- The characters that structure a flow collection. -/
def isFlowMark (c : Char) : Bool := c == ',' || c == '[' || c == ']' || c == '\x7b' || c == '\x7d'

/-- Reads the characters of a plain scalar up to a gap or a mark that ends it. In a flow collection a colon
may not stand right before a mark. -/
def plainWord? (inFlow : Bool) : List Char → Option (List Char)
  | [] => some []
  | c :: cs =>
    if isBlank c || isBreak c then some []
    else if inFlow && c == ':' && (match cs with | d :: _ => isFlowMark d || d == '?' | [] => false) then none
    else if (c == ':' && atGap cs) || (inFlow && isFlowMark c) then some []
    else (plainWord? inFlow cs).map (c :: ·)

/-- Reads a plain scalar: its text, the place after it, and whether the gap after it goes over a line end. In a block
every line of it stands at or behind a column. What has been read is kept with its last character first. -/
def plainScalar? (inFlow : Bool) (column : Nat) :
    Nat → Cursor → List Char → Gap → Option (List Char × Cursor × Bool)
  | 0, _, _, _ => none
  | fuel + 1, cursor, text, gap =>
    if cursor.atDocumentMark || cursor.isAt '#' then some (text.reverse, cursor, gap.isBroken)
    else
      match plainWord? inFlow cursor.rest with
      | none => none
      | some word =>
        if word.isEmpty then some (text.reverse, cursor, gap.isBroken)
        else
          let text := word.reverse ++ (gap.chars.reverse ++ text)
          let cursor := cursor.skip word.length
          if !atGap cursor.rest || cursor.rest.isEmpty then some (text.reverse, cursor, false)
          else
            match gap? column fuel cursor .empty with
            | none => none
            | some (gap, cursor) =>
              if !inFlow && cursor.column < column then some (text.reverse, cursor, gap.isBroken)
              else plainScalar? inFlow column fuel cursor text gap

/-! ## Quoted scalars -/

/-- The character of an escape of one letter. -/
def simpleEscape? (c : Char) : Option Char :=
  match c with
  | '0' => some (Char.ofNat 0)
  | 'a' => some (Char.ofNat 7)
  | 'b' => some (Char.ofNat 8)
  | 't' => some '\t'
  | '\t' => some '\t'
  | 'n' => some '\n'
  | 'v' => some (Char.ofNat 11)
  | 'f' => some (Char.ofNat 12)
  | 'r' => some '\r'
  | 'e' => some (Char.ofNat 27)
  | ' ' => some ' '
  | '"' => some '"'
  | '/' => some '/'
  | '\\' => some '\\'
  | 'N' => some (Char.ofNat 0x85)
  | '_' => some (Char.ofNat 0xA0)
  | 'L' => some (Char.ofNat 0x2028)
  | 'P' => some (Char.ofNat 0x2029)
  | _ => none

/-- How many hexadecimal digits follow the letter of an escape. -/
def escapeDigits? (c : Char) : Option Nat :=
  match c with
  | 'x' => some 2
  | 'u' => some 4
  | 'U' => some 8
  | _ => none

/-- Reads an escape after its backslash: the character, and the length of the escape with the backslash. -/
def escape? (cs : List Char) : Option (Char × Nat) :=
  match cs with
  | [] => none
  | c :: rest =>
    match escapeDigits? c with
    | some count =>
      let digits := rest.take count
      match Text.readNat? 16 digits with
      | some n =>
        if digits.length == count && n.isValidChar then some (Char.ofNat n, count + 2) else none
      | none => none
    | none => (simpleEscape? c).map fun d => (d, 2)

/-- Where the characters of a quoted scalar between two gaps end. -/
inductive WordEnd where
  /-- At the closing quote. -/
  | closed
  /-- Before blanks, a line end or the end of the document. -/
  | gap
  /-- At a line end with a backslash before it. -/
  | escapedBreak
  deriving DecidableEq

/-- Reads the characters of a quoted scalar up to the closing quote or a gap; they are given last first. -/
def quotedWord? (single : Bool) : Nat → Cursor → List Char → Option (List Char × Cursor × WordEnd)
  | 0, _, _ => none
  | fuel + 1, cursor, text =>
    match cursor.rest with
    | [] => some (text, cursor, .gap)
    | c :: cs =>
      if isBlank c || isBreak c then some (text, cursor, .gap)
      else if single && c == '\'' && cs.head? == some '\'' then
        quotedWord? single fuel (cursor.skip 2) ('\'' :: text)
      else if c == (if single then '\'' else '"') then some (text, cursor.skip 1, .closed)
      else if !single && c == '\\' then
        if !cs.isEmpty && atLineEnd cs then some (text, (cursor.skip 1).skipLine, .escapedBreak)
        else
          match escape? cs with
          | none => none
          | some (d, length) => quotedWord? single fuel (cursor.skip length) (d :: text)
      else quotedWord? single fuel (cursor.skip 1) (c :: text)

/-- Reads a quoted scalar after its opening quote: its text and the place after its closing quote. What has been read is
kept with its last character first. -/
def quotedScalar? (single : Bool) : Nat → Cursor → List Char → Option (List Char × Cursor)
  | 0, _, _ => none
  | fuel + 1, cursor, text =>
    if cursor.atDocumentMark || cursor.rest.isEmpty then none
    else
      match quotedWord? single fuel cursor text with
      | none => none
      | some (text, cursor, ending) =>
        match ending with
        | .closed => some (text.reverse, cursor)
        | _ =>
          let start := if ending = .escapedBreak then Gap.broken none [] else Gap.empty
          -- A quote right after the line end of an escape closes the scalar.
          if ending = .escapedBreak && cursor.isAt (if single then '\'' else '"') then
            some (text.reverse, cursor.skip 1)
          else
            match gap? 0 fuel cursor start with
            | none => none
            | some (gap, cursor) => quotedScalar? single fuel cursor (gap.chars.reverse ++ text)

/-! ## Blocks -/

/-- What becomes of the line ends at the end of a block. -/
inductive Chomping where
  | strip
  /-- The first one stays. -/
  | clip
  | keep
  deriving DecidableEq

/-- What the header of a block says. -/
structure BlockHeader where
  chomping : Chomping := .clip
  /-- How far the block is indented, if that is said. -/
  increment : Option Nat := none

namespace BlockHeader

/-- The chomping that a character stands for. -/
def chomping? (c : Char) : Option Chomping :=
  if c == '+' then some .keep else if c == '-' then some .strip else none

/-- Reads a digit of indentation; zero is refused. -/
def increment? (cs : List Char) : Option (Option Nat × Nat) :=
  match cs with
  | c :: _ =>
    if Text.isDigit c then
      if c == '0' then none else some (some (c.toNat - '0'.toNat), 1)
    else some (none, 0)
  | [] => some (none, 0)

/-- Reads both marks of a header, in either order, and counts their characters. -/
def marks? (cs : List Char) : Option (BlockHeader × Nat) :=
  match cs.head?.bind chomping? with
  | some chomping =>
    (increment? (cs.drop 1)).map fun (increment, n) => (⟨chomping, increment⟩, n + 1)
  | none =>
    match increment? cs with
    | none => none
    | some (none, _) => some ({}, 0)
    | some (increment, n) =>
      match (cs.drop n).head?.bind chomping? with
      | some chomping => some (⟨chomping, increment⟩, n + 1)
      | none => some (⟨.clip, increment⟩, n)

/-- Reads the header of a block after its mark, with the line it stands on. -/
def read? (cursor : Cursor) : Option (BlockHeader × Cursor) :=
  match marks? cursor.rest with
  | none => none
  | some (header, count) =>
    let cursor := ((cursor.skip count).skipWhile isBlank).skipComment
    if !atLineEnd cursor.rest then none
    else some (header, if cursor.rest.isEmpty then cursor else cursor.skipLine)

end BlockHeader

/-- Reads indentation and empty lines: the line ends, the deepest column that was reached, and the place after. Without
a known indentation all spaces count. -/
def emptyLines? (indent : Option Nat) :
    Nat → Cursor → List Char → Nat → Option (List Char × Nat × Cursor)
  | 0, _, _, _ => none
  | fuel + 1, cursor, breaks, deepest =>
    let cursor := match indent with
      | some n => cursor.skip ((cursor.rest.takeWhile (· == ' ')).take (n - cursor.column)).length
      | none => cursor.skipWhile (· == ' ')
    let deepest := max deepest cursor.column
    let shallow := match indent with
      | some n => cursor.column < n
      | none => true
    if shallow && cursor.isAt '\t' then none
    else
      match cursor.rest with
      | c :: _ =>
        if isBreak c then emptyLines? indent fuel cursor.skipLine (breaks ++ [c]) deepest
        else some (breaks, deepest, cursor)
      | [] => some (breaks, deepest, cursor)

/-- What has been read of a block. -/
structure BlockText where
  /-- The text up to the end of the last line, with the last character first. -/
  text : List Char := []
  /-- The end of the last line, and the line ends after it. -/
  lineEnd : List Char := []
  breaks : List Char := []
  /-- Whether the last line begins with a blank. -/
  indented : Bool := false

/-- The text before one more line, with the last character first. Between two lines that are not indented further, a
folded line end is a space. -/
def BlockText.joined (block : BlockText) (folded nextIndented : Bool) : List Char :=
  if folded && block.lineEnd == ['\n'] && !block.indented && !nextIndented then
    (if block.breaks.isEmpty then [' '] else block.breaks.reverse) ++ block.text
  else block.breaks.reverse ++ (block.lineEnd.reverse ++ block.text)

/-- Reads the lines of a block. -/
def blockLines? (folded : Bool) (indent : Nat) : Nat → Cursor → BlockText → Option (BlockText × Cursor)
  | 0, _, _ => none
  | fuel + 1, cursor, block =>
    if cursor.column == indent && !cursor.rest.isEmpty then
      let indented := !cursor.rest.isEmpty && endsOr isBlank cursor.rest
      let line := cursor.rest.takeWhile (!isBreak ·)
      let text := line.reverse ++ block.joined folded indented
      let after := cursor.skip line.length
      let (lineEnd, after) := match after.rest with
        | c :: _ => ([c], after.skipLine)
        | [] => ([], after)
      match emptyLines? (some indent) fuel after [] 0 with
      | none => none
      | some (breaks, _, after) =>
        blockLines? folded indent fuel after ⟨text, lineEnd, breaks, indented⟩
    else some (block, cursor)

/-- The text of a block, with the line ends at its end treated as its header says. -/
def BlockText.chomped (block : BlockText) : Chomping → List Char
  | .strip => block.text.reverse
  | .clip => block.text.reverse ++ block.lineEnd
  | .keep => block.text.reverse ++ block.lineEnd ++ block.breaks

/-- Reads a block after its mark, inside a block of an indentation: its text and the place after it. -/
def blockScalar? (folded : Bool) (outer : Int) (fuel : Nat) (cursor : Cursor) : Option (List Char × Cursor) :=
  match BlockHeader.read? cursor with
  | none => none
  | some (header, cursor) =>
    let given := header.increment.map fun n => (max outer 0).toNat + n
    match emptyLines? given fuel cursor [] 0 with
    | none => none
    | some (breaks, deepest, cursor) =>
      let indent := given.getD (max (max deepest (outer + 1).toNat) 1)
      match blockLines? folded indent fuel cursor { breaks := breaks } with
      | none => none
      | some (block, cursor) => some (block.chomped header.chomping, cursor)

end SafeMigration.Yaml
