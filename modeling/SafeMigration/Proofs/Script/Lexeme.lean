import Mathlib.Data.List.Forall2
import SafeMigration.Text.Blank
import SafeMigration.Text.Chars

/-!
How the text of a script falls into statements when it is read.

A double quote opens a name and a single quote opens a string; each is closed by the next quote of its kind that is not
doubled. Outside of both, two dashes start a comment up to the end of the line, and a semicolon ends a statement.

Texts are read in parts: what a part is read as is said with everything that follows it as a parameter.
-/

namespace SafeMigration.Sql

/-- What a quote encloses. -/
inductive Quote where
  | name
  | string
  deriving DecidableEq, Repr

namespace Quote

/-- The character of a quote. -/
def char : Quote → Char
  | name => '"'
  | string => '\''

/-- The quote that a character is. -/
def of? (c : Char) : Option Quote :=
  if c = '"' then some name else if c = '\'' then some string else none

@[simp] theorem of?_char (quote : Quote) : of? quote.char = some quote := by cases quote <;> rfl

end Quote

/-- The smallest parts of a script. -/
inductive Lexeme where
  /-- A character outside of quotes. -/
  | mark (c : Char)
  /-- A text in quotes, with the quotes inside it no longer doubled. -/
  | quoted (quote : Quote) (content : String)
  /-- The end of a statement. -/
  | stop
  deriving DecidableEq, Repr

namespace Lexeme

/-- A character that stands outside of quotes and is none. -/
def ofChar (c : Char) : Lexeme := if c = ';' then stop else mark c

def isBlank : Lexeme → Bool
  | mark c => Text.isBlank c
  | _ => false

def isQuoted : Lexeme → Bool
  | quoted .. => true
  | _ => false

end Lexeme

/-- The characters that end a line: the newline, and possibly others that cannot be seen. -/
structure LineEnds where
  ends : Char → Bool
  newline : ends '\n' = true
  visible : ∀ c, ' ' ≤ c → c ≤ '~' → ends c = false

namespace LineEnds

/-- Only the newline ends a line. -/
def newlines : LineEnds where
  ends c := c == '\n'
  newline := rfl
  visible c above _ := by
    by_contra ends
    obtain rfl : c = '\n' := by simpa using ends
    exact absurd above (by decide)

end LineEnds

/-- Where a reader is. -/
inductive Mode where
  /-- Outside of quotes and comments. -/
  | code
  | comment
  /-- Between quotes, after what has been read of their content. -/
  | inside (quote : Quote) (content : List Char)
  /-- The same, after the first of two quotes that stand for one. -/
  | doubled (quote : Quote) (content : List Char)

/-- Reads a text to its end. There is no result if a quote is left open. -/
def scan (lines : LineEnds) : Mode → List Char → Option (List Lexeme)
  | .code, [] | .comment, [] => some []
  | .inside .., [] | .doubled .., [] => none
  | .code, c :: cs =>
    match Quote.of? c with
    | some quote => scan lines (.inside quote []) cs
    | none =>
      if c = '-' ∧ cs.head? = some '-' then scan lines .comment cs
      else (scan lines .code cs).map (Lexeme.ofChar c :: ·)
  | .comment, c :: cs =>
    if lines.ends c then (scan lines .code cs).map (Lexeme.mark c :: ·) else scan lines .comment cs
  | .inside quote content, c :: cs =>
    if c ≠ quote.char then scan lines (.inside quote (content ++ [c])) cs
    else if cs.head? = some quote.char then scan lines (.doubled quote content) cs
    else (scan lines .code cs).map (Lexeme.quoted quote (String.ofList content) :: ·)
  | .doubled quote content, c :: cs => scan lines (.inside quote (content ++ [c])) cs

/-- The statements of what was read, without the blanks before each, after the beginning of the first. -/
def statementsAfter (beginning : List Lexeme) : List Lexeme → List (List Lexeme)
  | [] => if beginning = [] then [] else [beginning]
  | .stop :: rest => beginning :: statementsAfter [] rest
  | lexeme :: rest =>
    if beginning = [] ∧ lexeme.isBlank then statementsAfter [] rest else statementsAfter (beginning ++ [lexeme]) rest

/-- The statements of a text, without the blanks before each. -/
def split (lines : LineEnds) (text : List Char) : Option (List (List Lexeme)) :=
  (scan lines .code text).map (statementsAfter [])

example : split .newlines "-- a;\nB \"c;\"\"d\";\n'e--'".toList =
    some [[.mark 'B', .mark ' ', .quoted .name "c;\"d"], [.quoted .string "e--"]] := by cbv

variable {lines : LineEnds}

/-- Characters that are read as they are wherever they stand outside of quotes and comments. -/
def isOrdinary (c : Char) : Bool := (Quote.of? c).isNone && c != ';' && c != '-'

theorem scan_ordinary {c : Char} (ordinary : isOrdinary c = true) (rest : List Char) :
    scan lines .code (c :: rest) = (scan lines .code rest).map (.mark c :: ·) := by
  simp only [isOrdinary, Bool.and_eq_true, Option.isNone_iff_eq_none, bne_iff_ne] at ordinary
  obtain ⟨⟨unquoted, noStop⟩, noDash⟩ := ordinary
  simp only [scan, unquoted, noDash, false_and, if_false, Lexeme.ofChar, noStop]

theorem scan_all_ordinary {cs : List Char} (ordinary : ∀ c ∈ cs, isOrdinary c = true) (rest : List Char) :
    scan lines .code (cs ++ rest) = (scan lines .code rest).map (cs.map .mark ++ ·) := by
  induction cs with
  | nil => simp
  | cons c cs ih =>
    obtain ⟨first, others⟩ := List.forall_mem_cons.mp ordinary
    simp [scan_ordinary first, ih others, Function.comp_def]

/-- A dash is read as it is if no other follows. -/
theorem scan_dash {rest : List Char} (single : rest.head? ≠ some '-') :
    scan lines .code ('-' :: rest) = (scan lines .code rest).map (.mark '-' :: ·) := by
  simp [scan, single, Quote.of?, Lexeme.ofChar]

theorem scan_stop (rest : List Char) :
    scan lines .code (';' :: rest) = (scan lines .code rest).map (.stop :: ·) := by
  simp [scan, Quote.of?, Lexeme.ofChar]

theorem scan_comment_line {line : List Char} (oneLine : ∀ c ∈ line, lines.ends c = false) (rest : List Char) :
    scan lines .comment (line ++ '\n' :: rest) = (scan lines .code rest).map (.mark '\n' :: ·) := by
  induction line with
  | nil => simp [scan, lines.newline]
  | cons c line ih =>
    obtain ⟨first, others⟩ := List.forall_mem_cons.mp oneLine
    simp [scan, first, ih others]

theorem scan_comment {line : List Char} (oneLine : ∀ c ∈ line, lines.ends c = false) (rest : List Char) :
    scan lines .code ('-' :: '-' :: (line ++ '\n' :: rest)) =
      (scan lines .code rest).map (.mark '\n' :: ·) := by
  -- The second dash is read as part of the comment.
  have dash : lines.ends '-' = false := lines.visible _ (by decide) (by decide)
  simp [scan, Quote.of?, dash, scan_comment_line oneLine]

/-- The content of a quote, with its quotes doubled, is read up to the closing quote. -/
theorem scan_doubled {quote : Quote} {rest : List Char} (apart : rest.head? ≠ some quote.char)
    (cs content : List Char) :
    scan lines (.inside quote content) (Text.doubled quote.char cs ++ quote.char :: rest) =
      (scan lines .code rest).map (.quoted quote (String.ofList (content ++ cs)) :: ·) := by
  -- What was read of the content grows with each character, so it is left open.
  induction cs generalizing content with
  | nil => simp [Text.doubled, scan, apart]
  | cons c cs ih =>
    by_cases isQuote : c = quote.char
    · simp [Text.doubled, isQuote, scan, ih]
    · simp [Text.doubled, isQuote, scan, ih]

/-- A text that is enclosed is read as itself if no such quote follows. -/
theorem scan_enclosed (quote : Quote) (s : String) {rest : List Char} (apart : rest.head? ≠ some quote.char) :
    scan lines .code ((Text.enclose quote.char s).toList ++ rest) =
      (scan lines .code rest).map (.quoted quote s :: ·) := by
  have content : scan lines (.inside quote []) _ = _ := scan_doubled apart s.toList []
  simpa [Text.enclose, scan] using content

/-- A part of a text that is read as some statements, whatever statements follow. -/
def Splits (lines : LineEnds) (text : List Char) (statements : List (List Lexeme)) : Prop :=
  ∀ rest, split lines (text ++ rest) = (split lines rest).map (statements ++ ·)

namespace Splits

variable {text other : List Char} {statements others : List (List Lexeme)}

theorem nil : Splits lines [] [] := fun rest => by simp

theorem append (first : Splits lines text statements) (second : Splits lines other others) :
    Splits lines (text ++ other) (statements ++ others) := fun rest => by
  simp [first (other ++ rest), second rest, Function.comp_def]

/-- A text that is read as some statements has exactly these. -/
theorem split_eq (splits : Splits lines text statements) : split lines text = some statements := by
  simpa [split, scan, statementsAfter] using splits []

/-- Blank characters before a statement are passed over. -/
theorem of_blank {c : Char}
    (reads : ∀ rest, scan lines .code (text ++ rest) = (scan lines .code rest).map (.mark c :: ·))
    (blank : Text.isBlank c = true) : Splits lines text [] := fun rest => by
  simp [split, reads, Function.comp_def, statementsAfter, Lexeme.isBlank, blank]

theorem newline : Splits lines ['\n'] [] := .of_blank (fun rest => scan_ordinary (by decide) rest) (by decide)

theorem comment {line : List Char} (oneLine : ∀ c ∈ line, lines.ends c = false) :
    Splits lines ('-' :: '-' :: (line ++ ['\n'])) [] :=
  .of_blank (fun rest => by simpa using scan_comment oneLine rest) (by decide)

end Splits

theorem statementsAfter_stop {beginning lexemes : List Lexeme} (begun : beginning ≠ [])
    (noStop : .stop ∉ lexemes) (rest : List Lexeme) :
    statementsAfter beginning (lexemes ++ .stop :: rest) = (beginning ++ lexemes) :: statementsAfter [] rest := by
  induction lexemes generalizing beginning with
  | nil => simp [statementsAfter]
  | cons lexeme lexemes ih =>
    obtain ⟨notStop, noStop⟩ := not_or.mp (mt List.mem_cons.mpr noStop)
    have next : statementsAfter (beginning ++ [lexeme]) _ = _ := ih (by simp) noStop
    cases lexeme with
    | stop => exact absurd rfl notStop
    | _ => simp [statementsAfter, begun, next]

/-- A line with one statement. -/
theorem Splits.statement {text : List Char} {lexeme : Lexeme} {lexemes : List Lexeme}
    (reads : ∀ rest, scan lines .code (text ++ ';' :: rest) =
      (scan lines .code (';' :: rest)).map ((lexeme :: lexemes) ++ ·))
    (visible : lexeme.isBlank = false) (noStop : .stop ∉ lexeme :: lexemes) :
    Splits lines (text ++ [';', '\n']) [lexeme :: lexemes] := fun rest => by
  obtain ⟨notStop, noStop⟩ := not_or.mp (mt List.mem_cons.mpr noStop)
  have newline : scan lines .code ('\n' :: rest) = _ := scan_ordinary (by decide) rest
  have first : ∀ rest, statementsAfter [] (lexeme :: rest) = statementsAfter [lexeme] rest := fun rest => by
    cases lexeme with
    | stop => exact absurd rfl notStop
    | _ => simp [statementsAfter, visible]
  have blank : (Lexeme.mark '\n').isBlank = true := by decide
  simp [split, reads, scan_stop, newline, Function.comp_def, first, statementsAfter_stop, noStop, statementsAfter,
    blank]

end SafeMigration.Sql
