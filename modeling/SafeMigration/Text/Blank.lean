/-!
White space in the sense of Unicode, and trimming.

A name or a type counts as empty exactly when trimming leaves nothing of it, so the class has to
be the whole property and not its ASCII part.
-/

namespace SafeMigration.Text

/-- The characters with the Unicode property White_Space. -/
def isBlank (c : Char) : Bool :=
  let n := c.toNat
  (9 ≤ n && n ≤ 13) || n == 0x20 || n == 0x85 || n == 0xA0 || n == 0x1680 ||
    (0x2000 ≤ n && n ≤ 0x200A) || n == 0x2028 || n == 0x2029 || n == 0x202F ||
    n == 0x205F || n == 0x3000

/-- Drops the blanks on both sides. -/
def trimChars (cs : List Char) : List Char :=
  ((cs.dropWhile isBlank).reverse.dropWhile isBlank).reverse

/-- Drops the blanks on both sides of a text. -/
def trim (s : String) : String :=
  String.ofList (trimChars s.toList)

/-- A text is blank when it has no character outside white space. -/
def isBlankText (s : String) : Bool :=
  s.toList.all isBlank

end SafeMigration.Text
