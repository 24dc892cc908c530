/-!
Small operations on lists of characters: ASCII classes, digits, stripping an ending,
doubling a quote.
-/

namespace SafeMigration.Text

/-- The digits `0` to `9`. -/
def isDigit (c : Char) : Bool := '0' ≤ c && c ≤ '9'

/-- The letters `A` to `Z` and `a` to `z`. -/
def isLetter (c : Char) : Bool := ('a' ≤ c && c ≤ 'z') || ('A' ≤ c && c ≤ 'Z')

/-- The value of a digit in a radix of at most sixteen; letters count in either case. -/
def digitValue? (radix : Nat) (c : Char) : Option Nat :=
  let n :=
    if isDigit c then some (c.toNat - '0'.toNat)
    else if 'a' ≤ c && c ≤ 'f' then some (c.toNat - 'a'.toNat + 10)
    else if 'A' ≤ c && c ≤ 'F' then some (c.toNat - 'A'.toNat + 10)
    else none
  n.filter (· < radix)

/-- Continues a number written in a radix by more digits. -/
def continueNat? (radix : Nat) : Nat → List Char → Option Nat
  | n, [] => some n
  | n, c :: cs => (digitValue? radix c).bind fun d => continueNat? radix (n * radix + d) cs

/-- Reads one or more digits of a radix, and nothing else. -/
def readNat? (radix : Nat) : List Char → Option Nat
  | [] => none
  | cs => continueNat? radix 0 cs

/-- Reads a whole number with an optional plus sign that does not exceed a bound. -/
def readBounded? (bound : Nat) (cs : List Char) : Option Nat :=
  let digits := match cs with
    | '+' :: rest => rest
    | _ => cs
  (readNat? 10 digits).filter (· ≤ bound)

/-- Turns the letters `A` to `Z` into their small form and leaves every other character. -/
def lowerAscii (c : Char) : Char :=
  if 'A' ≤ c && c ≤ 'Z' then Char.ofNat (c.toNat + 32) else c

/-- What stands before an ending, if the list has that ending. -/
def stripEnding? (ending cs : List Char) : Option (List Char) :=
  if ending.isSuffixOf cs then some (cs.take (cs.length - ending.length)) else none

/-- Writes every occurrence of a quote twice. -/
def doubled (quote : Char) : List Char → List Char
  | [] => []
  | c :: cs => if c == quote then quote :: quote :: doubled quote cs else c :: doubled quote cs

/-- A text between two quotes, with the quotes inside it doubled. -/
def enclose (quote : Char) (s : String) : String :=
  String.ofList (quote :: doubled quote s.toList ++ [quote])

/-- The lowercase hexadecimal digit of a number below sixteen. -/
def hexDigit (n : Nat) : Char :=
  if n < 10 then Char.ofNat ('0'.toNat + n) else Char.ofNat ('a'.toNat + (n - 10))

/-- The lowercase hexadecimal digits of a number, without leading zeros. -/
def hex (n : Nat) : List Char := (Nat.toDigits 16 n)

end SafeMigration.Text
