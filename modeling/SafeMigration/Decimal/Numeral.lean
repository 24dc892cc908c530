import SafeMigration.Decimal.Binary64
import SafeMigration.Text.Chars

/-!
Decimal numerals with a fraction and an exponent: their grammar and the value nearest to them.
-/

namespace SafeMigration

/-- The parts of a numeral such as `-12.5e3`: the digits before the point, the digits after it, and the exponent. -/
structure Numeral where
  negative : Bool
  whole : List Char
  fraction : List Char
  exponent : Int

namespace Numeral

/-- Reads an exponent's sign and digits to the end of the text. -/
def exponent? (cs : List Char) : Option Int :=
  match cs with
  | '-' :: ds => (Text.readNat? 10 ds).map fun n => -(n : Int)
  | '+' :: ds => (Text.readNat? 10 ds).map Int.ofNat
  | ds => (Text.readNat? 10 ds).map Int.ofNat

/-- Reads what follows the digits: nothing, or an exponent. -/
def tail? (cs : List Char) : Option Int :=
  match cs with
  | [] => some 0
  | 'e' :: rest => exponent? rest
  | 'E' :: rest => exponent? rest
  | _ => none

/-- Reads an unsigned numeral: digits with at most one point among or beside them, at least one digit. -/
def unsigned? (negative : Bool) (cs : List Char) : Option Numeral :=
  let whole := cs.takeWhile Text.isDigit
  let rest := cs.dropWhile Text.isDigit
  let (fraction, rest) := match rest with
    | '.' :: more => (more.takeWhile Text.isDigit, more.dropWhile Text.isDigit)
    | _ => ([], rest)
  if whole.isEmpty && fraction.isEmpty then none
  else (tail? rest).map fun exponent => ⟨negative, whole, fraction, exponent⟩

/-- Reads a numeral with an optional minus sign. -/
def ofChars? (cs : List Char) : Option Numeral :=
  match cs with
  | '-' :: rest => unsigned? true rest
  | _ => unsigned? false cs

/-- The floating point number nearest to a numeral. -/
def toBinary64 (n : Numeral) : Binary64 :=
  let digits := (Text.continueNat? 10 0 (n.whole ++ n.fraction)).getD 0
  Binary64.ofDecimal n.negative digits (n.exponent - n.fraction.length)

end Numeral

end SafeMigration
