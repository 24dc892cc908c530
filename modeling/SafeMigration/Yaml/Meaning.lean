import SafeMigration.Decimal.Numeral
import SafeMigration.Reading
import SafeMigration.Yaml.Tree

/-!
What the text of a scalar means.

A plain scalar is nothing, a truth value or a number if it is written like one, and else a string; any other scalar is
a string. The tags of the standard types ask for one meaning, and tags of a document's own make a tagged value.
-/

namespace SafeMigration.Yaml

/-- The meaning of a scalar. -/
inductive Meaning where
  | null
  | bool (value : Bool)
  | integer (value : Int)
  /-- An integer of more than 64 and at most 128 bits. -/
  | wideInteger
  | float (value : Binary64)
  | string (value : String)
  /-- A text that is not what its tag asks for. -/
  | mistagged (text expected : String)

namespace Meaning

/-- The words for nothing. -/
def isNull (text : String) : Bool := ["null", "Null", "NULL", "~"].contains text

/-- The words for truth values. -/
def bool? (text : String) : Option Bool :=
  if ["true", "True", "TRUE"].contains text then some true
  else if ["false", "False", "FALSE"].contains text then some false
  else none

/-- Digits that begin with a zero, with or without a sign; they are no number. -/
def hasLeadingZero (cs : List Char) : Bool :=
  let digits := match cs with
    | '-' :: rest => rest
    | '+' :: rest => rest
    | _ => cs
  match digits with
  | '0' :: d :: rest => (d :: rest).all Text.isDigit
  | _ => false

/-- Digits after the mark of a radix. -/
def radixNat? : List Char → Option Nat
  | '0' :: 'x' :: rest => Text.readNat? 16 rest
  | '0' :: 'o' :: rest => Text.readNat? 8 rest
  | '0' :: 'b' :: rest => Text.readNat? 2 rest
  | _ => none

/-- A whole number without a sign. -/
def unsigned? (cs : List Char) : Option Nat :=
  match radixNat? cs with
  | some n => some n
  | none => if hasLeadingZero cs then none else Text.readNat? 10 cs

/-- A whole number of any size. -/
def integer? (cs : List Char) : Option Int :=
  match cs with
  | '-' :: rest => (unsigned? rest).map fun n => -(n : Int)
  | '+' :: rest => (unsigned? rest).map Int.ofNat
  | _ => (unsigned? cs).map Int.ofNat

/-- The meaning of a whole number by its size, if it has at most 128 bits. -/
def ofInteger? (n : Int) : Option Meaning :=
  if -Int.ofNat (Nat.pow 2 63) ≤ n ∧ n < Int.ofNat (Nat.pow 2 64) then some (integer n)
  else if -Int.ofNat (Nat.pow 2 127) ≤ n ∧ n < Int.ofNat (Nat.pow 2 128) then some wideInteger
  else none

/-- The meaning of a text as an integer. -/
def asInteger? (text : String) : Option Meaning := (integer? text.toList).bind ofInteger?

/-- The meaning of a text as a floating point number. A number that is too large is none. -/
def float? (text : String) : Option Binary64 :=
  let (plus, cs) := match text.toList with
    | '+' :: rest => (true, rest)
    | cs => (false, cs)
  let word := String.ofList cs
  if plus && (cs.head? == some '-' || cs.head? == some '+') then none
  else if [".inf", ".Inf", ".INF"].contains word then some (.infinity false)
  else if ["-.inf", "-.Inf", "-.INF"].contains text then some (.infinity true)
  else if [".nan", ".NaN", ".NAN"].contains text then some .nan
  else ((Numeral.ofChars? cs).map Numeral.toBinary64).filter Binary64.isFinite

/-- The meaning of a plain scalar. -/
def ofPlain (text : String) : Meaning :=
  if text.isEmpty || isNull text then null
  else
    match bool? text with
    | some b => bool b
    | none =>
      match asInteger? text with
      | some meaning => meaning
      | none =>
        match if hasLeadingZero text.toList then none else float? text with
        | some x => float x
        | none => string text

/-- The meaning of a scalar by its style alone. -/
def ofStyle (s : Scalar) : Meaning := if s.style = .plain then ofPlain s.text else string s.text

end Meaning

namespace Scalar

/-- The meaning of a scalar; tags of the document's own say nothing about it. -/
def meaning (s : Scalar) : Meaning :=
  match s.tag with
  | none => .ofStyle s
  | some tag =>
    if tag = .standard "bool" then
      match Meaning.bool? s.text with
      | some b => .bool b
      | none => .mistagged s.text "a boolean"
    else if tag = .standard "int" then
      match Meaning.asInteger? s.text with
      | some meaning => meaning
      | none => .mistagged s.text "an integer"
    else if tag = .standard "float" then
      match Meaning.float? s.text with
      | some x => .float x
      | none => .mistagged s.text "a float"
    else if tag = .standard "null" then
      if Meaning.isNull s.text then .null else .mistagged s.text "null"
    else if tag.isOwn then .ofStyle s
    else .string s.text

end Scalar

namespace Meaning

/-- What is reported of a scalar where something else is expected. -/
def refused (meaning : Meaning) (expected : String) : Mismatch :=
  match meaning with
  | null => .wrongType .null expected
  | bool b => .wrongType (.bool b) expected
  | integer n => .wrongType (.integer n) expected
  | wideInteger => .wrongType (.integer 0) expected
  | float x => .wrongType (.float x) expected
  | string s => .wrongType (.string s) expected
  | mistagged s wanted => .wrongValue (.string s) wanted

end Meaning

end SafeMigration.Yaml
