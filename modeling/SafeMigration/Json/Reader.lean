import SafeMigration.Text.Chars
import SafeMigration.Json.Number

/-!
Reading JSON text.

A text is read into an `Outline`: the values it holds as far as it is well formed. What is asked of the
values can then be checked in the order of the text, so that a value of the wrong type is reported before a
mistake in the text that follows it.
-/

namespace SafeMigration.Json

/-- What a text holds as far as it is well formed. -/
inductive Outline where
  | null
  | bool (value : Bool)
  | number (value : Json)
  | string (value : String)
  /-- The elements, and whether the closing bracket was reached. -/
  | array (items : List Outline) (closed : Bool)
  /-- The fields, and whether the closing brace was reached. A key without a value as text is absent. -/
  | object (fields : List (Option String × Outline)) (closed : Bool)
  /-- Well formed, but without a value: a number too large, or a string with half a character. -/
  | worthless
  /-- The text goes wrong here. -/
  | broken
  deriving Inhabited

/-- The four characters that may stand between the parts of a text. -/
def isSpace (c : Char) : Bool := c == ' ' || c == '\n' || c == '\t' || c == '\r'

/-- Drops leading space. -/
def skip (cs : List Char) : List Char := cs.dropWhile isSpace

/-- Reads four hexadecimal digits. -/
def fourHex? : List Char → Option (Nat × List Char)
  | a :: b :: c :: d :: rest => (Text.readNat? 16 [a, b, c, d]).map fun n => (n, rest)
  | _ => none

/-- Half of a pair: the first of two escapes that make one character. -/
def isHighHalf (n : Nat) : Bool := 0xD800 ≤ n && n ≤ 0xDBFF

/-- Half of a pair: the second of two escapes that make one character. -/
def isLowHalf (n : Nat) : Bool := 0xDC00 ≤ n && n ≤ 0xDFFF

/-- The character of an escape of one letter. -/
def simpleEscape? (c : Char) : Option Char :=
  if c == '"' then some '"'
  else if c == '\\' then some '\\'
  else if c == '/' then some '/'
  else if c == 'b' then some (Char.ofNat 8)
  else if c == 'f' then some (Char.ofNat 12)
  else if c == 'n' then some '\n'
  else if c == 'r' then some '\r'
  else if c == 't' then some '\t'
  else none

/-- Reads an escape after its backslash: the character if it is whole, and the rest. -/
def escaped? : List Char → Option (Option Char × List Char)
  | 'u' :: rest =>
    match fourHex? rest with
    | none => none
    | some (n, rest) =>
      if isHighHalf n then
        match rest with
        | '\\' :: 'u' :: more =>
          match fourHex? more with
          | some (m, after) =>
            if isLowHalf m then
              some (some (Char.ofNat (0x10000 + (n - 0xD800) * 0x400 + (m - 0xDC00))), after)
            else some (none, rest)
          | none => some (none, rest)
        | _ => some (none, rest)
      else if isLowHalf n then some (none, rest)
      else some (some (Char.ofNat n), rest)
  | c :: rest => (simpleEscape? c).map fun d => (some d, rest)
  | [] => none

/-- Reads a string after its opening quote: its value if every escape is whole, and the rest. -/
def stringBody : Nat → List Char → Option (List Char) → Option (Option String × List Char)
  | 0, _, _ => none
  | _ + 1, [], _ => none
  | fuel + 1, c :: cs, acc =>
    if c == '"' then some (acc.map fun cs => String.ofList cs.reverse, cs)
    else if c == '\\' then
      match escaped? cs with
      | none => none
      | some (d, rest) => stringBody fuel rest (acc.bind fun acc => d.map (· :: acc))
    else if c.toNat < 32 then none
    else stringBody fuel cs (acc.map (c :: ·))

/-- Reads a string after its opening quote. -/
def quotedString? (cs : List Char) : Option (Option String × List Char) :=
  stringBody (cs.length + 1) cs (some [])

/-- Reads an exponent after the digits of a number, if one is there. -/
def exponentPart? : List Char → Option (Option (Bool × List Char) × List Char)
  | [] => some (none, [])
  | c :: cs =>
    if c == 'e' || c == 'E' then
      let (minus, digits) := match cs with
        | '-' :: rest => (true, rest)
        | '+' :: rest => (false, rest)
        | rest => (false, rest)
      let ds := digits.takeWhile Text.isDigit
      if ds.isEmpty then none else some (some (minus, ds), digits.dropWhile Text.isDigit)
    else some (none, c :: cs)

/-- Reads a fraction after the digits of a number, if one is there. -/
def fractionPart? : List Char → Option (Option (List Char) × List Char)
  | '.' :: cs =>
    let ds := cs.takeWhile Text.isDigit
    if ds.isEmpty then none else some (some ds, cs.dropWhile Text.isDigit)
  | cs => some (none, cs)

/-- Reads a number; a leading zero stands alone. -/
def number? (cs : List Char) : Option (NumberParts × List Char) :=
  let (negative, unsigned) := match cs with
    | '-' :: rest => (true, rest)
    | rest => (false, rest)
  let whole := unsigned.takeWhile Text.isDigit
  let leadingZero := whole.head? == some '0' && 1 < whole.length
  if whole.isEmpty || leadingZero then none
  else
    match fractionPart? (unsigned.dropWhile Text.isDigit) with
    | none => none
    | some (fraction, rest) =>
      match exponentPart? rest with
      | none => none
      | some (exponent, rest) => some (⟨negative, whole, fraction, exponent⟩, rest)

/-- Reads a fixed word. -/
def word (expected : List Char) (outline : Outline) (cs : List Char) : Outline × List Char :=
  if expected.isPrefixOf cs then (outline, cs.drop expected.length) else (.broken, [])

mutual

/-- Reads a value; the fuel bounds the number of steps. -/
def value : Nat → List Char → Outline × List Char
  | 0, _ => (.broken, [])
  | fuel + 1, cs =>
    match skip cs with
    | [] => (.broken, [])
    | c :: rest =>
      if c == '"' then
        match quotedString? rest with
        | none => (.broken, [])
        | some (none, rest) => (.worthless, rest)
        | some (some s, rest) => (.string s, rest)
      else if c == '[' then
        let (items, closed, rest) := elements fuel true rest
        (.array items closed, rest)
      else if c == '\x7b' then
        let (fields, closed, rest) := members fuel true rest
        (.object fields closed, rest)
      else if c == 'n' then word "null".toList .null (c :: rest)
      else if c == 't' then word "true".toList (.bool true) (c :: rest)
      else if c == 'f' then word "false".toList (.bool false) (c :: rest)
      else
        match number? (c :: rest) with
        | none => (.broken, [])
        | some (parts, rest) =>
          match parts.value? with
          | none => (.worthless, rest)
          | some n => (.number n, rest)

/-- Reads the elements of a sequence up to its closing bracket: the elements, whether the bracket was
reached, and the rest. -/
def elements : Nat → Bool → List Char → List Outline × Bool × List Char
  | 0, _, _ => ([], false, [])
  | fuel + 1, first, cs =>
    match skip cs with
    | [] => ([], false, [])
    | c :: rest =>
      if c == ']' then ([], true, rest)
      else if first then element fuel (c :: rest)
      else if c == ',' then
        match skip rest with
        | ']' :: _ => ([], false, [])
        | more => element fuel more
      else ([], false, [])

/-- Reads one element and those after it. -/
def element : Nat → List Char → List Outline × Bool × List Char
  | 0, _ => ([], false, [])
  | fuel + 1, cs =>
    let (item, rest) := value fuel cs
    let (items, closed, rest) := elements fuel false rest
    (item :: items, closed, rest)

/-- Reads the fields of an object up to its closing brace. -/
def members : Nat → Bool → List Char → List (Option String × Outline) × Bool × List Char
  | 0, _, _ => ([], false, [])
  | fuel + 1, first, cs =>
    match skip cs with
    | [] => ([], false, [])
    | c :: rest =>
      if c == '\x7d' then ([], true, rest)
      else if first then member fuel (c :: rest)
      else if c == ',' then member fuel (skip rest)
      else ([], false, [])

/-- Reads one field and those after it. -/
def member : Nat → List Char → List (Option String × Outline) × Bool × List Char
  | 0, _ => ([], false, [])
  | fuel + 1, cs =>
    match cs with
    | [] => ([], false, [])
    | c :: rest =>
      if c == '"' then
        match quotedString? rest with
        | none => ([], false, [])
        | some (key, rest) =>
          match skip rest with
          | ':' :: rest =>
            let (v, rest) := value fuel rest
            let (fields, closed, rest) := members fuel false rest
            ((key, v) :: fields, closed, rest)
          | _ => ([(key, .broken)], false, [])
      else ([], false, [])

end

/-- The outline of a whole text, and whether nothing but space follows its value. -/
def Outline.ofChars (cs : List Char) : Outline × Bool :=
  let (outline, rest) := value (3 * cs.length + 3) cs
  (outline, (skip rest).isEmpty)

mutual

/-- Whether the text of an outline is well formed, whatever its values are worth. -/
def Outline.isWhole : Outline → Bool
  | .array items closed => closed && wholeItems items
  | .object fields closed => closed && wholeFields fields
  | .broken => false
  | _ => true

/-- Whether all elements are well formed. -/
def Outline.wholeItems : List Outline → Bool
  | [] => true
  | item :: items => item.isWhole && wholeItems items

/-- Whether all fields are well formed. -/
def Outline.wholeFields : List (Option String × Outline) → Bool
  | [] => true
  | (_, value) :: fields => value.isWhole && wholeFields fields

end

mutual

/-- The value of an outline, if its text is well formed and every part has a value. -/
def Outline.json? : Outline → Option Json
  | .null => some .null
  | .bool b => some (.bool b)
  | .number n => some n
  | .string s => some (.string s)
  | .array items closed => if closed then (jsonItems? items).map .array else none
  | .object fields closed =>
    if closed then (jsonFields? fields).map fun fields => .object (Entries.ofPairs fields) else none
  | .worthless => none
  | .broken => none

/-- The values of all elements. -/
def Outline.jsonItems? : List Outline → Option (List Json)
  | [] => some []
  | item :: items =>
    match item.json?, jsonItems? items with
    | some v, some vs => some (v :: vs)
    | _, _ => none

/-- The values of all fields, in the order of the text. -/
def Outline.jsonFields? : List (Option String × Outline) → Option (List (String × Json))
  | [] => some []
  | (some key, value) :: fields =>
    match value.json?, jsonFields? fields with
    | some v, some vs => some ((key, v) :: vs)
    | _, _ => none
  | (none, _) :: _ => none

end

/-- The value that a text denotes. -/
def ofText? (text : String) : Option Json :=
  let (outline, ended) := Outline.ofChars text.toList
  if ended then outline.json? else none

end SafeMigration.Json
