import SafeMigration.Decimal.Binary64
import SafeMigration.Json.Value

/-!
The value of a number in JSON text.

Digits are gathered in a significand of 64 bits. A number without fraction and exponent whose significand
fits a signed or an unsigned integer of 64 bits is an integer; every other number is the significand, scaled by a
power of ten in floating point arithmetic. Digits that do not fit the significand only shift the exponent.
-/

namespace SafeMigration.Json

/-- The written parts of a number. -/
structure NumberParts where
  negative : Bool
  whole : List Char
  /-- The digits after the point, if there is one. -/
  fraction : Option (List Char)
  /-- The sign and the digits after the exponent mark, if there is one. -/
  exponent : Option (Bool × List Char)

/-- The greatest significand. -/
def significandLimit : Nat := Nat.pow 2 64 - 1

/-- Gathers digits while they fit: the significand, and the digits left over. -/
def gather : Nat → List Char → Nat × List Char
  | significand, [] => (significand, [])
  | significand, c :: cs =>
    let next := significand * 10 + (c.toNat - '0'.toNat)
    if next ≤ significandLimit then gather next cs else (significand, c :: cs)

/-- The power of ten nearest to `10 ^ n`. -/
def powerOfTen (n : Nat) : Binary64 := .ofNat (Nat.pow 10 n)

/-- The greatest power of ten with a finite value. -/
def mostPower : Nat := 308

/-- Scales a value by a power of ten, in at most so many divisions by the greatest power; nothing when the
result is too large. -/
def scale? : Nat → Binary64 → Int → Option Binary64
  | 0, x, _ => some x
  | steps + 1, x, exponent =>
    if exponent.natAbs ≤ mostPower then
      let power := powerOfTen exponent.natAbs
      if 0 ≤ exponent then
        let y := x.mul power
        if y.isFinite then some y else none
      else some (x.div power)
    else if x.isZero then some x
    else if 0 ≤ exponent then none
    else scale? steps (x.div (powerOfTen mostPower)) (exponent + mostPower)

/-- The floating point number of a significand and an exponent. -/
def scaled? (negative : Bool) (significand : Nat) (exponent : Int) : Option Binary64 :=
  (scale? 4 (.ofNat significand) exponent).map fun x => if negative then x.neg else x

/-- The exponent as written; digits beyond any use are cut to a large number. -/
def writtenExponent (exponent : Option (Bool × List Char)) : Int :=
  match exponent with
  | none => 0
  | some (minus, digits) =>
    let n := digits.foldl (fun n c => min (n * 10 + (c.toNat - '0'.toNat)) 99999999999) 0
    if minus then -(n : Int) else n

/-- The value of a number; nothing when it is too large for a floating point number. -/
def NumberParts.value? (parts : NumberParts) : Option Json :=
  let (significand, excess) := gather 0 parts.whole
  match parts.fraction, parts.exponent with
  | none, none =>
    if excess.isEmpty && !parts.negative then some (.int significand)
    else if excess.isEmpty && significand != 0 && significand ≤ Nat.pow 2 63 then some (.int (-significand))
    else (scaled? parts.negative significand excess.length).map .float
  | fraction, exponent =>
    let digits := fraction.getD []
    let (significand, unused) := gather significand digits
    let shift : Int := (excess.length : Int) - ((digits.length : Int) - unused.length)
    (scaled? parts.negative significand (shift + writtenExponent exponent)).map .float

end SafeMigration.Json
