/-!
Floating point numbers of 64 bits, by their bit pattern, with exact rounding.

Everything is computed on natural numbers: a finite value is `m * 2 ^ q`, a positive ratio is rounded
to the nearest such value, ties to the even one.
-/

namespace SafeMigration

/-- A binary floating point number of 64 bits: a sign, eleven bits of exponent, 52 of fraction. -/
structure Binary64 where
  bits : UInt64
  deriving DecidableEq, Repr, Inhabited

namespace Binary64

/-- The biased exponent of infinities and of what is not a number. -/
def topExponent : Nat := 2047

/-- The number of fractions under one exponent. -/
def fractions : Nat := Nat.pow 2 52

/-- Whether the sign bit is set. -/
def isNegative (x : Binary64) : Bool := Nat.pow 2 63 ≤ x.bits.toNat

/-- The exponent field. -/
def exponentField (x : Binary64) : Nat := x.bits.toNat / fractions % 2048

/-- The fraction field. -/
def fraction (x : Binary64) : Nat := x.bits.toNat % fractions

/-- Neither infinite nor without a value. -/
def isFinite (x : Binary64) : Bool := x.exponentField != topExponent

/-- Stands for no number. -/
def isNaN (x : Binary64) : Bool := x.exponentField == topExponent && x.fraction != 0

/-- Zero of either sign. -/
def isZero (x : Binary64) : Bool := x.exponentField == 0 && x.fraction == 0

/-- The integer `m` of a magnitude `m * 2 ^ q`. -/
def mantissa (x : Binary64) : Nat :=
  if x.exponentField == 0 then x.fraction else fractions + x.fraction

/-- The power `q` of a magnitude `m * 2 ^ q`. -/
def power (x : Binary64) : Int :=
  if x.exponentField == 0 then -1074 else (x.exponentField : Int) - 1075

/-- The magnitude as a ratio of natural numbers. -/
def ratio (x : Binary64) : Nat × Nat :=
  if x.power < 0 then (x.mantissa, Nat.pow 2 x.power.natAbs) else (x.mantissa * Nat.pow 2 x.power.natAbs, 1)

/-- Puts a sign before the bits of a magnitude. -/
def withSign (negative : Bool) (magnitude : Nat) : Binary64 :=
  ⟨UInt64.ofNat (if negative then Nat.pow 2 63 + magnitude else magnitude)⟩

/-- Zero with a sign. -/
def zero (negative : Bool) : Binary64 := withSign negative 0

/-- Infinity with a sign. -/
def infinity (negative : Bool) : Binary64 := withSign negative (topExponent * fractions)

/-- The positive value that is not a number. -/
def nan : Binary64 := withSign false (topExponent * fractions + fractions / 2)

/-- The nearest natural number to a quotient; a tie goes to the even one. -/
def divideNearest (num den : Nat) : Nat :=
  let q := num / den
  let r := num % den
  if 2 * r < den then q
  else if den < 2 * r then q + 1
  else if q % 2 == 0 then q else q + 1

/-- The exponent `e` with `2 ^ e ≤ num / den < 2 ^ (e + 1)`, for positive numbers. -/
def binaryExponent (num den : Nat) : Int :=
  let e : Int := (num.log2 : Int) - den.log2
  let fits := if e < 0 then den ≤ num * Nat.pow 2 e.natAbs else den * Nat.pow 2 e.natAbs ≤ num
  if fits then e else e - 1

/-- The value nearest to a ratio with positive denominator. The bits of consecutive magnitudes are
consecutive numbers, so rounding up to the next power of two carries into the exponent by itself. -/
def ofRatio (negative : Bool) (num den : Nat) : Binary64 :=
  if num == 0 then zero negative
  else
    let q := max (-1074) (binaryExponent num den - 52)
    let m := if q < 0 then divideNearest (num * Nat.pow 2 q.natAbs) den
      else divideNearest num (den * Nat.pow 2 q.natAbs)
    let magnitude := (q + 1074).toNat * fractions + m
    if topExponent * fractions ≤ magnitude then infinity negative else withSign negative magnitude

/-- The value nearest to a natural number. -/
def ofNat (n : Nat) : Binary64 := ofRatio false n 1

/-- The value nearest to an integer. -/
def ofInt (n : Int) : Binary64 := ofRatio (n < 0) n.natAbs 1

/-- The value nearest to `digits * 10 ^ exponent`. Exponents far outside the range are decided
without computing the power. -/
def ofDecimal (negative : Bool) (digits : Nat) (exponent : Int) : Binary64 :=
  let size : Int := ((Nat.toDigits 10 digits).length : Int) + exponent
  if digits == 0 || size < -400 then zero negative
  else if 400 < size then infinity negative
  else if exponent < 0 then ofRatio negative digits (Nat.pow 10 exponent.natAbs)
  else ofRatio negative (digits * Nat.pow 10 exponent.natAbs) 1

/-- The product of two finite values, rounded. -/
def mul (x y : Binary64) : Binary64 :=
  let (a, b) := x.ratio
  let (c, d) := y.ratio
  ofRatio (x.isNegative != y.isNegative) (a * c) (b * d)

/-- The quotient of a finite value by a finite value other than zero, rounded. -/
def div (x y : Binary64) : Binary64 :=
  let (a, b) := x.ratio
  let (c, d) := y.ratio
  ofRatio (x.isNegative != y.isNegative) (a * d) (b * c)

/-- The same magnitude with the other sign. -/
def neg (x : Binary64) : Binary64 :=
  withSign (!x.isNegative) (x.bits.toNat % Nat.pow 2 63)

/-- Numerical equality: zeros of both signs agree, and so do all values that are no number. -/
def sameValue (x y : Binary64) : Bool :=
  x == y || (x.isZero && y.isZero) || (x.isNaN && y.isNaN)

end Binary64

end SafeMigration
