import SafeMigration.Decimal.Binary64

/-!
The shortest decimal digits that read back as a given floating point number, and their layout.

`Shortest.digits` looks for the coarsest decimal grid one of whose points rounds to the value and takes
the nearest such point. How the digits are laid out as text is data: a `FloatLayout`.
-/

namespace SafeMigration

/-- Which of two points at the same distance is taken. -/
inductive Tie where
  /-- The one with an even last digit. -/
  | toEven
  /-- The one further from zero. -/
  | away
  deriving DecidableEq, Repr

namespace Shortest

/-- The exponent `k` with `10 ^ (k - 1) ≤ num / den < 10 ^ k`, for positive numbers. -/
def decimalExponent (num den : Nat) : Int :=
  if den ≤ num then ((Nat.toDigits 10 (num / den)).length : Int)
  else
    let ceiling := (den + num - 1) / num
    1 - ((Nat.toDigits 10 (ceiling - 1)).length : Int)

/-- The four ends that describe a value among its neighbours, in quarters of its last place:
the lower end, the value, the upper end; and whether the ends themselves round to the value. -/
structure Interval where
  lower : Nat
  value : Nat
  upper : Nat
  closed : Bool

/-- The reals that round to a finite value, in quarters of `2 ^ q`. Below a power of two the
neighbours are twice as close. -/
def interval (x : Binary64) : Interval :=
  let m := x.mantissa
  let close := x.fraction == 0 && 1 < x.exponentField
  { lower := 4 * m - (if close then 1 else 2)
    value := 4 * m
    upper := 4 * m + 2
    closed := m % 2 == 0 }

/-- Tries one decimal grid: the points beside the value at the given number of digits that lie in
the interval, and of two the nearer one. Quantities are compared after scaling by `scale / unit`. -/
def onGrid? (tie : Tie) (i : Interval) (scale unit : Nat) : Option Nat :=
  let below := i.value * scale / unit
  let inside (point : Nat) : Bool :=
    let p := point * unit
    if i.closed then i.lower * scale ≤ p && p ≤ i.upper * scale
    else i.lower * scale < p && p < i.upper * scale
  let gapBelow := i.value * scale - below * unit
  let gapAbove := (below + 1) * unit - i.value * scale
  match inside below, inside (below + 1) with
  | true, true =>
    if gapBelow < gapAbove then some below
    else if gapAbove < gapBelow then some (below + 1)
    else if tie = .toEven && below % 2 == 0 then some below else some (below + 1)
  | true, false => some below
  | false, true => some (below + 1)
  | false, false => none

/-- Looks for the coarsest grid from a number of digits on, with so many tries left. -/
def search (tie : Tie) (i : Interval) (power exponent : Int) (count : Nat) : Nat → Nat × Int
  | 0 => (0, 0)
  | tries + 1 =>
    let step := exponent - count
    let twos := power - 2
    let scale := (if 0 ≤ twos then Nat.pow 2 twos.natAbs else 1) * (if step < 0 then Nat.pow 10 step.natAbs else 1)
    let unit := (if 0 ≤ twos then 1 else Nat.pow 2 twos.natAbs) * (if step < 0 then 1 else Nat.pow 10 step.natAbs)
    match onGrid? tie i scale unit with
    | some digits => (digits, step)
    | none => search tie i power exponent (count + 1) tries

/-- The digits `d` and the exponent `e` of the shortest `d * 10 ^ e` that rounds to a finite value
other than zero. Seventeen digits always suffice. -/
def digits (tie : Tie) (x : Binary64) : Nat × Int :=
  let (num, den) := x.ratio
  search tie (interval x) x.power (decimalExponent num den) 1 18

end Shortest

/-- How a number becomes text: the range of point positions written without an exponent, whether
a whole number keeps a zero after the point, and which of two nearest digits is written. -/
structure FloatLayout where
  /-- The least and the greatest position of the point, when an exponent may be written. -/
  positional : Option (Int × Int)
  /-- Whether a whole number is written with `.0`. -/
  pointZero : Bool
  /-- Which of two shortest decimals at the same distance is written. -/
  tie : Tie

namespace FloatLayout

/-- Every digit in its place, a whole number without a point. -/
def plain : FloatLayout := ⟨none, false, .away⟩

/-- Every digit in its place, a whole number with `.0`. -/
def pointed : FloatLayout := ⟨none, true, .away⟩

/-- An exponent from `1e+16` on and below `0.00001`; whole numbers with `.0`; ties to the even digit. -/
def scientific : FloatLayout := ⟨some (-4, 16), true, .toEven⟩

/-- Writes digits whose point stands after the first `point` of them. -/
def place (layout : FloatLayout) (ds : List Char) (point : Int) : List Char :=
  if point ≤ 0 then '0' :: '.' :: (List.replicate point.natAbs '0' ++ ds)
  else if point < ds.length then ds.take point.natAbs ++ '.' :: ds.drop point.natAbs
  else ds ++ List.replicate (point.natAbs - ds.length) '0' ++
    (if layout.pointZero then ['.', '0'] else [])

/-- Writes digits with an exponent. -/
def exponential (ds : List Char) (point : Int) : List Char :=
  let e := point - 1
  let mark := if e < 0 then ['e', '-'] else ['e', '+']
  let body := match ds with
    | [] => []
    | [d] => [d]
    | d :: rest => d :: '.' :: rest
  body ++ mark ++ Nat.toDigits 10 e.natAbs

/-- The text of a magnitude given by shortest digits and exponent. -/
def magnitude (layout : FloatLayout) (digits : Nat) (exponent : Int) : List Char :=
  let whole := Nat.toDigits 10 digits
  let ds := (whole.reverse.dropWhile (· == '0')).reverse
  let point := (whole.length : Int) + exponent
  match layout.positional with
  | some (least, most) =>
    if least ≤ point && point ≤ most then place layout ds point else exponential ds point
  | none => place layout ds point

/-- The text of a floating point number. -/
def chars (layout : FloatLayout) (x : Binary64) : List Char :=
  let sign := if x.isNegative then ['-'] else []
  if x.isNaN then "NaN".toList
  else if !x.isFinite then sign ++ "inf".toList
  else if x.isZero then sign ++ (if layout.pointZero then ['0', '.', '0'] else ['0'])
  else
    let (digits, exponent) := Shortest.digits layout.tie x
    sign ++ magnitude layout digits exponent

/-- The text of a floating point number. -/
def text (layout : FloatLayout) (x : Binary64) : String := String.ofList (layout.chars x)

end FloatLayout

end SafeMigration
