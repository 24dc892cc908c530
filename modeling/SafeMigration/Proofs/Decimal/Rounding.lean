import Mathlib.Tactic.Ring
import Mathlib.Tactic.SplitIfs
import SafeMigration.Decimal.Shortest

/-!
Rounding of natural numbers to floating point numbers.

A number is brought to 53 binary digits: with fewer it is shifted up, with more it is divided by a power of two. Rounding
may carry into one digit more, and then the bits are those of the next power of two. So the numbers that round to a
given value are those within half of its last place, and at a power of two within a quarter below it.
-/

namespace SafeMigration

/-- A number lies in an interval whose ends are counted in a unit. -/
def Shortest.Interval.Holds (i : Interval) (unit p : Nat) : Prop :=
  if i.closed then i.lower * unit ≤ p ∧ p ≤ i.upper * unit else i.lower * unit < p ∧ p < i.upper * unit

namespace Binary64

/-- The nearest number to a quotient, said without division: within half of the divisor, and only just so if even. -/
theorem divideNearest_eq_iff {num den n : Nat} (positive : 0 < den) :
    divideNearest num den = n ↔
      2 * (den * n) + n % 2 ≤ 2 * num + den ∧ 2 * num + n % 2 ≤ 2 * (den * n) + den := by
  have division : den * (num / den) + num % den = num := Nat.div_add_mod num den
  have small : num % den < den := Nat.mod_lt num positive
  simp only [divideNearest, beq_iff_eq]
  generalize num / den = quotient at division ⊢
  generalize num % den = rest at division small ⊢
  have next : den * (quotient + 1) = den * quotient + den := Nat.mul_succ den quotient
  have far : n + 1 ≤ quotient ∨ n = quotient ∨ n = quotient + 1 ∨ quotient + 2 ≤ n := by omega
  rcases far with below | rfl | rfl | above
  · have product : den * (n + 1) ≤ den * quotient := Nat.mul_le_mul_left den below
    rw [Nat.mul_succ] at product
    split_ifs <;> omega
  · split_ifs <;> omega
  · rw [next]
    split_ifs <;> omega
  · have product : den * (quotient + 2) ≤ den * n := Nat.mul_le_mul_left den above
    rw [Nat.mul_add] at product
    split_ifs <;> omega

/-- The value `m * 2 ^ q`, for a number of 53 binary digits. -/
def scaled (m q : Nat) : Binary64 := withSign false ((q + 1074) * fractions + m)

/-- A number of 53 binary digits, and a power that a finite value has. -/
structure Normal (m q : Nat) : Prop where
  least : fractions ≤ m
  most : m < 2 * fractions
  finite : q + 1075 < topExponent

/-- A number brought to 53 binary digits by rounding, or to the least number with 54 of them. -/
def significand (p : Nat) : Nat :=
  if p.log2 < 52 then p * 2 ^ (52 - p.log2) else divideNearest p (2 ^ (p.log2 - 52))

theorem fractions_eq : fractions = 2 ^ 52 := rfl

theorem significand_bounds {p : Nat} (some : p ≠ 0) :
    fractions ≤ significand p ∧ significand p ≤ 2 * fractions := by
  obtain ⟨least, most⟩ := (Nat.log2_eq_iff some).mp rfl
  rw [significand, fractions_eq]
  split
  · next short =>
    have low := Nat.mul_le_mul_right (2 ^ (52 - p.log2)) least
    have high := Nat.mul_le_mul_right (2 ^ (52 - p.log2)) most.le
    rw [← Nat.pow_add] at low high
    rw [show p.log2 + (52 - p.log2) = 52 by omega] at low
    rw [show p.log2 + 1 + (52 - p.log2) = 53 by omega] at high
    omega
  · next long =>
    obtain ⟨k, length⟩ : ∃ k, p.log2 = 52 + k := ⟨p.log2 - 52, by omega⟩
    rw [length] at least most
    rw [length, Nat.add_sub_cancel_left]
    have positive : 0 < 2 ^ k := Nat.two_pow_pos k
    rw [show 52 + k + 1 = 53 + k by omega] at most
    rw [Nat.pow_add] at least most
    have nearest := (divideNearest_eq_iff (n := divideNearest p (2 ^ k)) positive).mp rfl
    generalize divideNearest p (2 ^ k) = n at nearest ⊢
    generalize 2 ^ k = unit at *
    constructor
    · by_contra below
      have product : unit * (n + 1) ≤ unit * 2 ^ 52 := Nat.mul_le_mul_left unit (by omega)
      rw [Nat.mul_add] at product
      omega
    · by_contra above
      have product : unit * (2 * 2 ^ 52 + 1) ≤ unit * n := Nat.mul_le_mul_left unit (by omega)
      rw [Nat.mul_add] at product
      omega

theorem binaryExponent_one {p : Nat} (some : p ≠ 0) : binaryExponent p 1 = p.log2 := by
  have fits : 2 ^ p.log2 ≤ p := Nat.log2_self_le some
  have one : Nat.log2 1 = 0 := by decide
  simp [binaryExponent, one, fits]

/-- A whole number divided by one is not rounded. -/
theorem divideNearest_one (n : Nat) : divideNearest n 1 = n := by
  simp [divideNearest, Nat.mod_one]

/-- The bits of the value nearest to a number. A carry beyond 53 digits is one into the exponent. -/
theorem ofNat_eq {p : Nat} (some : p ≠ 0) :
    ofNat p = if topExponent * fractions ≤ (p.log2 + 1022) * fractions + significand p then infinity false
      else withSign false ((p.log2 + 1022) * fractions + significand p) := by
  have power : max (-1074) (binaryExponent p 1 - 52) = (p.log2 : Int) - 52 := by
    rw [binaryExponent_one some]
    omega
  have field : ((p.log2 : Int) - 52 + 1074).toNat = p.log2 + 1022 := by omega
  have digits : (if (p.log2 : Int) - 52 < 0 then divideNearest (p * Nat.pow 2 ((p.log2 : Int) - 52).natAbs) 1
      else divideNearest p (1 * Nat.pow 2 ((p.log2 : Int) - 52).natAbs)) = significand p := by
    rw [significand]
    by_cases short : p.log2 < 52
    · rw [if_pos (by omega), if_pos short, divideNearest_one, show ((p.log2 : Int) - 52).natAbs = 52 - p.log2 by omega]
      rfl
    · rw [if_neg (by omega), if_neg short, Nat.one_mul, show ((p.log2 : Int) - 52).natAbs = p.log2 - 52 by omega]
      rfl
  rw [ofNat, ofRatio, if_neg (by simpa using some)]
  simp only [power, field, digits]

theorem toNat_bits_withSign {magnitude : Nat} (small : magnitude < 2 ^ 63) :
    (withSign false magnitude).bits.toNat = magnitude := by
  simp only [withSign, Bool.false_eq_true, if_false, UInt64.toNat_ofNat']
  omega

theorem withSign_inj {a b : Nat} (smallA : a < 2 ^ 63) (smallB : b < 2 ^ 63) :
    withSign false a = withSign false b ↔ a = b := by
  constructor
  · intro same
    rw [← toNat_bits_withSign smallA, ← toNat_bits_withSign smallB, same]
  · rintro rfl
    rfl

namespace Normal

variable {m q : Nat} (normal : Normal m q)
include normal

theorem small : (q + 1074) * fractions + m < topExponent * fractions := by
  have product : (q + 1076) * fractions ≤ topExponent * fractions := Nat.mul_le_mul_right fractions normal.finite
  have most := normal.most
  rw [fractions_eq] at *
  omega

/-- The digit that every number of 53 digits begins with is not among the bits. -/
theorem toNat_bits : (scaled m q).bits.toNat = (q + 1075) * fractions + (m - fractions) := by
  have least := normal.least
  rw [scaled, toNat_bits_withSign (normal.small.trans (by decide))]
  rw [fractions_eq] at *
  omega

theorem isNegative : (scaled m q).isNegative = false := by
  have small := normal.small
  rw [scaled, Binary64.isNegative, toNat_bits_withSign (small.trans (by decide))]
  exact decide_eq_false (by simp only [fractions_eq, topExponent, Nat.pow_eq] at *; omega)

theorem fraction : (scaled m q).fraction = m - fractions := by
  have most := normal.most
  rw [Binary64.fraction, normal.toNat_bits]
  rw [fractions_eq] at *
  omega

theorem exponentField : (scaled m q).exponentField = q + 1075 := by
  have most := normal.most
  have finite := normal.finite
  rw [Binary64.exponentField, normal.toNat_bits]
  rw [fractions_eq] at *
  rw [topExponent] at finite
  omega

theorem isFinite : (scaled m q).isFinite = true := by
  rw [Binary64.isFinite, normal.exponentField]
  simpa using normal.finite.ne

theorem mantissa : (scaled m q).mantissa = m := by
  have least := normal.least
  rw [Binary64.mantissa, normal.exponentField, normal.fraction, if_neg (by simp)]
  omega

theorem power : (scaled m q).power = q := by
  rw [Binary64.power, normal.exponentField, if_neg (by simp)]
  omega

theorem ratio : (scaled m q).ratio = (m * 2 ^ q, 1) := by
  rw [Binary64.ratio, normal.power, normal.mantissa, if_neg (by omega)]
  rfl

end Normal

/-- A number is rounded to a value by its digits, or by a carry to the least number with one digit more. -/
theorem ofNat_eq_scaled_iff {m q p : Nat} (normal : Normal m q) :
    ofNat p = scaled m q ↔ p ≠ 0 ∧
      ((p.log2 = q + 52 ∧ significand p = m) ∨
        (p.log2 = q + 51 ∧ significand p = 2 * fractions ∧ m = fractions)) := by
  have least := normal.least
  have most := normal.most
  have small := normal.small
  have inside : topExponent * fractions < 2 ^ 63 := by decide
  rw [scaled]
  by_cases zero : p = 0
  · subst zero
    have none : (0 : Nat) ≠ (q + 1074) * fractions + m := by
      rw [fractions_eq] at *
      omega
    have different : ofNat 0 ≠ withSign false ((q + 1074) * fractions + m) := fun same =>
      none ((withSign_inj (Nat.two_pow_pos 63) (small.trans inside)).mp same)
    simp [different]
  · have bounds := significand_bounds zero
    rw [ofNat_eq zero]
    split
    · rw [infinity, withSign_inj inside (small.trans inside)]
      rw [fractions_eq] at *
      omega
    · rw [withSign_inj (by omega) (small.trans inside)]
      simp only [ne_eq, zero, not_false_eq_true, true_and]
      rw [fractions_eq] at *
      omega

theorem Normal.interval_eq {m q : Nat} (normal : Normal m q) :
    Shortest.interval (scaled m q) = ⟨4 * m - (if m = fractions then 1 else 2), 4 * m, 4 * m + 2, m % 2 == 0⟩ := by
  have first : (m - fractions == 0 && decide (1 < q + 1075)) = decide (m = fractions) := by
    have least := normal.least
    rw [decide_eq_true (show 1 < q + 1075 by omega), Bool.and_true, Bool.eq_iff_iff, beq_iff_eq, decide_eq_true_eq]
    omega
  simp only [Shortest.interval, normal.mantissa, normal.fraction, normal.exponentField, first, decide_eq_true_eq]

/-- The bounds of what lies in the interval of a value, which is measured in quarters of its last place. They are in the
interval if the digits are even. -/
theorem Normal.holds_iff {m q p : Nat} (normal : Normal m (q + 2)) :
    (Shortest.interval (scaled m (q + 2))).Holds (2 ^ q) p ↔
      4 * (2 ^ q * m) + m % 2 ≤ p + (if m = fractions then 1 else 2) * 2 ^ q ∧
        p + m % 2 ≤ 4 * (2 ^ q * m) + 2 * 2 ^ q := by
  have least : 2 ^ q * fractions ≤ 2 ^ q * m := Nat.mul_le_mul_left _ normal.least
  have lower : (4 * m - (if m = fractions then 1 else 2)) * 2 ^ q =
      4 * (2 ^ q * m) - (if m = fractions then 1 else 2) * 2 ^ q := by rw [Nat.sub_mul]; ring_nf
  have upper : (4 * m + 2) * 2 ^ q = 4 * (2 ^ q * m) + 2 * 2 ^ q := by ring
  have positive : 0 < 2 ^ q := Nat.two_pow_pos q
  rw [normal.interval_eq, Shortest.Interval.Holds]
  simp only [lower, upper, beq_iff_eq]
  rw [fractions_eq] at *
  generalize 2 ^ q = u at *
  split <;> split <;> omega

theorem log2_eq_add_iff {p q k : Nat} (some : p ≠ 0) :
    p.log2 = q + k ↔ 2 ^ k * 2 ^ q ≤ p ∧ p < 2 ^ (k + 1) * 2 ^ q := by
  rw [Nat.log2_eq_iff some, ← Nat.pow_add, ← Nat.pow_add, Nat.add_comm q, Nat.add_right_comm]

/-- A number with more digits than 53 is divided. -/
theorem significand_eq_iff {p k n : Nat} (length : p.log2 = k + 52) :
    significand p = n ↔ 2 * (2 ^ k * n) + n % 2 ≤ 2 * p + 2 ^ k ∧ 2 * p + n % 2 ≤ 2 * (2 ^ k * n) + 2 ^ k := by
  rw [significand, length, if_neg (by omega), Nat.add_sub_cancel, divideNearest_eq_iff (Nat.two_pow_pos k)]

/-- Away from powers of two the numbers that round to a value are within half of its last place. -/
theorem significand_eq_iff_holds {m q p : Nat} (normal : Normal m (q + 2)) (inner : m ≠ fractions) :
    (p ≠ 0 ∧ p.log2 = q + 54 ∧ significand p = m) ↔
      (Shortest.interval (scaled m (q + 2))).Holds (2 ^ q) p := by
  have positive : 0 < 2 ^ q := Nat.two_pow_pos q
  have place : 2 ^ (q + 2) = 4 * 2 ^ q := by rw [Nat.pow_add, Nat.mul_comm]
  have low : 2 ^ q * (fractions + 1) ≤ 2 ^ q * m := Nat.mul_le_mul_left _ (by have := normal.least; omega)
  have high : 2 ^ q * (m + 1) ≤ 2 ^ q * (2 * fractions) := Nat.mul_le_mul_left _ normal.most
  have digits := fun length : p.log2 = q + 54 => significand_eq_iff (k := q + 2) (n := m) length
  have length := fun some : p ≠ 0 => log2_eq_add_iff (q := q) (k := 54) some
  rw [normal.holds_iff, if_neg inner]
  rw [place, Nat.mul_assoc] at digits
  rw [Nat.mul_add, fractions_eq] at low high
  generalize 2 ^ q = unit at *
  constructor
  · rintro ⟨some, long, rounds⟩
    rw [digits long] at rounds
    omega
  · intro inside
    have some : p ≠ 0 := by omega
    have long : p.log2 = q + 54 := (length some).mpr (by omega)
    exact ⟨some, long, (digits long).mpr (by omega)⟩

/-- The numbers that round to a power of two are within half of its last place above it, and below it, where the places
are half as wide, within half of those. -/
theorem significand_first_iff_holds {q p : Nat} (normal : Normal fractions (q + 2)) :
    (p ≠ 0 ∧ ((p.log2 = q + 54 ∧ significand p = fractions) ∨ (p.log2 = q + 53 ∧ significand p = 2 * fractions))) ↔
      (Shortest.interval (scaled fractions (q + 2))).Holds (2 ^ q) p := by
  have positive : 0 < 2 ^ q := Nat.two_pow_pos q
  have place : 2 ^ (q + 2) = 4 * 2 ^ q := by rw [Nat.pow_add, Nat.mul_comm]
  have half : 2 ^ (q + 1) = 2 * 2 ^ q := by rw [Nat.pow_add, Nat.mul_comm]
  have digits := fun length : p.log2 = q + 54 => significand_eq_iff (k := q + 2) (n := fractions) length
  have carried := fun length : p.log2 = q + 53 => significand_eq_iff (k := q + 1) (n := 2 * fractions) length
  have length := fun some : p ≠ 0 => log2_eq_add_iff (q := q) (k := 54) some
  have shorter := fun some : p ≠ 0 => log2_eq_add_iff (q := q) (k := 53) some
  rw [normal.holds_iff, if_pos rfl]
  rw [place, Nat.mul_assoc] at digits
  rw [half, Nat.mul_assoc] at carried
  rw [fractions_eq] at *
  generalize 2 ^ q = unit at *
  constructor
  · rintro ⟨some, ⟨long, rounds⟩ | ⟨short, rounds⟩⟩
    · rw [digits long] at rounds
      have long := (length some).mp long
      omega
    · rw [carried short] at rounds
      have short := (shorter some).mp short
      omega
  · intro inside
    have some : p ≠ 0 := by omega
    refine ⟨some, ?_⟩
    by_cases above : 2 ^ 54 * unit ≤ p
    · have long := (length some).mpr (by omega)
      exact .inl ⟨long, (digits long).mpr (by omega)⟩
    · have short := (shorter some).mpr (by omega)
      exact .inr ⟨short, (carried short).mpr (by omega)⟩

/-- The numbers that round to a value are those in its interval, which is measured in quarters of its last place. -/
theorem ofNat_eq_scaled_iff_holds {m q p : Nat} (normal : Normal m (q + 2)) :
    ofNat p = scaled m (q + 2) ↔ (Shortest.interval (scaled m (q + 2))).Holds (2 ^ q) p := by
  rw [ofNat_eq_scaled_iff normal]
  by_cases first : m = fractions
  · subst first
    simpa using significand_first_iff_holds normal
  · simpa [first] using significand_eq_iff_holds normal first

/-- Numbers of 55 digits and more round to 53 digits that are followed by at least as many places as they have more. -/
theorem exists_scaled {p : Nat} (long : 54 ≤ p.log2) (short : p.log2 < 1023) :
    ∃ m q, Normal m (q + 2) ∧ p.log2 ≤ q + 54 ∧ ofNat p = scaled m (q + 2) := by
  have some : p ≠ 0 := by
    rintro rfl
    simp at long
  obtain ⟨low, high⟩ := significand_bounds some
  by_cases carry : significand p = 2 * fractions
  · have normal : Normal fractions (p.log2 - 53 + 2) := ⟨le_rfl, by decide, by rw [topExponent]; omega⟩
    exact ⟨fractions, p.log2 - 53, normal, by omega, (ofNat_eq_scaled_iff normal).mpr ⟨some, .inr ⟨by omega, carry, rfl⟩⟩⟩
  · have normal : Normal (significand p) (p.log2 - 54 + 2) := ⟨low, by omega, by rw [topExponent]; omega⟩
    exact ⟨significand p, p.log2 - 54, normal, by omega, (ofNat_eq_scaled_iff normal).mpr ⟨some, .inl ⟨by omega, rfl⟩⟩⟩

end Binary64

end SafeMigration
