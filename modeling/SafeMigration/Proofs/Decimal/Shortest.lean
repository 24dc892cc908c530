import Mathlib.Algebra.Ring.Parity
import Mathlib.Data.List.TakeWhile
import SafeMigration.Proofs.Decimal.Rounding

/-!
The whole number that is written for a floating point number.

A grid is tried by the two points beside the value. What rounds to the value has no gaps, so if none of the two does, no
point of the grid does. Trying grids from the coarsest on finds the number that has the most zeros at its end among
those that round to the value, and of these the nearest. There is just one, because a tie between two points of a grid
would take one more factor of two than the grid has.
-/

namespace SafeMigration

namespace Binary64

/-- How far a whole number is from the magnitude of a value, in units of its denominator. -/
def distance (x : Binary64) (n : Nat) : Nat := ((x.ratio.1 : Int) - n * x.ratio.2).natAbs

/-- A whole number rounds to a value, with as many zeros at its end as such a number can have, and of those with as many
it is the nearest to the value. -/
structure IsShortest (x : Binary64) (n : Nat) : Prop where
  rounds : ofNat n = x
  fewest : ∀ other k, ofNat other = x → 10 ^ k ∣ other → 10 ^ k ∣ n
  nearest : ∀ other, ofNat other = x → (∀ k, 10 ^ k ∣ n → 10 ^ k ∣ other) → other ≠ n →
    distance x n < distance x other

/-- There is at most one such number. -/
theorem IsShortest.unique {x : Binary64} {n n' : Nat} (one : x.IsShortest n) (other : x.IsShortest n') : n = n' := by
  by_contra different
  have nearer := one.nearest n' other.rounds (fun k => other.fewest n k one.rounds) (Ne.symm different)
  have further := other.nearest n one.rounds (fun k => one.fewest n' k other.rounds) different
  exact absurd further nearer.asymm

end Binary64

namespace Shortest

variable {tie : Tie} {i : Interval} {scale unit d e : Nat}

namespace Interval

theorem Holds.between {a b c : Nat} (first : i.Holds scale a) (last : i.Holds scale c) (above : a ≤ b) (below : b ≤ c) :
    i.Holds scale b := by
  rw [Holds] at *
  split at first
  · next closed =>
    rw [if_pos closed] at *
    omega
  · next opened =>
    rw [if_neg opened] at *
    omega

end Interval

/-- How far a point of a grid is from the value. -/
def gap (i : Interval) (scale unit e : Nat) : Nat := ((i.value * scale : Nat) - (e * unit : Nat) : Int).natAbs

theorem inside_iff {p : Nat} :
    (if i.closed then decide (i.lower * scale ≤ p) && decide (p ≤ i.upper * scale)
      else decide (i.lower * scale < p) && decide (p < i.upper * scale)) = true ↔ i.Holds scale p := by
  rw [Interval.Holds]
  split <;> simp

theorem below_le (i : Interval) (scale unit : Nat) : i.value * scale / unit * unit ≤ i.value * scale :=
  Nat.div_mul_le_self _ _

theorem lt_above (i : Interval) (scale : Nat) (positive : 0 < unit) :
    i.value * scale < (i.value * scale / unit + 1) * unit := by
  rw [Nat.mul_comm _ unit]
  exact Nat.lt_mul_div_succ _ positive

/-- Trying a grid finds one of the two points beside the value, if it rounds to the value, and the nearer one of both. -/
theorem onGrid?_cases (tie : Tie) (i : Interval) (scale : Nat) (positive : 0 < unit) {b : Nat}
    (beside : b = i.value * scale / unit) :
    (onGrid? tie i scale unit = none ∧ ¬ i.Holds scale (b * unit) ∧ ¬ i.Holds scale ((b + 1) * unit)) ∨
    (onGrid? tie i scale unit = some b ∧ i.Holds scale (b * unit) ∧
      (i.Holds scale ((b + 1) * unit) → gap i scale unit b ≤ gap i scale unit (b + 1))) ∨
    (onGrid? tie i scale unit = some (b + 1) ∧ i.Holds scale ((b + 1) * unit) ∧
      (i.Holds scale (b * unit) → gap i scale unit (b + 1) ≤ gap i scale unit b)) := by
  have low := below_le i scale unit
  have high := lt_above i scale positive
  rw [← beside] at low high
  have first : gap i scale unit b = i.value * scale - b * unit := by rw [gap]; omega
  have second : gap i scale unit (b + 1) = (b + 1) * unit - i.value * scale := by rw [gap]; omega
  simp only [onGrid?, ← beside, first, second]
  split
  · next below above =>
    rw [inside_iff] at below above
    split
    · exact .inr (.inl ⟨rfl, below, fun _ => by omega⟩)
    · split
      · exact .inr (.inr ⟨rfl, above, fun _ => by omega⟩)
      · split
        · exact .inr (.inl ⟨rfl, below, fun _ => by omega⟩)
        · exact .inr (.inr ⟨rfl, above, fun _ => by omega⟩)
  · next below above =>
    rw [inside_iff] at below
    rw [← Bool.not_eq_true, inside_iff] at above
    exact .inr (.inl ⟨rfl, below, fun inside => absurd inside above⟩)
  · next below above =>
    rw [← Bool.not_eq_true, inside_iff] at below
    rw [inside_iff] at above
    exact .inr (.inr ⟨rfl, above, fun inside => absurd inside below⟩)
  · next below above =>
    rw [← Bool.not_eq_true, inside_iff] at below above
    exact .inl ⟨rfl, below, above⟩

/-- A grid is tried without success only if none of its points rounds to the value. -/
theorem not_holds_of_onGrid?_none (centre : i.Holds scale (i.value * scale)) (positive : 0 < unit)
    (none : onGrid? tie i scale unit = none) (e : Nat) : ¬ i.Holds scale (e * unit) := by
  intro inside
  obtain ⟨-, below, above⟩ | ⟨found, -⟩ | ⟨found, -⟩ := onGrid?_cases tie i scale positive rfl
  · have low := below_le i scale unit
    have high := lt_above i scale positive
    rcases Nat.lt_or_ge (i.value * scale / unit) e with right | left
    · exact above (centre.between inside high.le (Nat.mul_le_mul_right unit right))
    · exact below (inside.between centre (Nat.mul_le_mul_right unit left) low)
  · simp [none] at found
  · simp [none] at found

/-- The point that is found on a grid rounds to the value, and no other one that does is as near. -/
theorem onGrid?_some (centre : i.Holds scale (i.value * scale)) (positive : 0 < unit)
    (untied : ∀ b, i.Holds scale (b * unit) → i.Holds scale ((b + 1) * unit) →
      2 * (i.value * scale) ≠ (2 * b + 1) * unit)
    (found : onGrid? tie i scale unit = some d) :
    i.Holds scale (d * unit) ∧ ∀ e, i.Holds scale (e * unit) → e ≠ d → gap i scale unit d < gap i scale unit e := by
  have low := below_le i scale unit
  have high := lt_above i scale positive
  have cases := onGrid?_cases tie i scale positive rfl
  have untied := untied (i.value * scale / unit)
  generalize i.value * scale / unit = b at *
  have step : (b + 1) * unit = b * unit + unit := by ring
  have odd : (2 * b + 1) * unit = 2 * (b * unit) + unit := by ring
  obtain ⟨none, -⟩ | ⟨below, inside, nearer⟩ | ⟨above, inside, nearer⟩ := cases
  · simp [none] at found
  · obtain rfl : b = d := by simpa [below] using found
    refine ⟨inside, fun e held other => ?_⟩
    rcases Nat.lt_or_gt_of_ne other with left | right
    · have further : (e + 1) * unit ≤ b * unit := Nat.mul_le_mul_right unit left
      rw [Nat.add_mul, Nat.one_mul] at further
      simp only [gap]
      omega
    · have further : (b + 1) * unit ≤ e * unit := Nat.mul_le_mul_right unit right
      have above := centre.between held high.le further
      have nearer := nearer above
      have untied := untied inside above
      simp only [gap] at nearer ⊢
      omega
  · obtain rfl : b + 1 = d := by simpa [above] using found
    refine ⟨inside, fun e held other => ?_⟩
    rcases Nat.lt_or_gt_of_ne other with left | right
    · have further : e * unit ≤ b * unit := Nat.mul_le_mul_right unit (Nat.le_of_lt_succ left)
      have below := held.between centre further low
      have nearer := nearer below
      have untied := untied below inside
      simp only [gap] at nearer ⊢
      omega
    · have further : (b + 1 + 1) * unit ≤ e * unit := Nat.mul_le_mul_right unit right
      rw [Nat.add_mul, Nat.one_mul] at further
      simp only [gap]
      omega

/-- A try of the search, on a grid of whole numbers. -/
theorem search_succ (tie : Tie) (i : Interval) (q : Nat) {exponent : Int} {count j : Nat} (grid : exponent - count = j)
    (tries : Nat) :
    search tie i (q + 2 : Nat) exponent count (tries + 1) =
      match onGrid? tie i (2 ^ q) (10 ^ j) with
      | some digits => (digits, (j : Int))
      | none => search tie i (q + 2 : Nat) exponent (count + 1) tries := by
  have twos : ((q + 2 : Nat) : Int) - 2 = q := by omega
  rw [search]
  simp only [grid, twos, Int.natAbs_natCast, Int.natCast_nonneg, if_true, if_neg (Int.not_lt.mpr (Int.natCast_nonneg j)),
    Nat.mul_one, Nat.one_mul]
  rfl

/-- The search ends at the coarsest grid on which there is a point, if there is one at all. -/
theorem search_finds {q : Nat} {exponent : Int} {count tries j : Nat} (grid : exponent - count = j)
    (enough : ∃ s ≤ j, j < s + tries ∧ onGrid? tie i (2 ^ q) (10 ^ s) ≠ none) :
    ∃ (s d : Nat), search tie i (q + 2 : Nat) exponent count tries = (d, (s : Int)) ∧ s ≤ j ∧
      onGrid? tie i (2 ^ q) (10 ^ s) = some d ∧ ∀ k, s < k → k ≤ j → onGrid? tie i (2 ^ q) (10 ^ k) = none := by
  induction tries generalizing count j with
  | zero =>
    obtain ⟨s, coarse, fine, -⟩ := enough
    omega
  | succ tries ih =>
    rw [search_succ tie i q grid]
    cases here : onGrid? tie i (2 ^ q) (10 ^ j) with
    | some d => exact ⟨j, d, rfl, le_rfl, here, fun k above below => by omega⟩
    | none =>
      obtain ⟨s, coarse, fine, there⟩ := enough
      have different : s ≠ j := by
        rintro rfl
        exact there here
      obtain ⟨t, d, found, finer, point, coarser⟩ :=
        @ih (count + 1) (j - 1) (by omega) ⟨s, by omega, by omega, there⟩
      refine ⟨t, d, found, by omega, point, fun k above below => ?_⟩
      rcases Nat.eq_or_lt_of_le below with rfl | less
      · exact here
      · exact coarser k above (by omega)

/-- A whole number has as many digits as its exponent says. -/
theorem decimalExponent_one {n : Nat} (positive : 0 < n) :
    ∃ digits : Nat, decimalExponent n 1 = (digits + 1 : Nat) ∧ 10 ^ digits ≤ n ∧ n < 10 ^ (digits + 1) := by
  obtain ⟨digits, length⟩ : ∃ digits, (Nat.toDigits 10 n).length = digits + 1 :=
    Nat.exists_eq_add_one.mpr Nat.length_toDigits_pos
  refine ⟨digits, ?_, ?_, (Nat.length_toDigits_le_iff (by decide) (by omega)).mp length.le⟩
  · rw [decimalExponent, if_pos (Nat.succ_le_of_lt positive), Nat.div_one, length]
  · cases digits with
    | zero => exact positive
    | succ digits =>
      refine Nat.le_of_not_lt fun less => ?_
      have shorter := (Nat.length_toDigits_le_iff (b := 10) (by decide) (by omega)).mpr less
      omega

end Shortest

namespace Binary64.Normal

open Shortest

variable {m q p : Nat} (normal : Normal m (q + 2))
include normal

/-- A value in quarters of its last place. -/
theorem value_mul : (interval (scaled m (q + 2))).value * 2 ^ q = 4 * (2 ^ q * m) := by
  rw [normal.interval_eq]
  ring

theorem holds_value : (interval (scaled m (q + 2))).Holds (2 ^ q) ((interval (scaled m (q + 2))).value * 2 ^ q) := by
  have positive : 0 < 2 ^ q := Nat.two_pow_pos q
  rw [normal.holds_iff, normal.value_mul]
  generalize 2 ^ q = u at *
  split <;> omega

/-- What rounds to a value is within half of its last place. -/
theorem near (held : (interval (scaled m (q + 2))).Holds (2 ^ q) p) :
    4 * (2 ^ q * m) ≤ p + 2 * 2 ^ q ∧ p ≤ 4 * (2 ^ q * m) + 2 * 2 ^ q := by
  rw [normal.holds_iff] at held
  generalize 2 ^ q = u at *
  split at held <;> omega

/-- A value is not halfway between two decimals that round to it: it has too many factors of two. -/
theorem untied {s b : Nat} (below : (interval (scaled m (q + 2))).Holds (2 ^ q) (b * 10 ^ s))
    (above : (interval (scaled m (q + 2))).Holds (2 ^ q) ((b + 1) * 10 ^ s)) :
    2 * ((interval (scaled m (q + 2))).value * 2 ^ q) ≠ (2 * b + 1) * 10 ^ s := by
  have low := normal.near below
  have high := normal.near above
  have short : 2 ^ s ≤ 2 ^ (q + 2) := by
    have narrow : 10 ^ s ≤ 2 ^ (q + 2) := by
      rw [Nat.add_mul, Nat.one_mul] at high
      rw [Nat.pow_add]
      omega
    exact (Nat.pow_le_pow_left (by decide) s).trans narrow
  have fewer : s ≤ q + 2 := (Nat.pow_le_pow_iff_right (by decide)).mp short
  obtain ⟨t, power⟩ : ∃ t, q + 3 = s + (t + 1) := ⟨q + 2 - s, by omega⟩
  rw [normal.value_mul]
  intro tie
  have odd : Odd ((2 * b + 1) * 5 ^ s) := (odd_two_mul_add_one b).mul (Odd.pow (by decide))
  have even : (2 * b + 1) * 5 ^ s = 2 * (2 ^ t * m) := by
    have scaled : 2 ^ s * ((2 * b + 1) * 5 ^ s) = 2 ^ s * (2 * (2 ^ t * m)) := by
      calc 2 ^ s * ((2 * b + 1) * 5 ^ s) = (2 * b + 1) * (2 * 5) ^ s := by rw [Nat.mul_pow]; ring
        _ = 2 * (4 * (2 ^ q * m)) := tie.symm
        _ = 2 ^ (q + 3) * m := by ring
        _ = 2 ^ s * (2 * (2 ^ t * m)) := by rw [power]; ring
    exact Nat.eq_of_mul_eq_mul_left (Nat.two_pow_pos s) scaled
  rw [even] at odd
  exact absurd odd (by simp)

/-- A grid whose points are close enough has one that rounds to the value. -/
theorem exists_holds {unit : Nat} (positive : 0 < unit)
    (fine : if m = fractions then unit ≤ 2 * 2 ^ q else unit < 4 * 2 ^ q) :
    ∃ e, (interval (scaled m (q + 2))).Holds (2 ^ q) (e * unit) := by
  have low := below_le (interval (scaled m (q + 2))) (2 ^ q) unit
  have high := lt_above (interval (scaled m (q + 2))) (2 ^ q) positive
  have least : 0 < 2 ^ q := Nat.two_pow_pos q
  generalize (interval (scaled m (q + 2))).value * 2 ^ q / unit = b at *
  rw [normal.value_mul] at low high
  by_contra none
  have below := not_exists.mp none b
  have above := not_exists.mp none (b + 1)
  rw [normal.holds_iff] at below above
  rw [Nat.add_mul, Nat.one_mul] at high above
  split at fine
  · next first =>
    have even : m % 2 = 0 := by rw [first]; decide
    rw [if_pos first] at below above
    generalize 2 ^ q = u at *
    omega
  · next inner =>
    rw [if_neg inner] at below above
    generalize 2 ^ q = u at *
    omega

/-- A grid of the seventeenth digit is fine enough. -/
theorem onGrid?_ne_none {tie : Tie} {unit : Nat} (positive : 0 < unit) (fine : 10 ^ 16 * unit ≤ 4 * (2 ^ q * m)) :
    onGrid? tie (interval (scaled m (q + 2))) (2 ^ q) unit ≠ none := by
  intro none
  have most : 2 ^ q * (m + 1) ≤ 2 ^ q * (2 * fractions) := Nat.mul_le_mul_left _ normal.most
  have closer : if m = fractions then unit ≤ 2 * 2 ^ q else unit < 4 * 2 ^ q := by
    rw [Nat.mul_add, fractions_eq] at most
    split
    · next first =>
      rw [first, fractions_eq] at fine
      omega
    · omega
  obtain ⟨e, held⟩ := normal.exists_holds positive closer
  exact not_holds_of_onGrid?_none normal.holds_value positive none e held

/-- A grid of the first digit is too coarse for two points that round to the value. -/
theorem coarse_unique {unit a b : Nat} (coarse : 4 * (2 ^ q * m) < 10 * unit)
    (first : (interval (scaled m (q + 2))).Holds (2 ^ q) (a * unit))
    (second : (interval (scaled m (q + 2))).Holds (2 ^ q) (b * unit)) : a = b := by
  have least : 2 ^ q * fractions ≤ 2 ^ q * m := Nat.mul_le_mul_left _ normal.least
  have first := normal.near first
  have second := normal.near second
  rw [fractions_eq] at least
  by_contra different
  rcases Nat.lt_or_gt_of_ne different with less | greater
  · have further : (a + 1) * unit ≤ b * unit := Nat.mul_le_mul_right unit less
    rw [Nat.add_mul, Nat.one_mul] at further
    omega
  · have further : (b + 1) * unit ≤ a * unit := Nat.mul_le_mul_right unit greater
    rw [Nat.add_mul, Nat.one_mul] at further
    omega

theorem distance_eq {unit d : Nat} :
    (scaled m (q + 2)).distance (d * unit) = gap (interval (scaled m (q + 2))) (2 ^ q) unit d := by
  have value : m * 2 ^ (q + 2) = (interval (scaled m (q + 2))).value * 2 ^ q := by
    rw [normal.value_mul]
    ring
  rw [distance, gap, normal.ratio, value]
  simp

/-- The digits of a value are those of the point found on the coarsest grid up to that of its first digit. -/
theorem digits_eq (tie : Tie) :
    ∃ d s most : Nat, digits tie (scaled m (q + 2)) = (d, (s : Int)) ∧ s ≤ most ∧
      4 * (2 ^ q * m) < 10 ^ (most + 1) ∧ onGrid? tie (interval (scaled m (q + 2))) (2 ^ q) (10 ^ s) = some d ∧
      ∀ k, s < k → k ≤ most → onGrid? tie (interval (scaled m (q + 2))) (2 ^ q) (10 ^ k) = none := by
  have least : 2 ^ q * fractions ≤ 2 ^ q * m := Nat.mul_le_mul_left _ normal.least
  have positive : 0 < 2 ^ q := Nat.two_pow_pos q
  have value : m * 2 ^ (q + 2) = 4 * (2 ^ q * m) := by ring
  rw [fractions_eq] at least
  obtain ⟨most, exponent, low, high⟩ := Shortest.decimalExponent_one (n := m * 2 ^ (q + 2)) (by rw [value]; omega)
  rw [value] at low high
  have long : 16 ≤ most := by
    by_contra short
    have small : 10 ^ (most + 1) ≤ 10 ^ 16 := Nat.pow_le_pow_right (by decide) (by omega)
    omega
  have fine : 10 ^ 16 * 10 ^ (most - 16) ≤ 4 * (2 ^ q * m) := by
    rwa [← Nat.pow_add, Nat.add_sub_cancel' long]
  have enough : ∃ s ≤ most, most < s + 18 ∧ onGrid? tie (interval (scaled m (q + 2))) (2 ^ q) (10 ^ s) ≠ none :=
    ⟨most - 16, by omega, by omega, normal.onGrid?_ne_none (Nat.pow_pos (by decide)) fine⟩
  have grid : ((most + 1 : Nat) : Int) - (1 : Nat) = most := by omega
  obtain ⟨s, d, found, coarse, point, coarser⟩ := Shortest.search_finds grid enough
  refine ⟨d, s, most, ?_, coarse, high, point, coarser⟩
  rw [digits, normal.ratio]
  simp only [normal.power, exponent, found]

/-- Where no coarser grid has a point, what rounds to the value has no more zeros at its end. -/
theorem pow_dvd_of_coarser {tie : Tie} {d s most k other : Nat} (small : 4 * (2 ^ q * m) < 10 ^ (most + 1))
    (coarse : s ≤ most)
    (coarser : ∀ k, s < k → k ≤ most → onGrid? tie (interval (scaled m (q + 2))) (2 ^ q) (10 ^ k) = none)
    (inside : (interval (scaled m (q + 2))).Holds (2 ^ q) (d * 10 ^ s))
    (held : (interval (scaled m (q + 2))).Holds (2 ^ q) other) (divides : 10 ^ k ∣ other) : 10 ^ k ∣ d * 10 ^ s := by
  have absent : ∀ k e, s < k → k ≤ most → ¬ (interval (scaled m (q + 2))).Holds (2 ^ q) (e * 10 ^ k) :=
    fun k e above below => not_holds_of_onGrid?_none normal.holds_value (Nat.pow_pos (by decide)) (coarser k above below) e
  have multiple : ∀ {j}, 10 ^ j ∣ other → ∃ e, other = e * 10 ^ j := fun ⟨e, shown⟩ => ⟨e, by rw [shown, Nat.mul_comm]⟩
  rcases Nat.lt_or_ge s k with above | finer
  · rcases Nat.lt_or_ge most k with beyond | inRange
    · obtain ⟨e, rfl⟩ := multiple ((Nat.pow_dvd_pow 10 beyond.le).trans divides)
      rcases Nat.eq_or_lt_of_le coarse with rfl | less
      · have shift : 10 ^ (s + 1) = 10 * 10 ^ s := Nat.pow_succ'
        rw [shift] at small
        rwa [normal.coarse_unique small inside held]
      · exact absurd held (absent most e less le_rfl)
    · obtain ⟨e, rfl⟩ := multiple divides
      exact absurd held (absent k e above inRange)
  · exact Dvd.dvd.mul_left (Nat.pow_dvd_pow 10 finer) d

/-- The search finds the shortest number that rounds to the value. -/
theorem digits_isShortest (tie : Tie) :
    ∃ d s : Nat, digits tie (scaled m (q + 2)) = (d, (s : Int)) ∧ (scaled m (q + 2)).IsShortest (d * 10 ^ s) := by
  obtain ⟨d, s, most, found, coarse, small, point, coarser⟩ := normal.digits_eq tie
  obtain ⟨inside, nearest⟩ :=
    onGrid?_some normal.holds_value (Nat.pow_pos (by decide)) (fun b => normal.untied) point
  refine ⟨d, s, found, ?_⟩
  constructor
  case rounds => exact (ofNat_eq_scaled_iff_holds normal).mpr inside
  case fewest =>
    intro other k rounds divides
    rw [ofNat_eq_scaled_iff_holds normal] at rounds
    exact normal.pow_dvd_of_coarser small coarse coarser inside rounds divides
  case nearest =>
    intro other rounds divides different
    obtain ⟨e, shown⟩ : 10 ^ s ∣ other := divides s (Nat.dvd_mul_left _ _)
    rw [Nat.mul_comm] at shown
    subst shown
    rw [ofNat_eq_scaled_iff_holds normal] at rounds
    rw [normal.distance_eq, normal.distance_eq]
    exact nearest e rounds fun same => different (same ▸ rfl)

end Binary64.Normal

namespace FloatLayout

/-- Zeros at the end of digits are those of a power of ten. -/
theorem toDigits_mul_pow {d : Nat} (some : 0 < d) (s : Nat) :
    Nat.toDigits 10 (d * 10 ^ s) = Nat.toDigits 10 d ++ List.replicate s '0' := by
  induction s with
  | zero => simp
  | succ s ih =>
    have positive : 0 < d * 10 ^ s := Nat.mul_pos some (Nat.pow_pos (by decide))
    have shift : d * 10 ^ (s + 1) = d * 10 ^ s * 10 := by ring
    rw [shift, Nat.toDigits_of_base_le (by decide) (by omega), Nat.mul_div_cancel _ (by decide), ih,
      Nat.mul_mod_left, List.replicate_succ', List.append_assoc]
    rfl

/-- Zeros that are taken from the end of digits can be put there again. -/
theorem append_zeros (cs : List Char) (s : Nat) :
    (cs.reverse.dropWhile (· == '0')).reverse ++
      List.replicate (cs.length + s - (cs.reverse.dropWhile (· == '0')).length) '0' = cs ++ List.replicate s '0' := by
  have zeros : cs.reverse.takeWhile (· == '0') = List.replicate (cs.reverse.takeWhile (· == '0')).length '0' :=
    List.eq_replicate_of_mem fun c member => by simpa using List.mem_takeWhile_imp member
  have parts : cs.reverse.takeWhile (· == '0') ++ cs.reverse.dropWhile (· == '0') = cs.reverse :=
    List.takeWhile_append_dropWhile
  have whole : cs = (cs.reverse.dropWhile (· == '0')).reverse ++
      List.replicate (cs.reverse.takeWhile (· == '0')).length '0' := by
    rw [← List.reverse_replicate, ← zeros, ← List.reverse_append, parts, List.reverse_reverse]
  have length := congrArg List.length parts
  rw [List.length_append, List.length_reverse] at length
  conv_rhs => rw [whole, List.append_assoc, List.replicate_append_replicate]
  congr 2
  omega

/-- Digits whose point stands behind them are followed by zeros. -/
theorem magnitude_plain {d : Nat} (some : 0 < d) (s : Nat) : plain.magnitude d s = Nat.toDigits 10 (d * 10 ^ s) := by
  have length : 0 < (Nat.toDigits 10 d).length := Nat.length_toDigits_pos
  have stripped := (List.dropWhile_suffix (l := (Nat.toDigits 10 d).reverse) (· == '0')).length_le
  rw [List.length_reverse] at stripped
  rw [toDigits_mul_pow some, ← append_zeros]
  simp only [magnitude, plain, place, List.length_reverse]
  rw [if_neg (by omega), if_neg (by omega)]
  have point : ((Nat.toDigits 10 d).length + s : Int).natAbs = (Nat.toDigits 10 d).length + s := by omega
  simp [point]

/-- The text of a positive value is that of its digits. -/
theorem chars_eq_magnitude {layout : FloatLayout} {x : Binary64} {d : Nat} {e : Int} (positive : x.isNegative = false)
    (finite : x.isFinite = true) (number : x.isNaN = false) (zero : x.isZero = false)
    (digits : Shortest.digits layout.tie x = (d, e)) : layout.chars x = layout.magnitude d e := by
  simp [chars, positive, finite, number, zero, digits]

end FloatLayout

namespace Binary64

theorem Normal.text {m q : Nat} (normal : Normal m (q + 2)) :
    ∃ n, (scaled m (q + 2)).IsShortest n ∧ FloatLayout.plain.text (scaled m (q + 2)) = toString n := by
  obtain ⟨d, s, digits, shortest⟩ := normal.digits_isShortest FloatLayout.plain.tie
  have some : 0 < d := by
    have whole := ((ofNat_eq_scaled_iff normal).mp shortest.rounds).1
    exact Nat.pos_of_ne_zero fun zero => whole (by simp [zero])
  have number : (scaled m (q + 2)).isNaN = false := by
    rw [isNaN, normal.exponentField, Bool.and_eq_false_iff]
    exact .inl (beq_false_of_ne normal.finite.ne)
  have zero : (scaled m (q + 2)).isZero = false := by
    rw [isZero, normal.exponentField, Bool.and_eq_false_iff]
    exact .inl (beq_false_of_ne (by omega))
  refine ⟨d * 10 ^ s, shortest, ?_⟩
  rw [FloatLayout.text, FloatLayout.chars_eq_magnitude normal.isNegative normal.isFinite number zero digits,
    FloatLayout.magnitude_plain some, Nat.toString_eq_ofList_toDigits]

/-- A number with at least 55 binary digits is written as the shortest one that rounds to the same value. -/
theorem text_ofNat {p : Nat} (long : 54 ≤ p.log2) (short : p.log2 < 1023) :
    ∃ n, (ofNat p).IsShortest n ∧ FloatLayout.plain.text (ofNat p) = toString n := by
  obtain ⟨m, q, normal, -, rounds⟩ := exists_scaled long short
  rw [rounds]
  exact normal.text

/-- A grid that is at most as wide as half of the last place has a point that rounds to the value, so the shortest number
ends in as many zeros. -/
theorem IsShortest.pow_dvd {p n k : Nat} (long : 54 ≤ p.log2) (short : p.log2 < 1023) (fine : 10 ^ k ≤ 2 ^ (p.log2 - 53))
    (shortest : (ofNat p).IsShortest n) : 10 ^ k ∣ n := by
  obtain ⟨m, q, normal, place, rounds⟩ := exists_scaled long short
  have positive : 0 < 2 ^ q := Nat.two_pow_pos q
  have width : 10 ^ k ≤ 2 ^ q * 2 := by
    rw [← Nat.pow_succ]
    exact fine.trans (Nat.pow_le_pow_right (by decide) (by omega))
  rw [rounds] at shortest
  have unit : 0 < 10 ^ k := Nat.pow_pos (by decide)
  obtain ⟨e, held⟩ := normal.exists_holds unit (by split <;> omega)
  exact shortest.fewest _ k ((ofNat_eq_scaled_iff_holds normal).mpr held) (Nat.dvd_mul_left _ e)

end Binary64

end SafeMigration
