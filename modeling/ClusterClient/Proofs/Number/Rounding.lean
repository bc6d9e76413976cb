import ClusterClient.Number.Shortest
import Mathlib.Algebra.Order.Field.Power
import Mathlib.Algebra.Order.Round
import Mathlib.Tactic.FieldSimp
import Mathlib.Tactic.Linarith
import Mathlib.Tactic.NormNum

/-! # What rounding does

A double stands for the reals of an interval around its magnitude (`ClusterClient.Double.Covers`),
and what rounds to it lies in this interval (`ClusterClient.Double.nearest?_covers`). What has no
more than 53 binary digits rounds to itself (`ClusterClient.Double.nearest?_exact`), and what lies
among the doubles with all 53 bits rounds to one of them (`ClusterClient.Double.nearest?_normal`).
-/

namespace ClusterClient

namespace Double

/-- What a fraction is worth. -/
def ratio (fraction : Nat × Nat) : ℚ := fraction.1 / fraction.2

/-- What a number is worth without its sign. -/
def magnitude (d : Double) : ℚ := d.mantissa * 2 ^ d.exponent

/-- A mantissa of at most 53 bits, and of all 53 unless the exponent is the least. -/
structure Regular (d : Double) : Prop where
  mantissa_lt : d.mantissa < 2 ^ 53
  least_le : leastExponent ≤ d.exponent
  le_greatest : d.exponent ≤ greatestExponent
  full : leastExponent < d.exponent → 2 ^ 52 ≤ d.mantissa

/-- The part of a step between a number and the lower end of its interval. The step below a power of
two is half as wide. -/
def reach (d : Double) : ℚ :=
  if d.mantissa = twoTo 52 ∧ leastExponent < d.exponent then 1 / 4 else 1 / 2

/-- Whether a real rounds to the magnitude of a number: it lies in the interval around it, whose
ends belong to an even mantissa. -/
structure Covers (d : Double) (x : ℚ) : Prop where
  lower : (d.mantissa - d.reach) * 2 ^ d.exponent ≤ x
  upper : x ≤ (d.mantissa + 1 / 2) * 2 ^ d.exponent
  inside : d.mantissa % 2 = 1 →
    (d.mantissa - d.reach) * 2 ^ d.exponent < x ∧ x < (d.mantissa + 1 / 2) * 2 ^ d.exponent

/-- Between a quarter of a step and half a step. -/
theorem reach_bounds (d : Double) : 1 / 4 ≤ d.reach ∧ d.reach ≤ 1 / 2 := by
  unfold reach
  split_ifs <;> norm_num

theorem two_zpow_pos (power : Int) : (0 : ℚ) < 2 ^ power := zpow_pos two_pos power

theorem two_zpow_le {low high : Int} (less : low ≤ high) : (2 : ℚ) ^ low ≤ 2 ^ high :=
  zpow_le_zpow_right₀ one_le_two less

theorem two_zpow_add (power : Int) (width : Nat) :
    (2 : ℚ) ^ (power + width) = 2 ^ width * 2 ^ power := by
  rw [zpow_add₀ two_ne_zero, zpow_natCast, mul_comm]

theorem magnitude_zero {d : Double} (zero : d.mantissa = 0) : d.magnitude = 0 := by
  rw [magnitude, zero, Nat.cast_zero, zero_mul]

/-- Only zero has no steps. -/
theorem mantissa_ne_zero {d : Double} (some : d.magnitude ≠ 0) : d.mantissa ≠ 0 :=
  mt magnitude_zero some

theorem isZero_of_ne {d : Double} (some : d.mantissa ≠ 0) : d.isZero = false := by
  rwa [isZero, beq_eq_false_iff_ne]

/-- Only doubles of the least exponent have fewer than 53 bits. -/
theorem Regular.exponent_eq {d : Double} (regular : d.Regular) (few : d.mantissa < 2 ^ 52) :
    d.exponent = leastExponent := by
  by_contra other
  exact absurd (regular.full (lt_of_le_of_ne regular.least_le (Ne.symm other))) (not_le.mpr few)

theorem shiftDown_pos (num : Nat) {den : Nat} (positive : 0 < den) (power : Int) :
    0 < (shiftDown num den power).2 := by
  unfold shiftDown
  split_ifs
  · exact Nat.mul_pos positive (Nat.two_pow_pos _)
  · exact positive

/-- Shifting a fraction divides it by a power of two. -/
theorem ratio_shiftDown (num den : Nat) (power : Int) :
    ratio (shiftDown num den power) = num / den / 2 ^ power := by
  unfold shiftDown ratio
  split_ifs with up
  · obtain ⟨width, rfl⟩ := Int.eq_ofNat_of_zero_le up
    simp only [Int.toNat_natCast, zpow_natCast, twoTo, Nat.pow_eq,
      Nat.cast_mul, Nat.cast_pow, Nat.cast_ofNat, div_mul_eq_div_div]
  · obtain ⟨width, rfl⟩ : ∃ width : Nat, power = -(width : Int) := ⟨(-power).toNat, by omega⟩
    simp only [neg_neg, Int.toNat_natCast, zpow_neg, zpow_natCast, twoTo, Nat.pow_eq,
      Nat.cast_mul, Nat.cast_pow, Nat.cast_ofNat, div_inv_eq_mul, div_mul_eq_mul_div]

/-- A number of steps rounds to a whole one at most half a step away, and to an even one from the
middle. -/
structure Steps (steps : ℚ) (rounded : Nat) : Prop where
  lower : (rounded - 1 / 2 : ℚ) ≤ steps
  upper : steps ≤ rounded + 1 / 2
  inside : rounded % 2 = 1 → (rounded - 1 / 2 : ℚ) < steps ∧ steps < rounded + 1 / 2

/-- Rounding half to even rounds to the nearest whole number. -/
theorem roundHalfEven_steps (num : Nat) {den : Nat} (positive : 0 < den) :
    Steps (num / den) (roundHalfEven num den) := by
  have split : (num : ℚ) / den = (num / den : Nat) + (num % den : Nat) / den := by
    have whole := Nat.div_add_mod num den
    have cast : (num : ℚ) = den * (num / den : Nat) + (num % den : Nat) := by
      exact_mod_cast whole.symm
    rw [cast, add_div, mul_div_cancel_left₀ _ (by positivity)]
  have scale : (0 : ℚ) < den := by exact_mod_cast positive
  have small : (0 : ℚ) ≤ (num % den : Nat) / den := by positivity
  have less : ((num % den : Nat) : ℚ) / den < 1 := by
    rw [div_lt_one scale]
    exact_mod_cast Nat.mod_lt num positive
  have half : ∀ {r : Nat}, 2 * r < den ↔ (r : ℚ) / den < 1 / 2 := by
    intro r
    rw [div_lt_div_iff₀ scale two_pos, one_mul]
    norm_cast
    rw [Nat.mul_comm]
  have half' : ∀ {r : Nat}, den < 2 * r ↔ 1 / 2 < (r : ℚ) / den := by
    intro r
    rw [div_lt_div_iff₀ two_pos scale, one_mul]
    norm_cast
    rw [Nat.mul_comm]
  rw [split]
  unfold roundHalfEven
  simp only [half, half']
  -- Only the whole part and the rest behind it count from here on.
  generalize num / den = whole at *
  generalize ((num % den : Nat) : ℚ) / den = rest at *
  split_ifs with left right
  · exact ⟨by linarith, by linarith, fun _ => ⟨by linarith, by linarith⟩⟩
  · have next : ((whole + 1 : Nat) : ℚ) = whole + 1 := Nat.cast_succ whole
    refine ⟨?_, ?_, fun _ => ⟨?_, ?_⟩⟩ <;> linarith
  · obtain rfl : rest = 1 / 2 := le_antisymm (not_lt.mp right) (not_lt.mp left)
    rcases Nat.mod_two_eq_zero_or_one whole with even | odd
    · rw [even, Nat.add_zero]
      exact ⟨by linarith, by linarith, fun odd => by omega⟩
    · have next : ((whole + 1 : Nat) : ℚ) = whole + 1 := Nat.cast_succ whole
      rw [odd]
      exact ⟨by linarith, by linarith, fun even => by omega⟩

/-- The number of binary digits bounds a whole number within a factor of two. -/
theorem log2_bounds {n : Nat} (positive : 0 < n) :
    (2 : ℚ) ^ (Nat.log2 n : Int) ≤ n ∧ (n : ℚ) < 2 ^ ((Nat.log2 n : Int) + 1) := by
  have lower := Nat.log2_self_le positive.ne'
  have upper := Nat.lt_log2_self (n := n)
  constructor
  · exact_mod_cast lower
  · exact_mod_cast upper

/-- The binary digits of numerator and denominator bound a fraction within a factor of four. -/
theorem ratio_bounds {num den : Nat} (above : 0 < num) (under : 0 < den) :
    (2 : ℚ) ^ ((Nat.log2 num : Int) - Nat.log2 den - 1) < num / den ∧
      (num / den : ℚ) < 2 ^ ((Nat.log2 num : Int) - Nat.log2 den + 1) := by
  obtain ⟨least, less⟩ := log2_bounds above
  obtain ⟨least', less'⟩ := log2_bounds under
  have positive : (0 : ℚ) < den := by exact_mod_cast under
  have positive' := two_zpow_pos (Nat.log2 den : Int)
  constructor
  · rw [lt_div_iff₀ positive]
    calc (2 : ℚ) ^ ((Nat.log2 num : Int) - Nat.log2 den - 1) * den
        < 2 ^ ((Nat.log2 num : Int) - Nat.log2 den - 1) * 2 ^ ((Nat.log2 den : Int) + 1) :=
          mul_lt_mul_of_pos_left less' (two_zpow_pos _)
      _ = 2 ^ (Nat.log2 num : Int) := by
          rw [← zpow_add₀ two_ne_zero]
          congr 1
          omega
      _ ≤ num := least
  · rw [div_lt_iff₀ positive]
    calc (num : ℚ) < 2 ^ ((Nat.log2 num : Int) + 1) := less
      _ = 2 ^ ((Nat.log2 num : Int) - Nat.log2 den + 1) * 2 ^ (Nat.log2 den : Int) := by
          rw [← zpow_add₀ two_ne_zero]
          congr 1
          omega
      _ ≤ 2 ^ ((Nat.log2 num : Int) - Nat.log2 den + 1) * den :=
          mul_le_mul_of_nonneg_left least' (two_zpow_pos _).le

theorem le_div_two_zpow (power : Int) (width : Nat) (x : ℚ) :
    (2 : ℚ) ^ width ≤ x / 2 ^ power ↔ 2 ^ (power + width) ≤ x := by
  rw [le_div_iff₀ (two_zpow_pos power), two_zpow_add]

theorem div_two_zpow_lt (power : Int) (width : Nat) (x : ℚ) :
    x / 2 ^ power < (2 : ℚ) ^ width ↔ x < 2 ^ (power + width) := by
  rw [div_lt_iff₀ (two_zpow_pos power), two_zpow_add]

/-- At its exponent a fraction is fewer than `2 ^ 53` steps, and at least `2 ^ 52` unless the
exponent is the least. -/
theorem exponentFor_bounds {num den : Nat} (above : 0 < num) (under : 0 < den) :
    leastExponent ≤ exponentFor num den ∧
      (num / den : ℚ) / 2 ^ exponentFor num den < 2 ^ 53 ∧
      (leastExponent < exponentFor num den →
        (2 : ℚ) ^ 52 ≤ num / den / 2 ^ exponentFor num den) := by
  obtain ⟨lower, upper⟩ := ratio_bounds above under
  unfold exponentFor
  generalize guessed : (Nat.log2 num : Int) - Nat.log2 den - 52 = guess
  have shifted := ratio_shiftDown num den guess
  have positive : (0 : ℚ) < (shiftDown num den guess).2 := by
    exact_mod_cast shiftDown_pos _ under guess
  have reaches : twoTo 52 * (shiftDown num den guess).2 ≤ (shiftDown num den guess).1 ↔
      (2 : ℚ) ^ (guess + 52) ≤ num / den := by
    have steps := le_div_two_zpow guess 52 (num / den)
    rw [← shifted, ratio, le_div_iff₀ positive] at steps
    exact Iff.trans (by norm_cast) steps
  -- The guess from the binary digits of both parts may be one too great.
  have fitted : ∃ exponent, (if twoTo 52 * (shiftDown num den guess).2 ≤
      (shiftDown num den guess).1 then guess else guess - 1) = exponent ∧
        (2 : ℚ) ^ (exponent + 52) ≤ num / den ∧ (num / den : ℚ) < 2 ^ (exponent + 53) := by
    refine ⟨_, rfl, ?_⟩
    split_ifs with reached
    · exact ⟨reaches.mp reached, upper.trans_le (two_zpow_le (by omega))⟩
    · exact ⟨(two_zpow_le (by omega)).trans lower.le,
        (not_le.mp (mt reaches.mpr reached)).trans_le (two_zpow_le (by omega))⟩
  obtain ⟨exponent, same, least, less⟩ := fitted
  simp only [same, le_div_two_zpow, div_two_zpow_lt]
  refine ⟨le_max_left _ _, less.trans_le ?_, fun larger => ?_⟩
  · exact two_zpow_le (by push_cast; omega)
  · rw [max_eq_right (by omega)]
    exact least

theorem zero_ne : 0 ≠ twoTo 52 := by decide

theorem twoTo_lt : twoTo 52 < 2 ^ 53 := by decide

theorem odd_ne : twoTo 52 % 2 ≠ 1 := by decide

/-- What a fraction rounds to at its exponent covers it. -/
theorem covers_of_steps {x : ℚ} {negative : Bool} {mantissa : Nat} {exponent : Int}
    (steps : Steps (x / 2 ^ exponent) mantissa)
    (full : leastExponent < exponent → (2 : ℚ) ^ 52 ≤ x / 2 ^ exponent) :
    Covers ⟨negative, mantissa, exponent⟩ x := by
  obtain ⟨lower, upper, inside⟩ := steps
  have step := two_zpow_pos exponent
  rw [le_div_iff₀ step] at lower
  rw [div_le_iff₀ step] at upper
  rw [lt_div_iff₀ step, div_lt_iff₀ step] at inside
  rw [le_div_iff₀ step] at full
  refine ⟨?_, upper, fun odd => ?_⟩
  · unfold reach
    split_ifs with least
    · obtain ⟨rfl, larger⟩ := least
      refine le_trans (mul_le_mul_of_nonneg_right ?_ step.le) (full larger)
      norm_num [twoTo]
    · exact lower
  · have even : ¬ (mantissa = twoTo 52 ∧ leastExponent < exponent) := by
      rintro ⟨rfl, -⟩
      exact odd_ne odd
    rw [reach, if_neg even]
    exact inside odd

/-- What rounds up to `2 ^ 53` steps is covered by `2 ^ 52` steps of twice the size. -/
theorem covers_of_carry {x : ℚ} {negative : Bool} {exponent : Int}
    (least : leastExponent ≤ exponent) (steps : Steps (x / 2 ^ exponent) (2 ^ 53))
    (less : x / 2 ^ exponent < 2 ^ 53) : Covers ⟨negative, twoTo 52, exponent + 1⟩ x := by
  have step := two_zpow_pos exponent
  have lower := (le_div_iff₀ step).mp steps.lower
  have upper := (div_lt_iff₀ step).mp less
  have half : reach ⟨negative, twoTo 52, exponent + 1⟩ = 1 / 4 := if_pos ⟨rfl, by simp only; omega⟩
  have double : (2 : ℚ) ^ (exponent + 1) = 2 * 2 ^ exponent := by
    rw [zpow_add_one₀ two_ne_zero, mul_comm]
  refine ⟨?_, ?_, fun odd => (odd_ne odd).elim⟩
  · rw [half, double]
    norm_num [twoTo] at lower ⊢
    linarith
  · rw [double]
    norm_num [twoTo] at upper ⊢
    linarith

theorem least_le_greatest : leastExponent ≤ greatestExponent := by decide

/-- Zero is a regular double and covers itself. -/
theorem zero_covers (negative : Bool) :
    Regular ⟨negative, 0, leastExponent⟩ ∧ Covers ⟨negative, 0, leastExponent⟩ 0 := by
  have step := two_zpow_pos leastExponent
  refine ⟨⟨by norm_num, le_rfl, least_le_greatest, fun larger => absurd larger (lt_irrefl _)⟩,
    ?_, ?_, nofun⟩
  · rw [reach, if_neg (fun full => zero_ne full.1), Nat.cast_zero, zero_sub, neg_mul]
    linarith
  · rw [Nat.cast_zero, zero_add]
    linarith

/-- A fraction at its exponent: how many steps it is and to how many it rounds. -/
structure Rounded (x : ℚ) (mantissa : Nat) (exponent : Int) : Prop where
  least : leastExponent ≤ exponent
  less : x / 2 ^ exponent < 2 ^ 53
  full : leastExponent < exponent → (2 : ℚ) ^ 52 ≤ x / 2 ^ exponent
  steps : Steps (x / 2 ^ exponent) mantissa

/-- The nearest double has the steps to which a fraction rounds, or half of `2 ^ 53` ones. -/
theorem nearest?_rounded (negative : Bool) {num den : Nat} (above : 0 < num) (under : 0 < den) :
    ∃ mantissa exponent, Rounded (num / den) mantissa exponent ∧
      nearest? negative num den =
        if mantissa = twoTo 53 then
          if exponent + 1 ≤ greatestExponent then some ⟨negative, twoTo 52, exponent + 1⟩ else none
        else if exponent ≤ greatestExponent then some ⟨negative, mantissa, exponent⟩
        else none := by
  obtain ⟨least, less, full⟩ := exponentFor_bounds above under
  have steps := roundHalfEven_steps (shiftDown num den (exponentFor num den)).1
    (shiftDown_pos num under (exponentFor num den))
  rw [← ratio, ratio_shiftDown] at steps
  refine ⟨_, _, ⟨least, less, full, steps⟩, ?_⟩
  simp only [nearest?, if_neg above.ne']
  by_cases carry : roundHalfEven (shiftDown num den (exponentFor num den)).1
      (shiftDown num den (exponentFor num den)).2 = twoTo 53
  · simp only [if_pos carry]
  · simp only [if_neg carry]

/-- **Rounding.** The nearest double to a fraction covers it. -/
theorem nearest?_covers {negative : Bool} {num den : Nat} (under : 0 < den) {d : Double}
    (found : nearest? negative num den = some d) :
    d.negative = negative ∧ d.Regular ∧ d.Covers (num / den) := by
  rcases Nat.eq_zero_or_pos num with rfl | above
  · cases found
    rw [Nat.cast_zero, zero_div]
    exact ⟨rfl, zero_covers negative⟩
  · obtain ⟨mantissa, exponent, rounded, same⟩ := nearest?_rounded negative above under
    rw [same] at found
    split_ifs at found with carry finite finite
    · cases found
      subst carry
      exact ⟨rfl, ⟨twoTo_lt, rounded.least.trans (Int.le_add_one le_rfl), finite, fun _ => le_rfl⟩,
        covers_of_carry rounded.least rounded.steps rounded.less⟩
    · cases found
      refine ⟨rfl, ⟨?_, rounded.least, finite, fun larger => ?_⟩,
        covers_of_steps rounded.steps rounded.full⟩
      · have upper : (mantissa : ℚ) < 2 ^ 53 + 1 := by linarith [rounded.steps.lower, rounded.less]
        have within : mantissa < 2 ^ 53 + 1 := by exact_mod_cast upper
        exact lt_of_le_of_ne (Nat.lt_succ_iff.mp within) carry
      · have lower : (2 ^ 52 : ℚ) < mantissa + 1 := by
          linarith [rounded.steps.upper, rounded.full larger]
        have within : 2 ^ 52 < mantissa + 1 := by exact_mod_cast lower
        exact Nat.lt_succ_iff.mp within

/-- What a double covers below `2 ^ 52` steps is less than a power of two, by a quarter of a step at
most. -/
theorem Covers.below_power {d : Double} {x : ℚ} (regular : d.Regular) (covered : d.Covers x)
    (larger : leastExponent < d.exponent) (bounded : x < 2 ^ 52 * 2 ^ d.exponent) :
    d.mantissa = twoTo 52 ∧ (2 ^ 52 - 1 / 4 : ℚ) * 2 ^ d.exponent ≤ x := by
  have full := regular.full larger
  have few : (d.mantissa - d.reach : ℚ) < 2 ^ 52 :=
    lt_of_mul_lt_mul_right (covered.lower.trans_lt bounded) (two_zpow_pos d.exponent).le
  have power : d.mantissa = 2 ^ 52 := by
    have upper : (d.mantissa : ℚ) < 2 ^ 52 + 1 := by linarith [(reach_bounds d).2]
    have cast : d.mantissa < 2 ^ 52 + 1 := by exact_mod_cast upper
    omega
  have quarter : d.reach = 1 / 4 := if_pos ⟨power, larger⟩
  have lower := covered.lower
  rw [quarter, power] at lower
  exact ⟨power, by exact_mod_cast lower⟩

/-- A whole number of steps is not rounded. -/
theorem Steps.eq_of_natCast {steps rounded : Nat} (near : Steps steps rounded) :
    rounded = steps := by
  have lower : (rounded : ℚ) < steps + 1 := by linarith [near.lower]
  have upper : (steps : ℚ) < rounded + 1 := by linarith [near.upper]
  have less : rounded < steps + 1 := by exact_mod_cast lower
  have more : steps < rounded + 1 := by exact_mod_cast upper
  omega

/-- **Rounding keeps what a double can hold**: a fraction of at most 53 binary digits. -/
theorem nearest?_exact (negative : Bool) {num den : Nat} (under : 0 < den) {digits : Nat}
    {power : Int} (few : digits < 2 ^ 53) (least : leastExponent ≤ power)
    (finite : power ≤ greatestExponent) (same : (num / den : ℚ) = digits * 2 ^ power) :
    ∃ d, nearest? negative num den = some d ∧ d.magnitude = num / den := by
  rcases Nat.eq_zero_or_pos num with rfl | above
  · refine ⟨_, rfl, (magnitude_zero rfl).trans ?_⟩
    rw [Nat.cast_zero, zero_div]
  · obtain ⟨mantissa, exponent, rounded, found⟩ := nearest?_rounded negative above under
    have few' : (digits : ℚ) < 2 ^ 53 := by exact_mod_cast few
    have finer : exponent ≤ power := by
      by_contra coarser
      have full := rounded.full (by omega)
      rw [le_div_two_zpow] at full
      have less : (num / den : ℚ) < 2 ^ (exponent + (52 : Nat)) :=
        calc (num / den : ℚ) < 2 ^ 53 * 2 ^ power := by
              rw [same]
              exact mul_lt_mul_of_pos_right few' (two_zpow_pos power)
          _ = 2 ^ (power + (53 : Nat)) := (two_zpow_add _ _).symm
          _ ≤ 2 ^ (exponent + (52 : Nat)) := two_zpow_le (by push_cast; omega)
      exact absurd full (not_le.mpr less)
    obtain ⟨extra, rfl⟩ := Int.le.dest finer
    have whole : (num / den : ℚ) / 2 ^ exponent = (digits * 2 ^ extra : Nat) := by
      rw [same, zpow_add₀ two_ne_zero, zpow_natCast]
      push_cast
      field_simp
    have steps := rounded.steps
    have less := rounded.less
    rw [whole] at steps less
    have kept := steps.eq_of_natCast
    have within : mantissa < 2 ^ 53 := by
      rw [kept]
      exact_mod_cast less
    have carry : mantissa ≠ twoTo 53 := within.ne
    rw [if_neg carry, if_pos (by omega)] at found
    refine ⟨_, found, ?_⟩
    rw [magnitude, kept, ← whole, div_mul_cancel₀ _ (two_zpow_pos exponent).ne']

/-- What is no greater than the greatest number rounds to one. -/
theorem nearest?_finite (negative : Bool) {num den : Nat} (under : 0 < den)
    (high : (num / den : ℚ) ≤ (2 ^ 53 - 1) * 2 ^ greatestExponent) :
    ∃ d, nearest? negative num den = some d := by
  rcases Nat.eq_zero_or_pos num with rfl | above
  · exact ⟨_, rfl⟩
  obtain ⟨mantissa, exponent, rounded, same⟩ := nearest?_rounded negative above under
  have finite : exponent ≤ greatestExponent := by
    by_contra huge
    have step := two_zpow_pos greatestExponent
    have full := rounded.full (lt_of_le_of_lt least_le_greatest (not_le.mp huge))
    rw [le_div_two_zpow] at full
    have less : (2 : ℚ) ^ (exponent + (52 : Nat)) < 2 ^ (greatestExponent + (53 : Nat)) :=
      calc (2 : ℚ) ^ (exponent + (52 : Nat)) ≤ (2 ^ 53 - 1) * 2 ^ greatestExponent :=
            full.trans high
        _ < 2 ^ 53 * 2 ^ greatestExponent := mul_lt_mul_of_pos_right (sub_one_lt _) step
        _ = 2 ^ (greatestExponent + (53 : Nat)) := (two_zpow_add _ _).symm
    have order := (zpow_lt_zpow_iff_right₀ one_lt_two).mp less
    push_cast at order
    omega
  rw [same]
  split_ifs with carry next
  · exact ⟨_, rfl⟩
  · obtain rfl : exponent = greatestExponent := by omega
    subst carry
    have step := two_zpow_pos greatestExponent
    have lower := (le_div_iff₀ step).mp rounded.steps.lower
    norm_num [twoTo] at lower high
    linarith
  · exact ⟨_, rfl⟩

/-- What lies among the numbers with all 53 bits rounds to one of them. -/
theorem nearest?_normal (negative : Bool) {num den : Nat} (under : 0 < den)
    (low : (2 : ℚ) ^ (-1022 : Int) ≤ num / den)
    (high : (num / den : ℚ) ≤ (2 ^ 53 - 1) * 2 ^ greatestExponent) :
    ∃ d, nearest? negative num den = some d ∧ d.Regular ∧ d.Covers (num / den) ∧
      2 ^ 52 ≤ d.mantissa := by
  obtain ⟨d, found⟩ := nearest?_finite negative under high
  obtain ⟨_, regular, covered⟩ := nearest?_covers under found
  refine ⟨d, found, regular, covered, ?_⟩
  by_contra small
  have least := regular.exponent_eq (not_le.mp small)
  have step := two_zpow_pos leastExponent
  have split : (2 : ℚ) ^ (-1022 : Int) = 2 ^ 52 * 2 ^ leastExponent := two_zpow_add leastExponent 52
  have upper := low.trans covered.upper
  rw [least, split, mul_le_mul_iff_left₀ step] at upper
  have few : (d.mantissa : ℚ) + 1 ≤ 2 ^ 52 := by exact_mod_cast not_le.mp small
  linarith

theorem fraction_pos (d : Double) : 0 < d.fraction.2 := shiftDown_pos _ one_pos _

/-- The fraction of a double is worth its magnitude. -/
theorem fraction_ratio (d : Double) : (d.fraction.1 / d.fraction.2 : ℚ) = d.magnitude := by
  have worth := ratio_shiftDown d.mantissa 1 (-d.exponent)
  rw [zpow_neg, div_inv_eq_mul, Nat.cast_one, div_one] at worth
  exact worth

/-- A product is rounded once. -/
theorem mul?_eq (a b : Double) :
    ∃ num den : Nat, 0 < den ∧ (num / den : ℚ) = a.magnitude * b.magnitude ∧
      a.mul? b = nearest? (a.negative != b.negative) num den := by
  refine ⟨a.fraction.1 * b.fraction.1, a.fraction.2 * b.fraction.2,
    Nat.mul_pos a.fraction_pos b.fraction_pos, ?_, rfl⟩
  rw [← fraction_ratio a, ← fraction_ratio b]
  push_cast
  exact (div_mul_div_comm _ _ _ _).symm

/-- A quotient is rounded once. -/
theorem div?_eq (a : Double) {b : Double} (some : b.mantissa ≠ 0) :
    ∃ num den : Nat, 0 < den ∧ (num / den : ℚ) = a.magnitude / b.magnitude ∧
      a.div? b = nearest? (a.negative != b.negative) num den := by
  have positive : 0 < b.fraction.1 := by
    unfold fraction shiftDown
    split_ifs
    · exact Nat.pos_of_ne_zero some
    · exact Nat.mul_pos (Nat.pos_of_ne_zero some) (Nat.two_pow_pos _)
  refine ⟨a.fraction.1 * b.fraction.2, a.fraction.2 * b.fraction.1,
    Nat.mul_pos a.fraction_pos positive, ?_, ?_⟩
  · rw [← fraction_ratio a, ← fraction_ratio b, div_div_div_eq]
    push_cast
    rfl
  · rw [div?, if_neg some]

/-- A whole number of at most 53 binary digits, up to a power of two, is a double as it is. -/
theorem ofNat_exact {n digits power : Nat} (few : digits < 2 ^ 53) (finite : power ≤ 971)
    (same : n = digits * 2 ^ power) : (ofNat n).magnitude = n := by
  have whole : ((n : Nat) / (1 : Nat) : ℚ) = digits * 2 ^ (power : Int) := by
    rw [same, Nat.cast_one, div_one, zpow_natCast]
    push_cast
    rfl
  obtain ⟨d, found, worth⟩ := nearest?_exact false one_pos few
    (by unfold leastExponent; omega) (by unfold greatestExponent; omega) whole
  rw [ofNat, found, Option.getD_some, worth, Nat.cast_one, div_one]

end Double
end ClusterClient
