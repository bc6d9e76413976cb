import ClusterClient.Proofs.Number.Grid

/-! # What the shortest decimal is

The decimal that `ClusterClient.Double.shortest` finds rounds to the double again
(`ClusterClient.Double.shortest_covered`), and no decimal that does so has fewer digits
(`ClusterClient.Double.shortest_fewest`). A decimal of at most fifteen digits that rounds to a
double is the one that is found for it (`ClusterClient.Double.shortest_eq`).
-/

namespace ClusterClient
namespace Double

/-- Powers of two bases compare as powers of their powers do. -/
theorem zpow_le_of_pow_le {a b : ℚ} (more : 1 ≤ b) {k m : Nat} (some : k ≠ 0) {n p : Int}
    (roots : (a ^ k) ^ n ≤ (b ^ m) ^ n) (powers : m * n ≤ k * p) : a ^ n ≤ b ^ p := by
  have positive : 0 < b := one_pos.trans_le more
  refine le_of_pow_le_pow_left₀ some (zpow_pos positive p).le ?_
  calc (a ^ n) ^ k = (a ^ k) ^ n := by
        rw [← zpow_natCast, ← zpow_mul, ← zpow_natCast a k, ← zpow_mul, mul_comm]
    _ ≤ (b ^ m) ^ n := roots
    _ = b ^ (m * n) := by rw [← zpow_natCast b m, ← zpow_mul]
    _ ≤ b ^ (k * p) := zpow_le_zpow_right₀ more powers
    _ = (b ^ p) ^ k := by rw [← zpow_natCast, ← zpow_mul, mul_comm]

/-- A greater base has the smaller power if the exponent is not positive. -/
theorem zpow_le_of_nonpos {a b : ℚ} (positive : 0 < a) (more : a ≤ b) {n : Int} (down : n ≤ 0) :
    b ^ n ≤ a ^ n := by
  obtain ⟨k, rfl⟩ : ∃ k : Nat, n = -(k : Int) := ⟨(-n).toNat, by omega⟩
  rw [zpow_neg, zpow_neg, zpow_natCast, zpow_natCast]
  exact inv_anti₀ (pow_pos positive k) (pow_le_pow_left₀ positive.le more k)

/-- Two bounds of the logarithm of two, from above for the positive powers and from below for the
negative ones. -/
theorem two_zpow_le_ten {binary decimal : Int} (up : 28 * binary ≤ 93 * decimal)
    (down : 59 * binary ≤ 196 * decimal) : (2 : ℚ) ^ binary ≤ 10 ^ decimal := by
  rcases le_total 0 binary with positive | negative
  · exact zpow_le_of_pow_le (by norm_num) (by norm_num : 93 ≠ 0)
      (zpow_le_zpow_left₀ positive (by norm_num) (by norm_num : (2 : ℚ) ^ 93 ≤ 10 ^ 28)) up
  · exact zpow_le_of_pow_le (by norm_num) (by norm_num : 196 ≠ 0)
      (zpow_le_of_nonpos (by norm_num) (by norm_num : (10 : ℚ) ^ 59 ≤ 2 ^ 196) negative) down

/-- A power of ten is below one of two if fractions on both sides of their logarithms say so. -/
theorem ten_zpow_le_two {binary decimal : Int} (up : 196 * decimal ≤ 59 * binary)
    (down : 93 * decimal ≤ 28 * binary) : (10 : ℚ) ^ decimal ≤ 2 ^ binary := by
  rcases le_total 0 decimal with positive | negative
  · exact zpow_le_of_pow_le (by norm_num) (by norm_num : 59 ≠ 0)
      (zpow_le_zpow_left₀ positive (by norm_num) (by norm_num : (10 : ℚ) ^ 59 ≤ 2 ^ 196)) up
  · exact zpow_le_of_pow_le (by norm_num) (by norm_num : 28 ≠ 0)
      (zpow_le_of_nonpos (by norm_num) (by norm_num : (2 : ℚ) ^ 93 ≤ 10 ^ 28) negative) down

/-- Comparing a fraction with a power of ten takes whole numbers only. -/
theorem ratio_ten {num den : Nat} (under : 0 < den) (power : Int) :
    (if 0 ≤ power then decide (den * tenTo power.toNat ≤ num)
      else decide (den ≤ num * tenTo (-power).toNat)) = true ↔
        (10 : ℚ) ^ power ≤ num / den := by
  have denominator : (0 : ℚ) < den := by exact_mod_cast under
  rw [le_div_iff₀ denominator]
  split_ifs with whole
  · obtain ⟨places, rfl⟩ := Int.eq_ofNat_of_zero_le whole
    rw [decide_eq_true_iff, zpow_natCast, mul_comm]
    exact_mod_cast Iff.rfl
  · obtain ⟨places, rfl⟩ : ∃ places : Nat, power = -(places : Int) := ⟨(-power).toNat, by omega⟩
    rw [decide_eq_true_iff, zpow_neg, zpow_natCast, inv_mul_le_iff₀ (by positivity), mul_comm]
    simp only [neg_neg, Int.toNat_natCast, tenTo, Nat.pow_eq]
    exact_mod_cast Iff.rfl

/-- **The decimal magnitude** of a fraction is the power of ten below it. -/
theorem decimalMagnitude_bounds {num den : Nat} (above : 0 < num) (under : 0 < den)
    (low : -10000 ≤ (Nat.log2 num : Int) - Nat.log2 den)
    (high : (Nat.log2 num : Int) - Nat.log2 den ≤ 10000) :
    (10 : ℚ) ^ decimalMagnitude num den ≤ num / den ∧
      (num / den : ℚ) < 10 ^ (decimalMagnitude num den + 1) := by
  obtain ⟨lower, upper⟩ := ratio_bounds above under
  unfold decimalMagnitude
  simp only [ratio_ten under]
  generalize (Nat.log2 num : Int) - Nat.log2 den = binary at *
  rw [Int.fdiv_eq_ediv_of_nonneg _ (by norm_num : (0 : Int) ≤ 100000)]
  generalize guessed : binary * 30103 / 100000 = guess
  have lowest : (10 : ℚ) ^ (guess - 1) ≤ num / den :=
    (ten_zpow_le_two (by omega) (by omega)).trans lower.le
  have highest : (num / den : ℚ) < 10 ^ (guess + 1 + 1) :=
    upper.trans_le (two_zpow_le_ten (by omega) (by omega))
  split_ifs with next this
  · exact ⟨next, highest⟩
  · exact ⟨this, not_le.mp next⟩
  · exact ⟨lowest, by simpa using this⟩

section Interval

variable {d : Double}

/-- The quarters of a step that an interval is scaled to. -/
theorem scaled_quarters (d : Double) (quarters : Nat) :
    ((shiftDown quarters 1 (2 - d.exponent)).1 / (shiftDown 1 1 (2 - d.exponent)).2 : ℚ) =
      quarters / 4 * 2 ^ d.exponent := by
  have same : (shiftDown 1 1 (2 - d.exponent)).2 = (shiftDown quarters 1 (2 - d.exponent)).2 := by
    unfold shiftDown
    split_ifs <;> rfl
  have worth := ratio_shiftDown quarters 1 (2 - d.exponent)
  rw [ratio, ← same] at worth
  rw [worth, zpow_sub₀ two_ne_zero, Nat.cast_one, div_one, div_div_eq_mul_div]
  norm_num
  ring

/-- The lower end is where rounding to the double starts. -/
theorem interval_lower (positive : 0 < d.mantissa) :
    (d.interval.lower / d.interval.denominator : ℚ) =
      (d.mantissa - d.reach) * 2 ^ d.exponent := by
  have some : (1 : ℚ) ≤ d.mantissa := by exact_mod_cast positive
  refine (scaled_quarters d _).trans ?_
  unfold reach
  split_ifs
  · rw [Nat.cast_sub (by omega)]
    push_cast
    ring
  · rw [Nat.cast_sub (by omega)]
    push_cast
    ring

/-- The value of the interval is the magnitude of the double. -/
theorem interval_value (d : Double) :
    (d.interval.value / d.interval.denominator : ℚ) = d.magnitude := by
  refine (scaled_quarters d _).trans ?_
  rw [magnitude]
  push_cast
  ring

/-- The upper end is where rounding to the double ends. -/
theorem interval_upper (d : Double) :
    (d.interval.upper / d.interval.denominator : ℚ) =
      (d.mantissa + 1 / 2) * 2 ^ d.exponent := by
  refine (scaled_quarters d _).trans ?_
  push_cast
  ring

/-- Such an interval has its value inside. -/
theorem interval_proper (positive : 0 < d.mantissa) : d.interval.Proper := by
  have denominator : 0 < d.interval.denominator := shiftDown_pos _ one_pos _
  have scale : (0 : ℚ) < d.interval.denominator := by exact_mod_cast denominator
  have step := two_zpow_pos d.exponent
  have lower := interval_lower positive
  have value := interval_value d
  have upper := interval_upper d
  refine ⟨denominator, ?_, ?_⟩
  · have less : (d.interval.lower / d.interval.denominator : ℚ) <
        d.interval.value / d.interval.denominator := by
      rw [lower, value, magnitude]
      exact mul_lt_mul_of_pos_right (by linarith [(reach_bounds d).1]) step
    rw [div_lt_div_iff_of_pos_right scale] at less
    exact_mod_cast less
  · have less : (d.interval.value / d.interval.denominator : ℚ) <
        d.interval.upper / d.interval.denominator := by
      rw [upper, value, magnitude]
      exact mul_lt_mul_of_pos_right (by linarith) step
    rw [div_lt_div_iff_of_pos_right scale] at less
    exact_mod_cast less

/-- The interval of a number holds what the number covers. -/
theorem holds_iff (positive : 0 < d.mantissa) (x : ℚ) : d.interval.Holds x ↔ d.Covers x := by
  unfold Interval.Holds
  rw [interval_lower positive, interval_upper]
  have parity : d.interval.closed = true ↔ d.mantissa % 2 = 0 := beq_iff_eq
  rcases Nat.mod_two_eq_zero_or_one d.mantissa with even | odd
  · rw [if_pos (parity.mpr even)]
    exact ⟨fun held => ⟨held.1, held.2, fun odd => by omega⟩, fun held => ⟨held.lower, held.upper⟩⟩
  · rw [if_neg (mt parity.mp (by omega))]
    exact ⟨fun held => ⟨held.1.le, held.2.le, fun _ => held⟩, fun held => held.inside odd⟩

end Interval

/-- The zeros at the end of a decimal are worth nothing. -/
theorem trimmed_worth (fuel : Nat) (decimal : Decimal) :
    (Decimal.trimmed fuel decimal).worth = decimal.worth := by
  induction fuel generalizing decimal with
  | zero => rfl
  | succ fuel ih =>
      unfold Decimal.trimmed
      split_ifs with zeros
      · have split : decimal.digits = decimal.digits / 10 * 10 := by omega
        have cast : (decimal.digits : ℚ) = (decimal.digits / 10 : Nat) * 10 := by
          exact_mod_cast split
        rw [ih, Decimal.worth, Decimal.worth, cast, zpow_add_one₀ (by norm_num), mul_assoc,
          mul_comm (10 : ℚ)]
      · rfl

/-- Trimming zeros makes the digits no greater. -/
theorem trimmed_le (fuel : Nat) (decimal : Decimal) :
    (Decimal.trimmed fuel decimal).digits ≤ decimal.digits := by
  induction fuel generalizing decimal with
  | zero => exact le_rfl
  | succ fuel ih =>
      unfold Decimal.trimmed
      split_ifs
      · exact (ih _).trans (Nat.div_le_self _ _)
      · exact le_rfl

/-- A power of ten is trimmed to one digit. -/
theorem trimmed_ten {fuel places : Nat} (enough : places ≤ fuel) (exponent : Int) :
    (Decimal.trimmed fuel ⟨10 ^ places, exponent⟩).digits = 1 := by
  induction places generalizing fuel exponent with
  | zero =>
      cases fuel with
      | zero => rfl
      | succ fuel => rfl
  | succ places ih =>
      obtain ⟨fuel, rfl⟩ := Nat.exists_eq_add_of_le' enough
      have some : 10 ^ (places + 1) ≠ 0 ∧ 10 ^ (places + 1) % 10 = 0 := by
        refine ⟨pow_ne_zero _ (by norm_num), ?_⟩
        rw [Nat.pow_succ, Nat.mul_mod_left]
      have shorter : 10 ^ (places + 1) / 10 = 10 ^ places := by
        rw [Nat.pow_succ, Nat.mul_div_cancel _ (by norm_num)]
      rw [← Nat.add_assoc, Decimal.trimmed, if_pos some, shorter]
      exact ih (Nat.le_add_left _ _) _

/-- The first of the numbers below a bound at which something is found. -/
theorem findSome?_range {α : Type} {f : Nat → Option α} {bound k : Nat} (below : k < bound)
    (found : (f k).isSome = true) :
    ∃ j x, j ≤ k ∧ f j = some x ∧ (∀ i < j, f i = none) ∧
      (List.range bound).findSome? f = some x := by
  have any : ∃ j, (f j).isSome = true := ⟨k, found⟩
  obtain ⟨x, same⟩ := Option.isSome_iff_exists.mp (Nat.find_spec any)
  have before : ∀ i < Nat.find any, f i = none := fun i less => by
    simpa using Nat.find_min any less
  have first : Nat.find any ≤ k := Nat.find_min' any found
  refine ⟨Nat.find any, x, first, same, before, List.findSome?_eq_some_iff.mpr ?_⟩
  obtain ⟨rest, rfl⟩ := Nat.exists_eq_add_of_lt (first.trans_lt below)
  refine ⟨List.range (Nat.find any), Nat.find any,
    (List.range rest).map (Nat.find any + 1 + ·), ?_, same, ?_⟩
  · rw [Nat.add_right_comm, List.range_add, List.range_succ, List.append_assoc]
    rfl
  · intro i member
    exact before i (List.mem_range.mp member)

/-- Two points of a grid that are less than a step apart are the same. -/
theorem eq_of_grid {step : ℚ} {m n : Nat} (low : (m * step : ℚ) < n * step + step)
    (high : (n * step : ℚ) < m * step + step) : m = n := by
  have positive : 0 < step := by linarith
  have less : (m : ℚ) < n + 1 := by nlinarith
  have more : (n : ℚ) < m + 1 := by nlinarith
  have less' : m < n + 1 := by exact_mod_cast less
  have more' : n < m + 1 := by exact_mod_cast more
  omega

/-- A decimal on a finer grid. -/
theorem refine_grid (digits : Nat) {fine coarse : Int} (finer : fine ≤ coarse) :
    ∃ more : Nat, (digits * 10 ^ coarse : ℚ) = more * 10 ^ fine := by
  obtain ⟨extra, rfl⟩ := Int.le.dest finer
  refine ⟨digits * 10 ^ extra, ?_⟩
  rw [zpow_add₀ (by norm_num), zpow_natCast]
  push_cast
  ring

/-- What a double covers is at most a step wide. -/
theorem Covers.apart {d : Double} {x y : ℚ} (left : d.Covers x) (right : d.Covers y) :
    x ≤ y + 2 ^ d.exponent := by
  have upper := left.upper
  have lower := right.lower
  have wide := mul_le_mul_of_nonneg_right (reach_bounds d).2 (two_zpow_pos d.exponent).le
  linarith

/-- The power of ten of the leading digit. -/
def leading (d : Double) : Int := decimalMagnitude d.interval.value d.interval.denominator

section Shortest

variable {d : Double} (regular : d.Regular) (positive : 0 < d.mantissa)
include regular positive

/-- The magnitude of a double that is not zero lies between the powers of two of its format. -/
theorem magnitude_bounds :
    (2 : ℚ) ^ (-1074 : Int) ≤ d.magnitude ∧ d.magnitude < 2 ^ (1024 : Int) := by
  have some : (1 : ℚ) ≤ d.mantissa := by exact_mod_cast positive
  have less : (d.mantissa : ℚ) < 2 ^ 53 := by exact_mod_cast regular.mantissa_lt
  have step := two_zpow_pos d.exponent
  have least : (2 : ℚ) ^ (-1074 : Int) ≤ 2 ^ d.exponent := two_zpow_le regular.least_le
  have greatest : (2 : ℚ) ^ d.exponent ≤ 2 ^ (971 : Int) := two_zpow_le regular.le_greatest
  constructor
  · rw [magnitude]
    nlinarith
  · calc d.magnitude < 2 ^ 53 * 2 ^ d.exponent := mul_lt_mul_of_pos_right less step
      _ ≤ 2 ^ 53 * 2 ^ (971 : Int) := by gcongr
      _ = 2 ^ (1024 : Int) := (two_zpow_add 971 53).symm

/-- The leading digit stands for the greatest power of ten that is not above the magnitude. -/
theorem leading_bounds :
    (10 : ℚ) ^ d.leading ≤ d.magnitude ∧ d.magnitude < 10 ^ (d.leading + 1) := by
  have denominator := (interval_proper positive).positive
  have value : 0 < d.interval.value := Nat.zero_lt_of_lt (interval_proper positive).above
  obtain ⟨lower, upper⟩ := ratio_bounds value denominator
  obtain ⟨least, less⟩ := magnitude_bounds regular positive
  rw [interval_value] at lower upper
  have low := (zpow_lt_zpow_iff_right₀ one_lt_two).mp (least.trans_lt upper)
  have high := (zpow_lt_zpow_iff_right₀ one_lt_two).mp (lower.trans less)
  have bounds := decimalMagnitude_bounds value denominator (by omega) (by omega)
  rwa [interval_value] at bounds

/-- A decimal that a double covers, with some digits behind the leading one and at most one before
it, such that the double covers no decimal with fewer of them. -/
structure Least (d : Double) (extra digits : Nat) : Prop where
  covered : d.Covers (digits * 10 ^ (d.leading - extra))
  few : digits ≤ 10 ^ (extra + 1)
  coarsest : ∀ fewer < extra, ∀ other : Nat, ¬ d.Covers (other * 10 ^ (d.leading - fewer))

/-- A decimal that is found has no more digits than its power of ten allows. -/
theorem few_digits {extra digits : Nat}
    (point : d.interval.gridPoint? (d.leading - extra) = some digits) :
    digits ≤ 10 ^ (extra + 1) := by
  have step := ten_zpow_pos (d.leading - extra)
  have upper := Interval.gridPoint?_le (interval_proper positive) point
  have magnified := (leading_bounds regular positive).2
  have split : (10 : ℚ) ^ (d.leading + 1) = 10 ^ (extra + 1) * 10 ^ (d.leading - extra) := by
    rw [← zpow_natCast, ← zpow_add₀ (by norm_num)]
    congr 1
    push_cast
    omega
  rw [interval_value] at upper
  have less : (digits * 10 ^ (d.leading - extra) : ℚ) <
      ((10 : ℚ) ^ (extra + 1) + 1) * 10 ^ (d.leading - extra) := by
    rw [add_mul, one_mul, ← split]
    linarith
  have cast : (digits : ℚ) < (10 ^ (extra + 1) + 1 : Nat) := by
    push_cast
    exact lt_of_mul_lt_mul_right less step.le
  exact Nat.lt_succ_iff.mp (by exact_mod_cast cast)

/-- What is found if there is a decimal with some digits behind the leading one. -/
theorem shortest_of_grid {most : Nat} (bounded : most < 17)
    (found : (d.interval.gridPoint? (d.leading - most)).isSome = true) :
    ∃ extra digits, extra ≤ most ∧ Least d extra digits ∧
      d.shortest = Decimal.trimmed 18 ⟨digits, d.leading - extra⟩ := by
  have proper := interval_proper positive
  obtain ⟨extra, decimal, least, first, before, all⟩ := findSome?_range
    (f := fun extra : Nat => (d.interval.gridPoint? (d.leading - extra)).map fun digits =>
      (⟨digits, d.leading - extra⟩ : Decimal)) bounded (by rw [Option.isSome_map]; exact found)
  obtain ⟨digits, point, rfl⟩ := Option.map_eq_some_iff.mp first
  refine ⟨extra, digits, least, ⟨?_, few_digits regular positive point, ?_⟩, ?_⟩
  · rw [← holds_iff positive]
    exact Interval.gridPoint?_holds proper point
  · intro fewer less other covered
    have some := Interval.gridPoint?_isSome proper ((holds_iff positive _).mpr covered)
    have none := before fewer less
    rw [Option.map_eq_none_iff] at none
    rw [none] at some
    cases some
  · rw [shortest, isZero_of_ne positive.ne']
    simp only [Bool.false_eq_true, if_false]
    rw [leading] at all
    rw [all]
    rfl

/-- **Seventeen digits suffice.** -/
theorem shortest_least : ∃ extra digits, extra ≤ 16 ∧ Least d extra digits ∧
    d.shortest = Decimal.trimmed 18 ⟨digits, d.leading - extra⟩ := by
  have proper := interval_proper positive
  obtain ⟨least, _⟩ := leading_bounds regular positive
  have step := two_zpow_pos d.exponent
  have less : (d.mantissa : ℚ) < 2 ^ 53 := by exact_mod_cast regular.mantissa_lt
  -- The interval is at least three quarters of a step wide, and the magnitude has 53 bits.
  have fine : (d.interval.lower / d.interval.denominator : ℚ) + 10 ^ (d.leading - (16 : Nat)) <
      d.interval.upper / d.interval.denominator := by
    have narrow : (d.mantissa : ℚ) < (d.reach + 1 / 2) * 10 ^ 16 := by
      unfold reach
      split_ifs with power
      · rw [power.1]
        norm_num [twoTo]
      · linarith
    rw [interval_lower positive, interval_upper, zpow_sub₀ (by norm_num), zpow_natCast]
    rw [magnitude] at least
    have scaled : (10 : ℚ) ^ d.leading / 10 ^ 16 < (d.reach + 1 / 2) * 2 ^ d.exponent := by
      rw [div_lt_iff₀ (by norm_num)]
      calc (10 : ℚ) ^ d.leading ≤ d.mantissa * 2 ^ d.exponent := least
        _ < (d.reach + 1 / 2) * 10 ^ 16 * 2 ^ d.exponent := mul_lt_mul_of_pos_right narrow step
        _ = (d.reach + 1 / 2) * 2 ^ d.exponent * 10 ^ 16 := by ring
    linarith
  exact shortest_of_grid regular positive (by norm_num) (Interval.gridPoint?_fine proper fine)

/-- **The shortest decimal reads back**: the double covers it. -/
theorem shortest_covered : d.Covers d.shortest.worth := by
  obtain ⟨extra, digits, _, least, same⟩ := shortest_least regular positive
  rw [same, trimmed_worth]
  exact least.covered

omit regular in
/-- What a double covers is not much less than its magnitude. -/
theorem covers_tenth {x : ℚ} (covered : d.Covers x) : d.magnitude / 10 ≤ x := by
  have some : (1 : ℚ) ≤ d.mantissa := by exact_mod_cast positive
  have step := two_zpow_pos d.exponent
  have wide := (reach_bounds d).2
  rw [magnitude]
  have lower := covered.lower
  nlinarith

omit regular in
/-- What a double that is not zero covers is positive. -/
theorem covers_pos {x : ℚ} (covered : d.Covers x) : 0 < x := by
  have some : (0 : ℚ) < d.mantissa := by exact_mod_cast positive
  have worth : 0 < d.magnitude := mul_pos some (two_zpow_pos _)
  linarith [covers_tenth positive covered]

/-- The step of a normal double is smaller than the last digit of a decimal of fifteen digits. -/
theorem step_lt {digits : Nat} {power : Int} (normal : 2 ^ 52 ≤ d.mantissa)
    (few : digits < 10 ^ 15) (covered : d.Covers (digits * 10 ^ power)) :
    (2 : ℚ) ^ d.exponent < 10 ^ min power d.leading := by
  have step := two_zpow_pos d.exponent
  have normal' : (2 ^ 52 : ℚ) ≤ d.mantissa := by exact_mod_cast normal
  have few' : (digits : ℚ) < 10 ^ 15 := by exact_mod_cast few
  obtain ⟨_, magnified⟩ := leading_bounds regular positive
  rcases min_choice power d.leading with own | leading <;> rw [‹min _ _ = _›]
  · have ten := ten_zpow_pos power
    have lower := covered.lower
    have wide := mul_le_mul_of_nonneg_right (reach_bounds d).2 step.le
    nlinarith
  · have ten := ten_zpow_pos d.leading
    rw [magnitude, zpow_add_one₀ (by norm_num)] at magnified
    nlinarith

/-- **Fifteen digits survive.** A decimal of at most fifteen digits that a normal double covers is
the shortest one. -/
theorem shortest_eq (normal : 2 ^ 52 ≤ d.mantissa) {digits : Nat} {power : Int}
    (few : digits < 10 ^ 15) (covered : d.Covers (digits * 10 ^ power)) :
    d.shortest.worth = digits * 10 ^ power := by
  have fine := step_lt regular positive normal few covered
  obtain ⟨least, _⟩ := leading_bounds regular positive
  obtain ⟨extra, split⟩ : ∃ extra : Nat, min power d.leading = d.leading - extra :=
    ⟨(d.leading - min power d.leading).toNat, by omega⟩
  obtain ⟨fewer, own⟩ := refine_grid digits (min_le_left power d.leading)
  have within : extra < 17 := by
    have ten : (0 : ℚ) < 10 ^ power := ten_zpow_pos power
    have few' : (digits : ℚ) < 10 ^ 15 := by exact_mod_cast few
    have less : (10 : ℚ) ^ (d.leading - 1) < 10 ^ ((15 : Nat) + power) :=
      calc (10 : ℚ) ^ (d.leading - 1) = 10 ^ d.leading / 10 := zpow_sub_one₀ (by norm_num) _
        _ ≤ d.magnitude / 10 := by linarith
        _ ≤ digits * 10 ^ power := covers_tenth positive covered
        _ < 10 ^ 15 * 10 ^ power := mul_lt_mul_of_pos_right few' ten
        _ = 10 ^ ((15 : Nat) + power) := by rw [zpow_add₀ (by norm_num), zpow_natCast]
    have near := (zpow_lt_zpow_iff_right₀ (by norm_num : (1 : ℚ) < 10)).mp less
    omega
  have found : (d.interval.gridPoint? (d.leading - extra)).isSome = true := by
    have held : d.interval.Holds (fewer * 10 ^ (d.leading - extra)) := by
      rw [holds_iff positive, ← split, ← own]
      exact covered
    exact Interval.gridPoint?_isSome (interval_proper positive) held
  -- What is found may lie on a coarser grid, so both are compared as points of the finer one.
  obtain ⟨fewest, least', finer, shortest, same⟩ := shortest_of_grid regular positive within found
  obtain ⟨more, other⟩ := refine_grid least' (by omega : d.leading - extra ≤ d.leading - fewest)
  rw [same, trimmed_worth, Decimal.worth, own, other, split]
  have left := shortest.covered.apart covered
  have right := covered.apart shortest.covered
  rw [own, other, split] at left right
  rw [split] at fine
  congr 2
  exact eq_of_grid (left.trans_lt (by linarith)) (right.trans_lt (by linarith))

omit regular in
/-- A double covers what lies between its magnitude and something that it covers. -/
theorem Covers.between {x y : ℚ} (covered : d.Covers x)
    (side : x ≤ y ∧ y ≤ d.magnitude ∨ d.magnitude ≤ y ∧ y ≤ x) : d.Covers y := by
  rw [← holds_iff positive] at covered ⊢
  rw [← interval_value] at side
  exact covered.between (interval_proper positive) side

/-- The shortest decimal has no more digits than any that reads back. -/
theorem Least.extra_lt {extra least : Nat} (shortest : Least d extra least) {digits length : Nat}
    {power : Int} (covered : d.Covers (digits * 10 ^ power)) (few : digits < 10 ^ length)
    (some : 0 < length) : extra < length := by
  obtain ⟨lower, upper⟩ := leading_bounds regular positive
  by_contra longer
  have none := shortest.coarsest 0 (by omega)
  rw [Nat.cast_zero, sub_zero] at none
  -- Beyond the digits in which the leading one stands there is a shorter decimal of one digit.
  rcases lt_or_ge (digits * 10 ^ power : ℚ) (10 ^ d.leading) with less | more
  · refine none 1 ?_
    rw [Nat.cast_one, one_mul]
    exact covered.between positive (.inl ⟨less.le, lower⟩)
  rcases lt_or_ge (digits * 10 ^ power : ℚ) (10 ^ (d.leading + 1)) with less | more'
  · have few' : (digits : ℚ) < 10 ^ length := by exact_mod_cast few
    have order : (10 : ℚ) ^ d.leading < 10 ^ ((length : Int) + power) := by
      rw [zpow_add₀ (by norm_num), zpow_natCast]
      exact more.trans_lt (mul_lt_mul_of_pos_right few' (ten_zpow_pos power))
    have near := (zpow_lt_zpow_iff_right₀ (by norm_num : (1 : ℚ) < 10)).mp order
    obtain ⟨other, own⟩ := refine_grid digits
      (by omega : d.leading - ((length - 1 : Nat) : Int) ≤ power)
    rw [own] at covered
    exact shortest.coarsest (length - 1) (by omega) other covered
  · refine none 10 ?_
    have next : ((10 : Nat) * 10 ^ d.leading : ℚ) = 10 ^ (d.leading + 1) := by
      rw [zpow_add_one₀ (by norm_num), mul_comm]
      rfl
    rw [next]
    exact covered.between positive (.inr ⟨upper.le, more'⟩)

/-- **The shortest decimal has the fewest digits** of those that read back. -/
theorem shortest_fewest {digits length : Nat} {power : Int}
    (covered : d.Covers (digits * 10 ^ power)) (few : digits < 10 ^ length) :
    d.shortest.digits < 10 ^ length := by
  obtain ⟨extra, least, within, shortest, same⟩ := shortest_least regular positive
  have some : 0 < length := by
    rw [Nat.pos_iff_ne_zero]
    rintro rfl
    have zero : digits = 0 := Nat.lt_one_iff.mp few
    have worth := covers_pos positive covered
    rw [zero, Nat.cast_zero, zero_mul] at worth
    exact lt_irrefl _ worth
  have shorter := shortest.extra_lt regular positive covered few some
  rw [same]
  rcases Nat.lt_or_ge least (10 ^ length) with below | above
  · exact (trimmed_le _ _).trans_lt below
  · have power : 10 ^ (extra + 1) ≤ 10 ^ length := Nat.pow_le_pow_right (by norm_num) shorter
    obtain rfl : least = 10 ^ (extra + 1) := le_antisymm shortest.few (power.trans above)
    rw [trimmed_ten (by omega)]
    exact Nat.one_lt_pow some.ne' (by norm_num)

end Shortest

/-- The shortest decimal has no digits but a zero only if no power of ten stands beside it. -/
theorem shortest_zero {d : Double} (zero : d.shortest.digits = 0) : d.shortest.exponent = 0 := by
  unfold shortest at zero ⊢
  split_ifs at zero ⊢ with none
  · rfl
  · have positive : 0 < d.mantissa := by
      rw [isZero, beq_iff_eq] at none
      exact Nat.pos_of_ne_zero none
    simp only at zero ⊢
    generalize found : List.findSome? _ _ = decimal at zero ⊢
    cases decimal with
    | none => rfl
    | some decimal =>
        obtain ⟨extra, _, first⟩ := List.exists_of_findSome?_eq_some found
        obtain ⟨digits, point, rfl⟩ := Option.map_eq_some_iff.mp first
        have held := Interval.gridPoint?_holds (interval_proper positive) point
        have worth := covers_pos positive ((holds_iff positive _).mp held)
        have kept := trimmed_worth 18 ⟨digits, d.leading - extra⟩
        rw [Decimal.worth] at kept
        refine absurd kept (ne_of_lt ?_)
        rw [leading]
        rw [Option.getD_some] at zero
        rw [zero, Nat.cast_zero, zero_mul]
        exact worth

end Double
end ClusterClient
