import ClusterClient.Proofs.Json.Carrying
import Mathlib.Algebra.Order.Floor.Semifield
import Mathlib.Data.Rat.Floor

/-! # How numbers compare

Numbers are compared as doubles (`ClusterClient.Numeral.held`). Whole numbers of 64 bits and
numerals of at most fifteen digits compare with small whole numbers as if they were exact, and
any other numeral agrees in fifteen digits with what it is compared as, unless it is too small for
a double with all 53 bits (`ClusterClient.Numeral.held_spec`).
-/

namespace ClusterClient

namespace Double

/-- What a number is worth. -/
def worth (d : Double) : ℚ := (if d.negative then -1 else 1) * d.magnitude

theorem magnitude_nonneg (d : Double) : 0 ≤ d.magnitude :=
  mul_nonneg (Nat.cast_nonneg _) (two_zpow_pos _).le

/-- A magnitude is zero only without any steps. -/
theorem magnitude_eq_zero_iff {d : Double} : d.magnitude = 0 ↔ d.mantissa = 0 := by
  rw [magnitude, mul_eq_zero, Nat.cast_eq_zero, or_iff_left (two_zpow_pos _).ne']

/-- The whole part is the magnitude rounded down. -/
theorem floorMagnitude_eq (d : Double) : d.floorMagnitude = ⌊d.magnitude⌋₊ := by
  rw [← fraction_ratio, Nat.floor_div_eq_div]
  rfl

/-- Comparing a double with a whole number compares what it is worth. -/
theorem atLeast_iff (d : Double) (bound : Nat) :
    d.atLeast bound = true ↔ (bound : ℚ) ≤ d.worth := by
  have floor : bound ≤ d.floorMagnitude ↔ (bound : ℚ) ≤ d.magnitude := by
    rw [floorMagnitude_eq, Nat.le_floor_iff d.magnitude_nonneg]
  unfold atLeast worth
  cases d.negative with
  | false => rw [if_neg Bool.false_ne_true, if_neg Bool.false_ne_true, one_mul, decide_eq_true_eq,
      floor]
  | true =>
      have least : (0 : ℚ) ≤ bound := Nat.cast_nonneg bound
      rw [if_pos rfl, if_pos rfl, Bool.and_eq_true, isZero, beq_iff_eq, beq_iff_eq,
        ← magnitude_eq_zero_iff, ← Nat.cast_eq_zero (R := ℚ)]
      constructor
      · rintro ⟨zero, none⟩
        rw [zero, none, mul_zero]
      · intro less
        have positive := d.magnitude_nonneg
        constructor <;> linarith

/-- A double is positive if it is worth more than zero; neither zero is. -/
theorem isPositive_iff (d : Double) : d.isPositive = true ↔ 0 < d.worth := by
  have some : d.mantissa ≠ 0 ↔ 0 < d.magnitude := by
    rw [ne_eq, ← magnitude_eq_zero_iff]
    exact d.magnitude_nonneg.lt_iff_ne'.symm
  unfold isPositive worth
  cases d.negative with
  | false =>
      rw [if_neg Bool.false_ne_true, one_mul, ← some, isZero]
      simp
  | true =>
      have positive := d.magnitude_nonneg
      rw [if_pos rfl, Bool.not_true, Bool.false_and]
      exact iff_of_false Bool.false_ne_true (by linarith)

/-- A positive double is cut to its whole part, and to the greatest word if that is too large. -/
theorem toUnsigned64_eq {d : Double} (positive : 0 < d.worth) :
    d.toUnsigned64 = min ⌊d.worth⌋₊ (2 ^ 64 - 1) := by
  have sign : d.negative = false := by
    by_contra negative
    rw [Bool.not_eq_false] at negative
    rw [worth, negative, if_pos rfl] at positive
    linarith [d.magnitude_nonneg]
  have own : d.worth = d.magnitude := by
    rw [worth, sign, if_neg Bool.false_ne_true, one_mul]
  rw [toUnsigned64, sign, if_neg Bool.false_ne_true, floorMagnitude_eq, own]
  rfl

/-- Magnitudes that are on the same side of every small whole number. -/
structure Level (x y : ℚ) : Prop where
  zero : x = 0 ↔ y = 0
  bound : ∀ bound : Nat, bound ≤ 10 ^ 15 → ((bound : ℚ) ≤ x ↔ (bound : ℚ) ≤ y)

/-- At most fifteen digits that are less than a small whole number are less by more than a
rounding. -/
theorem rounding_lt_of_lt {digits bound : Nat} {scale : Int} (few : digits < 10 ^ 15)
    (small : bound ≤ 10 ^ 15) (less : (digits * 10 ^ scale : ℚ) < bound) :
    roundingFactor * (digits * 10 ^ scale) < bound := by
  have few' : (digits : ℚ) < 10 ^ 15 := by exact_mod_cast few
  have small' : (bound : ℚ) ≤ 10 ^ 15 := by exact_mod_cast small
  rw [roundingFactor]
  rcases le_or_gt 0 scale with up | down
  · obtain ⟨power, rfl⟩ := Int.eq_ofNat_of_zero_le up
    rw [zpow_natCast] at less ⊢
    have next : digits * 10 ^ power + 1 ≤ bound := by exact_mod_cast less
    have next' : (digits * 10 ^ power + 1 : ℚ) ≤ bound := by exact_mod_cast next
    linarith
  · obtain ⟨power, rfl⟩ : ∃ power : Nat, scale = -(power : Int) := ⟨(-scale).toNat, by omega⟩
    have unit : (0 : ℚ) < 10 ^ power := pow_pos (by norm_num) power
    rw [zpow_neg, zpow_natCast, ← div_eq_mul_inv] at less ⊢
    rw [div_lt_iff₀ unit] at less
    have next : digits + 1 ≤ bound * 10 ^ power := by exact_mod_cast less
    have next' : (digits + 1 : ℚ) ≤ bound * 10 ^ power := by exact_mod_cast next
    rw [← mul_div_assoc, div_lt_iff₀ unit]
    linarith

/-- Doubles with all 53 bits are less than a small whole number by a step at least. -/
theorem succ_le_of_lt {d : Double} {bound : Nat} (normal : 2 ^ 52 ≤ d.mantissa)
    (small : bound ≤ 10 ^ 15) (less : d.magnitude < bound) :
    (d.mantissa + 1 : ℚ) * 2 ^ d.exponent ≤ bound := by
  have full : (2 ^ 52 : ℚ) ≤ d.mantissa := by exact_mod_cast normal
  have small' : (bound : ℚ) ≤ 10 ^ 15 := by exact_mod_cast small
  have fine : d.exponent < 0 := by
    by_contra coarse
    have step : (1 : ℚ) ≤ 2 ^ d.exponent := one_le_zpow₀ one_le_two (not_lt.mp coarse)
    have wide : (2 ^ 52 * 1 : ℚ) ≤ d.magnitude :=
      mul_le_mul full step zero_le_one (Nat.cast_nonneg _)
    linarith
  obtain ⟨power, exponent⟩ : ∃ power : Nat, d.exponent = -(power : Int) :=
    ⟨(-d.exponent).toNat, by omega⟩
  have unit : (0 : ℚ) < 2 ^ power := pow_pos two_pos power
  rw [magnitude, exponent, zpow_neg, zpow_natCast, ← div_eq_mul_inv, div_lt_iff₀ unit] at less
  rw [exponent, zpow_neg, zpow_natCast, ← div_eq_mul_inv, div_le_iff₀ unit]
  have next : d.mantissa + 1 ≤ bound * 2 ^ power := by exact_mod_cast less
  exact_mod_cast next

/-- A double that covers at most fifteen digits is on the same side as they are. -/
theorem Covers.level {d : Double} {digits : Nat} {scale : Int} (few : digits < 10 ^ 15)
    (covered : d.Covers (digits * 10 ^ scale)) (normal : 2 ^ 52 ≤ d.mantissa) :
    Level d.magnitude (digits * 10 ^ scale) := by
  have near := covered.nearby normal
  refine ⟨iff_of_false near.left.ne' near.right.ne', ?_⟩
  intro bound small
  constructor
  · intro least
    by_contra less
    have rounded := rounding_lt_of_lt few small (not_le.mp less)
    have upper := near.le
    rw [pow_one] at upper
    linarith
  · intro least
    by_contra less
    have next := succ_le_of_lt normal small (not_le.mp less)
    have step := two_zpow_pos d.exponent
    have upper := covered.upper
    linarith

/-- A whole number of 64 bits is on the same side as its double. -/
theorem ofNat_level {n : Nat} (fits : n < 2 ^ 64) :
    (ofNat n).Regular ∧ Level (ofNat n).magnitude n ∧
      (2 ^ 52 ≤ (ofNat n).mantissa → Nearby 1 (ofNat n).magnitude n) := by
  rcases Nat.eq_zero_or_pos n with rfl | some
  · have zero : (ofNat 0).magnitude = (0 : Nat) := (magnitude_zero rfl).trans Nat.cast_zero.symm
    refine ⟨(zero_covers false).1, ?_, fun normal => absurd normal (by decide)⟩
    rw [zero]
    exact ⟨Iff.rfl, fun _ _ => Iff.rfl⟩
  · obtain ⟨regular, near⟩ := Numeral.ofNat_digits some fits
    refine ⟨regular, ⟨iff_of_false near.left.ne' near.right.ne', ?_⟩, fun _ => near⟩
    intro bound small
    rcases Nat.lt_or_ge n (2 ^ 53) with few | many
    · rw [ofNat_exact few (Nat.zero_le 971) (Nat.mul_one n).symm]
    · -- Both are beyond every small whole number.
      have small' : (bound : ℚ) ≤ 10 ^ 15 := by exact_mod_cast small
      have many' : (2 ^ 53 : ℚ) ≤ n := by exact_mod_cast many
      have upper := near.ge
      rw [pow_one, roundingFactor] at upper
      exact iff_of_true (by linarith) (by linarith)

end Double

/-- What a number is compared as. -/
def JsonNumber.worth (value : JsonNumber) : ℚ := value.toDouble.worth

namespace Numeral

/-- What a numeral is compared as. -/
def held (n : Numeral) : ℚ := Doc.readWorth JsonNumber.worth n

/-- What a numeral is compared as: a double with its sign. This is on the same side of zero and of
every small whole number as the numeral if that is a whole number of 64 bits or short, and it agrees
with the numeral in fifteen digits if it has all 53 bits. -/
structure Held (n : Numeral) (x : ℚ) : Prop where
  compared : n.Whole ∨ n.Short → (0 < x ↔ 0 < n.exact) ∧
    ∀ bound : Nat, bound ≤ 10 ^ 15 → ((bound : ℚ) ≤ x ↔ (bound : ℚ) ≤ n.exact)
  rounded : ∃ d : Double, d.Regular ∧ x = n.sign * d.magnitude ∧
    (2 ^ 52 ≤ d.mantissa → |x - n.exact| ≤ |n.exact| / 10 ^ 15)

variable {n : Numeral}

/-- Magnitudes on the same side stay there behind a sign. -/
theorem compared_of_level {x : ℚ} (positive : 0 ≤ x)
    (level : Double.Level x (digitsValue n.digits * 10 ^ n.scale)) :
    (0 < n.sign * x ↔ 0 < n.exact) ∧
      ∀ bound : Nat, bound ≤ 10 ^ 15 → ((bound : ℚ) ≤ n.sign * x ↔ (bound : ℚ) ≤ n.exact) := by
  have positive' : (0 : ℚ) ≤ digitsValue n.digits * 10 ^ n.scale :=
    mul_nonneg (Nat.cast_nonneg _) (ten_zpow_pos _).le
  rw [exact, sign]
  cases n.negative with
  | false =>
      rw [if_neg Bool.false_ne_true, one_mul, one_mul, positive.lt_iff_ne', positive'.lt_iff_ne']
      exact ⟨not_congr level.zero, level.bound⟩
  | true =>
      rw [if_pos rfl]
      refine ⟨iff_of_false (by linarith) (by linarith), ?_⟩
      intro bound small
      have least : (0 : ℚ) ≤ bound := Nat.cast_nonneg bound
      constructor
      · intro less
        have zero := level.zero.mp (by linarith)
        linarith
      · intro less
        have zero := level.zero.mpr (by linarith)
        linarith

/-- A zero is on the same side of every whole number as the double zero. -/
theorem level_zero {d : Double} (zero : digitsValue n.digits = 0) (none : d.mantissa = 0) :
    Double.Level d.magnitude (digitsValue n.digits * 10 ^ n.scale) := by
  rw [zero, Nat.cast_zero, zero_mul, Double.magnitude_zero none]
  exact ⟨Iff.rfl, fun _ _ => Iff.rfl⟩

/-- Numerals that are doubles compare as they are. -/
theorem held_double (spelled : ∀ c ∈ n.digits, c.isDigit = true) {d : Double}
    (other : n.Whole → n.negative = true ∧ n.integer = 0) (found : n.double? = some d) :
    n.Held (n.sign * d.magnitude) where
  compared := by
    intro exactly
    apply compared_of_level d.magnitude_nonneg
    by_cases zero : digitsValue n.digits = 0
    · exact level_zero zero (double?_zero zero found)
    · have short : n.Short :=
        exactly.resolve_left fun whole => zero (digitsValue_of_integer whole (other whole).2)
      obtain ⟨few, low, high⟩ := short.resolve_left zero
      obtain ⟨d', same, regular, covered, normal⟩ := double?_covers zero few low high
      cases found.symm.trans same
      have level : Double.Level d'.magnitude _ := covered.level few normal
      exact level
  rounded := by
    refine ⟨d, (double?_regular found).1, rfl, ?_⟩
    intro normal
    exact error_of_nearby ((double?_nearby spelled found normal).mono (by norm_num))

theorem ofNat_negative (m : Nat) : (Double.ofNat m).negative = false := by
  unfold Double.ofNat
  cases found : Double.nearest? false m 1 with
  | none => rfl
  | some d => exact (Double.nearest?_covers one_pos found).1

/-- Whole numbers that fit 64 bits are compared as the nearest doubles. -/
theorem worth_integer (signed : n.negative = true → n.integer ≠ 0) :
    (JsonNumber.whole n.integer).worth =
      n.sign * (Double.ofNat (digitsValue n.whole)).magnitude := by
  unfold integer sign at *
  rw [JsonNumber.worth, JsonNumber.toDouble]
  cases negative : n.negative with
  | false =>
      rw [if_neg Bool.false_ne_true, if_neg Bool.false_ne_true]
      have own : Double.ofInt (digitsValue n.whole : Int) =
          Double.ofNat (digitsValue n.whole) := rfl
      rw [own, Double.worth, ofNat_negative, if_neg Bool.false_ne_true]
  | true =>
      rw [negative, if_pos rfl] at signed
      obtain ⟨k, same⟩ : ∃ k, digitsValue n.whole = k + 1 :=
        Nat.exists_eq_succ_of_ne_zero fun zero => signed rfl (by rw [zero]; rfl)
      rw [same, if_pos rfl, if_pos rfl]
      rfl

/-- A whole numeral in range is worth its digits. -/
theorem exact_whole (whole : n.Whole) :
    digitsValue n.whole < 2 ^ 64 ∧
      (digitsValue n.digits * 10 ^ n.scale : ℚ) = digitsValue n.whole := by
  have digits : n.digits = n.whole := by
    rw [Numeral.digits, whole.1, Option.getD_none, List.append_nil]
  have scale : n.scale = 0 := by
    rw [Numeral.scale, exponentValue, whole.1, whole.2.1]
    rfl
  refine ⟨?_, by rw [digits, scale, zpow_zero, mul_one]⟩
  obtain ⟨_, _, low, high⟩ := whole
  unfold integer at low high
  split_ifs at low high <;> omega

/-- Whole numbers of 64 bits compare as they are. -/
theorem held_whole (whole : n.Whole) (signed : n.negative = true → n.integer ≠ 0) :
    n.Held (JsonNumber.whole n.integer).worth := by
  obtain ⟨fits, worth⟩ := exact_whole whole
  obtain ⟨regular, level, near⟩ := Double.ofNat_level fits
  rw [← worth] at level near
  rw [worth_integer signed]
  refine ⟨fun _ => compared_of_level (Double.magnitude_nonneg _) level, _, regular, rfl, ?_⟩
  intro normal
  exact error_of_nearby ((near normal).mono (by norm_num))

/-- **What a numeral is compared as.** -/
theorem held_spec {cs : List Char} (spelled : n.Spelled cs) {value : JsonNumber}
    (read : n.value? = some value) : n.Held n.held := by
  have same : n.held = value.worth := by
    rw [held, Doc.readWorth, read]
    rfl
  rw [same]
  by_cases kept : n.Whole ∧ (n.negative = true → n.integer ≠ 0)
  · rw [value?_whole kept.1 kept.2] at read
    cases read
    exact held_whole kept.1 kept.2
  · have other : n.Whole → n.negative = true ∧ n.integer = 0 := by
      intro whole
      by_contra signed
      exact kept ⟨whole, fun minus zero => signed ⟨minus, zero⟩⟩
    rw [value?_double other] at read
    obtain ⟨d, found, rfl⟩ := Option.map_eq_some_iff.mp read
    have signed : (JsonNumber.double d).worth = n.sign * d.magnitude := by
      rw [sign, ← double?_negative found]
      rfl
    rw [signed]
    exact held_double spelled.digits other found

end Numeral
end ClusterClient
