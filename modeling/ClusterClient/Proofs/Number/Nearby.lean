import ClusterClient.Proofs.Number.Shortest

/-! # How far roundings lead away

Two positive numbers are a number of roundings apart (`ClusterClient.Nearby`) if neither exceeds the
other by more than the factor of so many roundings. Products and quotients add up what their parts
are apart, and a double with all 53 bits is one rounding apart from what it covers
(`ClusterClient.Double.Covers.nearby`).
-/

namespace ClusterClient

/-- A factor that is a little greater than that of rounding to 53 bits. -/
def roundingFactor : ℚ := 1 + 1 / (8 * 10 ^ 15)

theorem one_le_roundingFactor : 1 ≤ roundingFactor := by
  norm_num [roundingFactor]

/-- Positive numbers that are at most so many roundings apart. -/
structure Nearby (steps : Nat) (x y : ℚ) : Prop where
  left : 0 < x
  right : 0 < y
  le : x ≤ roundingFactor ^ steps * y
  ge : y ≤ roundingFactor ^ steps * x

namespace Nearby

variable {m n : Nat} {x y z w : ℚ}

theorem factor_pos (steps : Nat) : 0 < roundingFactor ^ steps :=
  pow_pos (one_pos.trans_le one_le_roundingFactor) steps

/-- A number is at no distance from itself. -/
theorem refl (positive : 0 < x) : Nearby 0 x x where
  left := positive
  right := positive
  le := by rw [pow_zero, one_mul]
  ge := by rw [pow_zero, one_mul]

/-- The distance is the same both ways. -/
theorem symm (near : Nearby m x y) : Nearby m y x := ⟨near.right, near.left, near.ge, near.le⟩

/-- What is within some roundings is within more. -/
theorem mono (near : Nearby m x y) (more : m ≤ n) : Nearby n x y where
  left := near.left
  right := near.right
  le := near.le.trans (mul_le_mul_of_nonneg_right
    (pow_le_pow_right₀ one_le_roundingFactor more) near.right.le)
  ge := near.ge.trans (mul_le_mul_of_nonneg_right
    (pow_le_pow_right₀ one_le_roundingFactor more) near.left.le)

/-- Distances add up. -/
theorem trans (first : Nearby m x y) (second : Nearby n y z) : Nearby (m + n) x z where
  left := first.left
  right := second.right
  le := by
    rw [pow_add, mul_assoc]
    exact first.le.trans (mul_le_mul_of_nonneg_left second.le (factor_pos m).le)
  ge := by
    rw [Nat.add_comm, pow_add, mul_assoc]
    exact second.ge.trans (mul_le_mul_of_nonneg_left first.ge (factor_pos n).le)

/-- The distances of the factors add up in a product. -/
theorem mul (first : Nearby m x y) (second : Nearby n z w) : Nearby (m + n) (x * z) (y * w) where
  left := mul_pos first.left second.left
  right := mul_pos first.right second.right
  le := by
    rw [pow_add, mul_mul_mul_comm]
    exact mul_le_mul first.le second.le second.left.le
      (mul_pos (factor_pos m) first.right).le
  ge := by
    rw [pow_add, mul_mul_mul_comm]
    exact mul_le_mul first.ge second.ge second.right.le
      (mul_pos (factor_pos m) first.left).le

/-- An inverse is as near as the number. -/
theorem inv (near : Nearby m x y) : Nearby m x⁻¹ y⁻¹ where
  left := inv_pos.mpr near.left
  right := inv_pos.mpr near.right
  le := by
    rw [← div_eq_mul_inv, le_div_iff₀ near.right, inv_mul_le_iff₀ near.left, mul_comm]
    exact near.ge
  ge := by
    rw [← div_eq_mul_inv, le_div_iff₀ near.left, inv_mul_le_iff₀ near.right, mul_comm]
    exact near.le

/-- Distances add up in a quotient as well. -/
theorem div (first : Nearby m x y) (second : Nearby n z w) :
    Nearby (m + n) (x / z) (y / w) := by
  rw [div_eq_mul_inv, div_eq_mul_inv]
  exact first.mul second.inv

/-- Numbers that are seven roundings apart agree in fifteen digits. -/
theorem error (near : Nearby 7 x y) : |x - y| ≤ y / 10 ^ 15 := by
  have upper : roundingFactor ^ 7 ≤ 1 + 1 / 10 ^ 15 := by norm_num [roundingFactor]
  have lower : (1 - 1 / 10 ^ 15) * roundingFactor ^ 7 ≤ 1 := by norm_num [roundingFactor]
  have above : x ≤ (1 + 1 / 10 ^ 15) * y :=
    near.le.trans (mul_le_mul_of_nonneg_right upper near.right.le)
  have under : (1 - 1 / 10 ^ 15) * y ≤ x :=
    calc (1 - 1 / 10 ^ 15) * y ≤ (1 - 1 / 10 ^ 15) * (roundingFactor ^ 7 * x) :=
          mul_le_mul_of_nonneg_left near.ge (by norm_num)
      _ = (1 - 1 / 10 ^ 15) * roundingFactor ^ 7 * x := (mul_assoc _ _ _).symm
      _ ≤ 1 * x := mul_le_mul_of_nonneg_right lower near.left.le
      _ = x := one_mul x
  rw [abs_le]
  constructor <;> linarith

end Nearby

namespace Double

variable {a b d : Double}

/-- A double with all 53 bits is one rounding apart from what it covers. -/
theorem Covers.nearby {x : ℚ} (normal : 2 ^ 52 ≤ d.mantissa) (covered : d.Covers x) :
    Nearby 1 d.magnitude x := by
  have step := two_zpow_pos d.exponent
  have some : (2 ^ 52 : ℚ) ≤ d.mantissa := by exact_mod_cast normal
  have positive : 0 < d.magnitude := mul_pos (lt_of_lt_of_le (by norm_num) some) step
  have wide := mul_le_mul_of_nonneg_right (reach_bounds d).2 step.le
  have lower : d.magnitude - 1 / 2 * 2 ^ d.exponent ≤ x := by
    rw [magnitude]
    linarith [covered.lower]
  have upper : x ≤ d.magnitude + 1 / 2 * 2 ^ d.exponent := by
    rw [magnitude]
    linarith [covered.upper]
  have small : 2 ^ 52 * 2 ^ d.exponent ≤ d.magnitude := mul_le_mul_of_nonneg_right some step.le
  refine ⟨positive, ?_, ?_, ?_⟩
  · linarith
  · rw [pow_one, roundingFactor]
    linarith
  · rw [pow_one, roundingFactor]
    linarith

/-- A product is one rounding apart from that of the magnitudes. -/
theorem mul?_nearby (found : a.mul? b = some d) (normal : 2 ^ 52 ≤ d.mantissa) :
    Nearby 1 d.magnitude (a.magnitude * b.magnitude) := by
  obtain ⟨num, den, under, worth, same⟩ := mul?_eq a b
  rw [same] at found
  rw [← worth]
  exact (nearest?_covers under found).2.2.nearby normal

/-- A quotient covers the exact one. -/
theorem div?_covers (found : a.div? b = some d) :
    d.Regular ∧ d.Covers (a.magnitude / b.magnitude) := by
  by_cases zero : b.mantissa = 0
  · rw [div?, if_pos zero] at found
    cases found
  · obtain ⟨num, den, under, worth, same⟩ := div?_eq a zero
    rw [same] at found
    rw [← worth]
    exact (nearest?_covers under found).2

/-- A quotient is one rounding apart from that of the magnitudes. -/
theorem div?_nearby (found : a.div? b = some d) (normal : 2 ^ 52 ≤ d.mantissa) :
    Nearby 1 d.magnitude (a.magnitude / b.magnitude) :=
  (div?_covers found).2.nearby normal

/-- Doubles that cover no less than one with all 53 bits have all of them too. -/
theorem normal_of_le {x : ℚ} (normal : 2 ^ 52 ≤ d.mantissa) (regular : d.Regular)
    (covered : d.Covers x) (other : a.Regular) (less : x ≤ a.magnitude) : 2 ^ 52 ≤ a.mantissa := by
  by_contra small
  have least := other.exponent_eq (not_le.mp small)
  have step := two_zpow_pos leastExponent
  have few : (a.mantissa : ℚ) + 1 ≤ 2 ^ 52 := by exact_mod_cast not_le.mp small
  have some : (2 ^ 52 : ℚ) ≤ d.mantissa := by exact_mod_cast normal
  have finer : (2 : ℚ) ^ leastExponent ≤ 2 ^ d.exponent := two_zpow_le regular.least_le
  have wide := (reach_bounds d).2
  have lower : (2 ^ 52 - 1 / 2 : ℚ) * 2 ^ leastExponent ≤ x :=
    calc (2 ^ 52 - 1 / 2 : ℚ) * 2 ^ leastExponent ≤ (d.mantissa - d.reach) * 2 ^ d.exponent :=
          mul_le_mul (by linarith) finer step.le (by linarith)
      _ ≤ x := covered.lower
  have upper : a.magnitude ≤ (2 ^ 52 - 1) * 2 ^ leastExponent := by
    rw [magnitude, least]
    exact mul_le_mul_of_nonneg_right (by linarith) step.le
  have order := lower.trans (less.trans upper)
  rw [mul_le_mul_iff_left₀ step] at order
  norm_num at order

end Double
end ClusterClient
