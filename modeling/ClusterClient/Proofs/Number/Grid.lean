import ClusterClient.Proofs.Number.Rounding
import Mathlib.Tactic.Ring

/-! # Points of a decimal grid

Of the decimals with a given power of ten, `ClusterClient.Double.Interval.gridPoint?` finds one in
an interval: what it finds is inside (`ClusterClient.Double.Interval.gridPoint?_holds`), and it
finds something if the interval holds a point of the grid
(`ClusterClient.Double.Interval.gridPoint?_isSome`) or is wider than the grid is fine
(`ClusterClient.Double.Interval.gridPoint?_fine`).
-/

namespace ClusterClient

theorem ten_zpow_pos (power : Int) : (0 : ℚ) < 10 ^ power := zpow_pos (by norm_num) power

theorem ten_zpow_le {low high : Int} (less : low ≤ high) : (10 : ℚ) ^ low ≤ 10 ^ high :=
  zpow_le_zpow_right₀ (by norm_num) less

/-- What a decimal is worth. -/
def Decimal.worth (decimal : Decimal) : ℚ := decimal.digits * 10 ^ decimal.exponent

namespace Double
namespace Interval

/-- Whether a real lies in an interval. -/
def Holds (i : Interval) (x : ℚ) : Prop :=
  if i.closed then (i.lower / i.denominator : ℚ) ≤ x ∧ x ≤ i.upper / i.denominator
  else (i.lower / i.denominator : ℚ) < x ∧ x < i.upper / i.denominator

/-- An interval around its value. -/
structure Proper (i : Interval) : Prop where
  positive : 0 < i.denominator
  above : i.lower < i.value
  under : i.value < i.upper

variable {i : Interval} {scale step : Nat}

/-- Whether a point of a grid lies in an interval, both over one denominator. -/
def inside (i : Interval) (scale step point : Nat) : Bool :=
  if i.closed then decide (i.lower * scale ≤ point * step ∧ point * step ≤ i.upper * scale)
  else decide (i.lower * scale < point * step ∧ point * step < i.upper * scale)

/-- The point of a grid that lies in an interval and is nearest to its value. -/
def nearestPoint? (i : Interval) (scale step : Nat) : Option Nat :=
  let floor := i.value * scale / step
  let beneath := i.value * scale - floor * step
  let above := (floor + 1) * step - i.value * scale
  match i.inside scale step floor, i.inside scale step (floor + 1) with
  | true, true =>
    if beneath < above then some floor
    else if above < beneath then some (floor + 1)
    else some (floor + floor % 2)
  | true, false => some floor
  | false, true => some (floor + 1)
  | false, false => none

/-- A grid over the denominator of an interval: its step, beside the factor by which both are
scaled, is a power of ten. -/
structure Grid (i : Interval) (power : Int) (scale step : Nat) : Prop where
  positive : 0 < scale
  same : (step : ℚ) = 10 ^ power * (scale * i.denominator)

/-- The point of a grid is looked for among whole numbers, with a scale for the denominator and a
step for the power. -/
theorem gridPoint?_eq (i : Interval) (power : Int) :
    ∃ scale step, Grid i power scale step ∧ i.gridPoint? power = i.nearestPoint? scale step := by
  by_cases whole : 0 ≤ power
  · refine ⟨1, i.denominator * tenTo power.toNat, ⟨one_pos, ?_⟩, ?_⟩
    · obtain ⟨places, rfl⟩ := Int.eq_ofNat_of_zero_le whole
      simp [tenTo, mul_comm]
    · unfold gridPoint?
      rw [if_pos whole]
      rfl
  · refine ⟨tenTo (-power).toNat, i.denominator, ⟨Nat.pow_pos (by norm_num), ?_⟩, ?_⟩
    · obtain ⟨places, rfl⟩ : ∃ places : Nat, power = -(places : Int) :=
        ⟨(-power).toNat, by omega⟩
      simp [tenTo]
    · unfold gridPoint?
      rw [if_neg whole]
      rfl

section Grid

variable {power : Int} (proper : i.Proper) (grid : Grid i power scale step)
include proper grid

theorem product_pos : (0 : ℚ) < scale * i.denominator :=
  mul_pos (by exact_mod_cast grid.positive) (by exact_mod_cast proper.positive)

/-- A point of the grid as a fraction of whole numbers. -/
theorem point_eq (point : ℚ) : point * 10 ^ power = point * step / (scale * i.denominator) := by
  rw [grid.same, mul_div_assoc, mul_div_assoc, div_self (product_pos proper grid).ne', mul_one]

omit proper in
/-- An end of the interval as a fraction with the same denominator. -/
theorem end_eq (n : Nat) : (n / i.denominator : ℚ) = n * scale / (scale * i.denominator) := by
  have scaled : (0 : ℚ) < scale := by exact_mod_cast grid.positive
  field_simp

/-- The points inside an interval are those that it holds. -/
theorem inside_iff (point : Nat) :
    i.inside scale step point = true ↔ i.Holds (point * 10 ^ power) := by
  have product := product_pos proper grid
  unfold inside Holds
  rw [point_eq proper grid, end_eq grid, end_eq grid]
  split_ifs
  · rw [decide_eq_true_iff, div_le_div_iff_of_pos_right product,
      div_le_div_iff_of_pos_right product]
    norm_cast
  · rw [decide_eq_true_iff, div_lt_div_iff_of_pos_right product,
      div_lt_div_iff_of_pos_right product]
    norm_cast

/-- The value of an interval lies between two points of a grid. -/
theorem floor_bounds :
    ((i.value * scale / step : Nat) * 10 ^ power : ℚ) ≤ i.value / i.denominator ∧
      (i.value / i.denominator : ℚ) < ((i.value * scale / step + 1 : Nat) : ℚ) * 10 ^ power := by
  have product := product_pos proper grid
  have positive : 0 < step := by
    have worth : (0 : ℚ) < step := by
      rw [grid.same]
      exact mul_pos (ten_zpow_pos power) product
    exact_mod_cast worth
  rw [point_eq proper grid, point_eq proper grid, end_eq grid,
    div_le_div_iff_of_pos_right product, div_lt_div_iff_of_pos_right product]
  constructor
  · exact_mod_cast Nat.div_mul_le_self (i.value * scale) step
  · have less := Nat.lt_mul_div_succ (i.value * scale) positive
    rw [Nat.mul_comm step] at less
    exact_mod_cast less

end Grid

/-- A point that is found is inside, and one of the two points beside the value. -/
theorem nearestPoint?_spec {point : Nat} (found : i.nearestPoint? scale step = some point) :
    i.inside scale step point = true ∧ point ≤ i.value * scale / step + 1 := by
  unfold nearestPoint? at found
  simp only at found
  split at found
  · rename_i left right
    split_ifs at found
    · cases found
      exact ⟨left, Nat.le_succ _⟩
    · cases found
      exact ⟨right, le_rfl⟩
    · cases found
      rcases Nat.mod_two_eq_zero_or_one (i.value * scale / step) with even | odd
      · rw [even]
        exact ⟨left, Nat.le_succ _⟩
      · rw [odd]
        exact ⟨right, le_rfl⟩
  · rename_i left _
    cases found
    exact ⟨left, Nat.le_succ _⟩
  · rename_i right
    cases found
    exact ⟨right, le_rfl⟩
  · cases found

/-- The value lies between the ends. -/
theorem Proper.value_bounds (proper : i.Proper) :
    (i.lower / i.denominator : ℚ) < i.value / i.denominator ∧
      (i.value / i.denominator : ℚ) < i.upper / i.denominator := by
  have denominator : (0 : ℚ) < i.denominator := by exact_mod_cast proper.positive
  rw [div_lt_div_iff_of_pos_right denominator, div_lt_div_iff_of_pos_right denominator]
  exact ⟨by exact_mod_cast proper.above, by exact_mod_cast proper.under⟩

/-- An interval holds what lies between its value and something that it holds. -/
theorem Holds.between {x y : ℚ} (held : i.Holds x) (proper : i.Proper)
    (side : x ≤ y ∧ y ≤ i.value / i.denominator ∨ i.value / i.denominator ≤ y ∧ y ≤ x) :
    i.Holds y := by
  obtain ⟨above, under⟩ := proper.value_bounds
  unfold Holds at held ⊢
  split_ifs at held ⊢ <;> rcases side with side | side <;> constructor <;> linarith

/-- What an interval does not hold lies beyond one of its ends. -/
theorem beyond_end {x : ℚ} (proper : i.Proper) (missed : ¬ i.Holds x) :
    (x ≤ i.value / i.denominator → x ≤ i.lower / i.denominator) ∧
      (i.value / i.denominator ≤ x → i.upper / i.denominator ≤ x) := by
  obtain ⟨above, under⟩ := proper.value_bounds
  unfold Holds at missed
  constructor
  · intro side
    by_contra inside
    refine missed ?_
    split_ifs <;> constructor <;> linarith
  · intro side
    by_contra inside
    refine missed ?_
    split_ifs <;> constructor <;> linarith

/-- There is a nearest point if one of the two beside the value lies inside. -/
theorem nearestPoint?_isSome
    (beside : i.inside scale step (i.value * scale / step) = true ∨
      i.inside scale step (i.value * scale / step + 1) = true) :
    (i.nearestPoint? scale step).isSome = true := by
  unfold nearestPoint?
  simp only
  split
  · split_ifs <;> rfl
  · rfl
  · rfl
  · rename_i left right
    rw [left, right] at beside
    exact absurd beside (by decide)

/-- An interval holds the points that are found. -/
theorem gridPoint?_holds {power : Int} (proper : i.Proper) {point : Nat}
    (found : i.gridPoint? power = some point) : i.Holds (point * 10 ^ power) := by
  obtain ⟨scale, step, grid, same⟩ := gridPoint?_eq i power
  rw [same] at found
  exact (inside_iff proper grid point).mp (nearestPoint?_spec found).1

/-- A point that is found is less than a step above the value. -/
theorem gridPoint?_le {power : Int} (proper : i.Proper) {point : Nat}
    (found : i.gridPoint? power = some point) :
    (point * 10 ^ power : ℚ) ≤ i.value / i.denominator + 10 ^ power := by
  obtain ⟨scale, step, grid, same⟩ := gridPoint?_eq i power
  rw [same] at found
  have next : (point : ℚ) ≤ (i.value * scale / step : Nat) + 1 := by
    exact_mod_cast (nearestPoint?_spec found).2
  calc (point * 10 ^ power : ℚ) ≤ ((i.value * scale / step : Nat) + 1) * 10 ^ power :=
        mul_le_mul_of_nonneg_right next (ten_zpow_pos power).le
    _ = (i.value * scale / step : Nat) * 10 ^ power + 10 ^ power := by rw [add_mul, one_mul]
    _ ≤ i.value / i.denominator + 10 ^ power := by linarith [(floor_bounds proper grid).1]

/-- **A point is found** if the interval holds one. -/
theorem gridPoint?_isSome {power : Int} (proper : i.Proper) {point : Nat}
    (held : i.Holds (point * 10 ^ power)) : (i.gridPoint? power).isSome = true := by
  obtain ⟨scale, step, grid, same⟩ := gridPoint?_eq i power
  obtain ⟨lower, upper⟩ := floor_bounds proper grid
  have beside : i.inside scale step (i.value * scale / step) = true ∨
      i.inside scale step (i.value * scale / step + 1) = true := by
    rw [inside_iff proper grid, inside_iff proper grid]
    rcases Nat.lt_or_ge (i.value * scale / step) point with more | less
    · refine .inr (held.between proper (.inr ⟨?_, ?_⟩))
      · exact upper.le
      · exact mul_le_mul_of_nonneg_right (by exact_mod_cast more) (ten_zpow_pos power).le
    · refine .inl (held.between proper (.inl ⟨?_, lower⟩))
      exact mul_le_mul_of_nonneg_right (by exact_mod_cast less) (ten_zpow_pos power).le
  rw [same]
  exact nearestPoint?_isSome beside

/-- A point is found on a grid that is finer than the interval is wide. -/
theorem gridPoint?_fine {power : Int} (proper : i.Proper)
    (fine : (i.lower / i.denominator : ℚ) + 10 ^ power < i.upper / i.denominator) :
    (i.gridPoint? power).isSome = true := by
  obtain ⟨scale, step, grid, same⟩ := gridPoint?_eq i power
  obtain ⟨lower, upper⟩ := floor_bounds proper grid
  -- If neither neighbour of the value were inside, the ends would be a step apart at most.
  have held : ∃ point : Nat, i.Holds (point * 10 ^ power) := by
    by_contra none
    push Not at none
    have left := (beyond_end proper (none (i.value * scale / step))).1 lower
    have right := (beyond_end proper (none (i.value * scale / step + 1))).2 upper.le
    have next : ((i.value * scale / step + 1 : Nat) * 10 ^ power : ℚ) =
        (i.value * scale / step : Nat) * 10 ^ power + 10 ^ power := by
      rw [Nat.cast_succ, add_mul, one_mul]
    linarith
  obtain ⟨point, held⟩ := held
  exact gridPoint?_isSome proper held

end Interval

end Double
end ClusterClient
