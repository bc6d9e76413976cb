import ClusterClient.Proofs.Json.Exact
import ClusterClient.Proofs.Json.Grammar
import ClusterClient.Proofs.Number.Nearby

/-! # How precisely numbers are read

A numeral that is read as a double with all 53 bits is written with a decimal that agrees with it in
fifteen digits (`ClusterClient.Numeral.double?_error`). Seven roundings lie between them at most:
digits beyond 64 bits are dropped, those that are taken are rounded, and so are at most two powers
of ten, what they are scaled to, and the decimal that is written.
-/

namespace ClusterClient

namespace Double

theorem greatest_cast :
    (((2 ^ 53 - 1) * 2 ^ 971 : Nat) : ℚ) = (2 ^ 53 - 1) * 2 ^ greatestExponent := by
  rw [Nat.cast_mul, Nat.cast_pow 2 971, Nat.cast_ofNat, greatestExponent, zpow_ofNat]
  norm_num

/-- A whole number that a double can hold is at most one rounding apart from its double. -/
theorem ofNat_nearby {n : Nat} (some : 0 < n) (finite : n ≤ (2 ^ 53 - 1) * 2 ^ 971) :
    (ofNat n).Regular ∧ Nearby 1 (ofNat n).magnitude n := by
  have whole : ((n : Nat) / (1 : Nat) : ℚ) = n := by rw [Nat.cast_one, div_one]
  have least : (1 : ℚ) ≤ n := by exact_mod_cast some
  have low : (2 : ℚ) ^ (-1022 : Int) ≤ (n : Nat) / (1 : Nat) := by
    rw [whole]
    exact (zpow_le_one_of_nonpos₀ one_le_two (by norm_num)).trans least
  have high : ((n : Nat) / (1 : Nat) : ℚ) ≤ (2 ^ 53 - 1) * 2 ^ greatestExponent := by
    have cast : (n : ℚ) ≤ ((2 ^ 53 - 1) * 2 ^ 971 : Nat) := by exact_mod_cast finite
    rw [whole, ← greatest_cast]
    exact cast
  obtain ⟨d, found, regular, covered, normal⟩ := nearest?_normal false one_pos low high
  rw [whole] at covered
  rw [ofNat, found]
  exact ⟨regular, covered.nearby normal⟩

end Double

namespace Numeral

theorem tenTo_le {low high : Nat} (less : low ≤ high) : tenTo low ≤ tenTo high :=
  Nat.pow_le_pow_right (by norm_num) less

/-- The greatest power that is used is a double. -/
theorem tenTo_finite : tenTo 308 ≤ (2 ^ 53 - 1) * 2 ^ 971 := by decide +kernel

/-- A power of ten is rounded once. -/
theorem powerOfTen_nearby {power : Nat} (finite : power ≤ 308) :
    (powerOfTen power).Regular ∧ Nearby 1 (powerOfTen power).magnitude (10 ^ power) := by
  have positive : 0 < tenTo power := Nat.pow_pos (by norm_num)
  have near := Double.ofNat_nearby positive ((tenTo_le finite).trans tenTo_finite)
  rwa [tenTo, Nat.pow_eq, Nat.cast_pow, Nat.cast_ofNat] at near

/-- Digits that fit into a word are rounded once. -/
theorem ofNat_digits {digits : Nat} (some : 0 < digits) (fits : digits < 2 ^ 64) :
    (Double.ofNat digits).Regular ∧ Nearby 1 (Double.ofNat digits).magnitude digits :=
  Double.ofNat_nearby some (fits.le.trans ((by decide +kernel : 2 ^ 64 ≤ (2 ^ 53 - 1) * 2 ^ 971)))

theorem one_le_powerOfTen {power : Nat} (some : 0 < power) (finite : power ≤ 308) :
    1 ≤ (powerOfTen power).magnitude := by
  have near := (powerOfTen_nearby finite).2
  have ten : (10 : ℚ) ≤ 10 ^ power := le_self_pow₀ (by norm_num) some.ne'
  have upper := near.ge
  rw [pow_one] at upper
  have small : roundingFactor ≤ 10 := by norm_num [roundingFactor]
  by_contra less
  have product : roundingFactor * (powerOfTen power).magnitude < 10 * 1 :=
    mul_lt_mul' small (not_le.mp less) near.left.le (by norm_num)
  linarith

section Scaled

variable {start d : Double} (positive : 0 < start.magnitude) (normal : 2 ^ 52 ≤ d.mantissa)
include positive normal

/-- Scaling down by one power of ten rounds the power and the quotient. -/
theorem div?_powerOfTen {power : Nat} (finite : power ≤ 308)
    (found : start.div? (powerOfTen power) = some d) :
    Nearby 2 d.magnitude (start.magnitude / 10 ^ power) :=
  (Double.div?_nearby found normal).trans ((Nearby.refl positive).div (powerOfTen_nearby finite).2)

/-- Scaling down by more places takes two powers of ten. -/
theorem scaleDown_nearby {places : Nat} (found : scaleDown start places = some d) :
    Nearby 4 d.magnitude (start.magnitude / 10 ^ places) := by
  unfold scaleDown at found
  split_ifs at found with near far
  · exact (div?_powerOfTen positive normal near found).mono (by norm_num)
  · obtain ⟨reduced, first, second⟩ := Option.bind_eq_some_iff.mp found
    obtain ⟨regular, covered⟩ := Double.div?_covers second
    have divisor := one_le_powerOfTen (by omega : 0 < places - 308) (by omega)
    have least := (Double.div?_nearby second normal).right
    have start' : 0 < reduced.magnitude :=
      (div_pos_iff_of_pos_right (one_pos.trans_le divisor)).mp least
    -- The first quotient is no less than the second, so it has all 53 bits too.
    have full : 2 ^ 52 ≤ reduced.mantissa :=
      Double.normal_of_le normal regular covered (Double.div?_covers first).1
        (div_le_self start'.le divisor)
    have once := div?_powerOfTen positive full le_rfl first
    have twice := div?_powerOfTen start' normal (by omega) second
    have split : start.magnitude / 10 ^ 308 / 10 ^ (places - 308) =
        start.magnitude / 10 ^ places := by
      rw [div_div, ← pow_add, Nat.add_sub_cancel' (by omega)]
    rw [← split]
    exact twice.trans (once.div (Nearby.refl (pow_pos (by norm_num) _)))
  · obtain ⟨reduced, first, second⟩ := Option.bind_eq_some_iff.mp found
    cases second
    exact absurd normal (by decide)

/-- Scaling rounds powers of ten and what they are applied to. -/
theorem scaled_nearby {places : Int} (found : scaled start places = some d) :
    Nearby 4 d.magnitude (start.magnitude * 10 ^ places) := by
  unfold scaled at found
  split_ifs at found with up
  · obtain ⟨power, rfl⟩ := Int.eq_ofNat_of_zero_le up
    rw [Int.toNat_natCast, scaleUp] at found
    rw [Double.isZero_of_ne (Double.mantissa_ne_zero positive.ne'),
      if_neg Bool.false_ne_true] at found
    split_ifs at found with finite
    have near := (Double.mul?_nearby found normal).trans
      ((Nearby.refl positive).mul (powerOfTen_nearby finite).2)
    rw [zpow_natCast]
    exact near.mono (by norm_num)
  · obtain ⟨power, rfl⟩ : ∃ power : Nat, places = -(power : Int) := ⟨(-places).toNat, by omega⟩
    rw [neg_neg, Int.toNat_natCast] at found
    rw [zpow_neg, zpow_natCast, ← div_eq_mul_inv]
    exact scaleDown_nearby positive normal found

end Scaled

/-- The digits of a numeral are digits. -/
theorem Spelled.digits {n : Numeral} {cs : List Char} (spelled : n.Spelled cs) :
    ∀ c ∈ n.digits, c.isDigit = true := by
  obtain ⟨several, _, fractional, _⟩ := spelled
  refine List.forall_mem_append.mpr ⟨several.2, ?_⟩
  cases fractional with
  | none => exact List.forall_mem_nil _
  | some behind => exact behind.2

theorem digitValue_le {c : Char} (digit : c.isDigit = true) : digitValue c ≤ 9 := by
  have upper := (Char.isDigit_iff_toNat.mp digit).2
  rw [digitValue]
  exact Nat.sub_le_of_le_add upper

/-- Digits are worth less than the power of ten of their number. -/
theorem digitsValue_lt {cs : List Char} (digits : ∀ c ∈ cs, c.isDigit = true) :
    digitsValue cs < 10 ^ cs.length := by
  induction cs with
  | nil => exact one_pos
  | cons c cs ih =>
      obtain ⟨digit, others⟩ := List.forall_mem_cons.mp digits
      have first := Nat.mul_le_mul_right (10 ^ cs.length) (digitValue_le digit)
      have rest := ih others
      rw [digitsValue_cons, List.length_cons, Nat.pow_succ]
      omega

/-- What is taken of digits, and that the next digit would not have fit. -/
theorem gather_taken {cs : List Char} (digits : ∀ c ∈ cs, c.isDigit = true) (value : Nat) :
    ∃ taken left, cs = taken ++ left ∧
      gather value cs = (value * 10 ^ taken.length + digitsValue taken, taken.length) ∧
        (left ≠ [] → 2 ^ 64 ≤ (value * 10 ^ taken.length + digitsValue taken) * 10 + 9) := by
  induction cs generalizing value with
  | nil => exact ⟨[], [], rfl, by simp [gather, digitsValue], fun some => absurd rfl some⟩
  | cons c cs ih =>
      obtain ⟨digit, others⟩ := List.forall_mem_cons.mp digits
      by_cases fits : value * 10 + digitValue c < twoTo 64
      · obtain ⟨taken, left, rfl, same, full⟩ := ih others (value * 10 + digitValue c)
        have total : value * 10 ^ (c :: taken).length + digitsValue (c :: taken) =
            (value * 10 + digitValue c) * 10 ^ taken.length + digitsValue taken := by
          rw [digitsValue_cons, List.length_cons, Nat.pow_succ]
          ring
        refine ⟨c :: taken, left, rfl, ?_, ?_⟩
        · rw [total]
          simp only [gather, if_pos fits, same, List.length_cons]
        · rw [total]
          exact full
      · refine ⟨[], c :: cs, rfl, ?_, fun _ => ?_⟩
        · simp [gather, fits, digitsValue]
        · have bound := digitValue_le digit
          have large : 2 ^ 64 ≤ value * 10 + digitValue c := not_lt.mp fits
          simp only [List.length_nil, digitsValue, List.foldl_nil]
          omega

/-- Numbers between a third one and its next rounding. -/
theorem nearby_of_between {low x y : ℚ} (positive : 0 < low)
    (left : low ≤ x ∧ x ≤ roundingFactor * low) (right : low ≤ y ∧ y ≤ roundingFactor * low) :
    Nearby 1 x y := by
  have factor := one_pos.trans_le one_le_roundingFactor
  refine ⟨positive.trans_le left.1, positive.trans_le right.1, ?_, ?_⟩
  · rw [pow_one]
    exact left.2.trans (mul_le_mul_of_nonneg_left right.1 factor.le)
  · rw [pow_one]
    exact right.2.trans (mul_le_mul_of_nonneg_left left.1 factor.le)

/-- One more is less than a rounding of what does not fit 64 bits in ten times its size. -/
theorem succ_le_rounding {taken : Nat} (full : 2 ^ 64 ≤ taken * 10 + 9) :
    (0 : ℚ) < taken ∧ (taken + 1 : ℚ) ≤ roundingFactor * taken := by
  have large : 8 * 10 ^ 15 ≤ taken := by omega
  have cast : (8 * 10 ^ 15 : ℚ) ≤ taken := by exact_mod_cast large
  rw [roundingFactor]
  constructor <;> linarith

/-- Digits that are left out behind the point. -/
theorem nearby_fraction {taken left unit rest : Nat} (some : 0 < taken) (units : 0 < unit)
    (rests : 0 < rest) (less : left < rest) (full : left ≠ 0 → 2 ^ 64 ≤ taken * 10 + 9) :
    Nearby 1 (taken / unit : ℚ) ((taken * rest + left : Nat) / (unit * rest : Nat)) := by
  have taken' : (0 : ℚ) < taken := by exact_mod_cast some
  have unit' : (0 : ℚ) < unit := by exact_mod_cast units
  have rest' : (0 : ℚ) < rest := by exact_mod_cast rests
  have less' : (left : ℚ) ≤ rest := by exact_mod_cast less.le
  have split : ((taken * rest + left : Nat) / (unit * rest : Nat) : ℚ) =
      (taken + left / rest) / unit := by
    push_cast
    field_simp
  rw [split]
  by_cases none : left = 0
  · rw [none, Nat.cast_zero, zero_div, add_zero]
    exact (Nearby.refl (div_pos taken' unit')).mono (Nat.zero_le 1)
  · have next := (succ_le_rounding (full none)).2
    have part : (0 : ℚ) ≤ left / rest := by positivity
    have whole : (left / rest : ℚ) ≤ 1 := (div_le_one rest').mpr less'
    refine nearby_of_between (div_pos taken' unit') ⟨le_rfl, ?_⟩ ⟨?_, ?_⟩
    · exact le_mul_of_one_le_left (div_pos taken' unit').le one_le_roundingFactor
    · exact div_le_div_of_nonneg_right (by linarith) unit'.le
    · rw [← mul_div_assoc]
      exact div_le_div_of_nonneg_right (by linarith) unit'.le

/-- Digits that are left out in front of the point. Those behind it may still be taken. -/
theorem nearby_whole {taken left power fraction unit : Nat} (full : 2 ^ 64 ≤ taken * 10 + 9)
    (less : left < power) {first : Nat} {scale : Nat} (begun : first < scale)
    (behind : fraction < unit) :
    Nearby 1 ((taken * scale + first : Nat) / scale * power : ℚ)
      (((taken * power + left) * unit + fraction : Nat) / unit) := by
  obtain ⟨positive, next⟩ := succ_le_rounding full
  have power' : (0 : ℚ) < power := by exact_mod_cast Nat.zero_lt_of_lt less
  have scale' : (0 : ℚ) < scale := by exact_mod_cast Nat.zero_lt_of_lt begun
  have unit' : (0 : ℚ) < unit := by exact_mod_cast Nat.zero_lt_of_lt behind
  have less' : (left + 1 : ℚ) ≤ power := by exact_mod_cast less
  have begun' : (first / scale : ℚ) ≤ 1 := (div_le_one scale').mpr (by exact_mod_cast begun.le)
  have behind' : (fraction / unit : ℚ) ≤ 1 := (div_le_one unit').mpr (by exact_mod_cast behind.le)
  have first' : (0 : ℚ) ≤ first / scale := by positivity
  have fraction' : (0 : ℚ) ≤ fraction / unit := by positivity
  have left' : (0 : ℚ) ≤ left := Nat.cast_nonneg left
  have split : ((taken * scale + first : Nat) / scale * power : ℚ) =
      (taken + first / scale) * power := by
    push_cast
    field_simp
  have split' : (((taken * power + left) * unit + fraction : Nat) / unit : ℚ) =
      taken * power + left + fraction / unit := by
    push_cast
    field_simp
  have rounded : (taken + 1 : ℚ) * power ≤ roundingFactor * (taken * power) := by
    rw [← mul_assoc]
    exact mul_le_mul_of_nonneg_right next power'.le
  rw [split, split']
  refine nearby_of_between (mul_pos positive power') ⟨?_, ?_⟩ ⟨?_, ?_⟩
  · exact mul_le_mul_of_nonneg_right (by linarith) power'.le
  · exact (mul_le_mul_of_nonneg_right (by linarith) power'.le).trans rounded
  · linarith
  · linarith

/-- The digits taken in front of the point and behind it are one rounding apart from these and those
that are left out. -/
theorem nearby_taken {taken left begun rest : List Char}
    (leftLess : digitsValue left < 10 ^ left.length)
    (begunLess : digitsValue begun < 10 ^ begun.length)
    (restLess : digitsValue rest < 10 ^ rest.length)
    (some : 0 < digitsValue taken * 10 ^ begun.length + digitsValue begun)
    (full : left ≠ [] → 2 ^ 64 ≤ digitsValue taken * 10 + 9)
    (full' : rest ≠ [] →
      2 ^ 64 ≤ (digitsValue taken * 10 ^ begun.length + digitsValue begun) * 10 + 9) :
    Nearby 1
      ((digitsValue taken * 10 ^ begun.length + digitsValue begun : Nat) /
        (10 ^ begun.length : Nat) * (10 ^ left.length : Nat) : ℚ)
      (digitsValue (taken ++ left ++ (begun ++ rest)) /
        (10 ^ begun.length * 10 ^ rest.length : Nat)) := by
  have power (length : Nat) : 0 < 10 ^ length := Nat.pow_pos (by norm_num)
  by_cases all : left = []
  · subst all
    have total : digitsValue (taken ++ [] ++ (begun ++ rest)) =
        (digitsValue taken * 10 ^ begun.length + digitsValue begun) * 10 ^ rest.length +
          digitsValue rest := by
      rw [List.append_nil, ← List.append_assoc, digitsValue_append, digitsValue_append]
    rw [total, List.length_nil, pow_zero, Nat.cast_one, mul_one]
    refine nearby_fraction some (power _) (power _) restLess fun more => full' ?_
    rintro rfl
    exact more rfl
  · have total : digitsValue (taken ++ left ++ (begun ++ rest)) =
        (digitsValue taken * 10 ^ left.length + digitsValue left) *
            (10 ^ begun.length * 10 ^ rest.length) +
          (digitsValue begun * 10 ^ rest.length + digitsValue rest) := by
      rw [digitsValue_append, digitsValue_append, digitsValue_append, List.length_append, pow_add]
    rw [total]
    refine nearby_whole (full all) leftLess begunLess ?_
    have bound := Nat.mul_le_mul_right (10 ^ rest.length) begunLess
    rw [Nat.succ_mul] at bound
    omega

/-- The digits that are taken are one rounding apart from all digits. -/
theorem gathered_nearby {n : Numeral} (digits : ∀ c ∈ n.digits, c.isDigit = true)
    (some : 0 < n.gathered.1) :
    Nearby 1 (n.gathered.1 * 10 ^ n.gathered.2 : ℚ) (digitsValue n.digits * 10 ^ n.scale) := by
  obtain ⟨whole, fraction⟩ := List.forall_mem_append.mp digits
  obtain ⟨taken, left, wholeSplit, first, full⟩ := gather_taken whole 0
  rw [Nat.zero_mul, Nat.zero_add] at first full
  obtain ⟨begun, rest, fractionSplit, second, full'⟩ := gather_taken fraction (digitsValue taken)
  have gathered : n.gathered = (digitsValue taken * 10 ^ begun.length + digitsValue begun,
      (left.length : Int) - begun.length + n.exponentValue) := by
    simp only [Numeral.gathered, first, second]
    rw [wholeSplit, List.length_append, Nat.add_sub_cancel_left]
  have scale : n.scale = n.exponentValue - ((begun.length : Int) + rest.length) := by
    rw [Numeral.scale, fractionSplit, List.length_append]
    push_cast
    ring
  rw [gathered] at some ⊢
  simp only at some ⊢
  rw [wholeSplit] at whole
  rw [fractionSplit] at fraction
  obtain ⟨begunDigits, restDigits⟩ := List.forall_mem_append.mp fraction
  have core := nearby_taken (digitsValue_lt (List.forall_mem_append.mp whole).2)
    (digitsValue_lt begunDigits) (digitsValue_lt restDigits) some full full'
  rw [← wholeSplit, ← fractionSplit] at core
  -- Both sides are scaled by the exponent, and the powers of ten of the lengths move around it.
  have scaled := core.mul (Nearby.refl (ten_zpow_pos n.exponentValue))
  rw [scale, zpow_add₀ (by norm_num), zpow_sub₀ (by norm_num), zpow_sub₀ (by norm_num),
    zpow_add₀ (by norm_num) (begun.length : Int), Numeral.digits]
  simp only [zpow_natCast]
  convert scaled using 1
  · push_cast
    ring
  · push_cast
    ring

/-- The digits that are gathered fit into a word. -/
theorem gather_lt {value : Nat} (fits : value < 2 ^ 64) (cs : List Char) :
    (gather value cs).1 < 2 ^ 64 := by
  induction cs generalizing value with
  | nil => exact fits
  | cons c cs ih =>
      unfold gather
      simp only
      split_ifs with next
      · exact ih next
      · exact fits

theorem gathered_lt (n : Numeral) : n.gathered.1 < 2 ^ 64 :=
  gather_lt (gather_lt (by norm_num) _) _

/-- Whatever a number is scaled by, the result is regular. -/
theorem scaled_regular {start d : Double} {places : Int} (regular : start.Regular)
    (found : scaled start places = some d) : d.Regular := by
  unfold scaled at found
  split_ifs at found with up
  · unfold scaleUp at found
    split_ifs at found
    · cases found
      exact regular
    · obtain ⟨num, den, under, _, same⟩ := Double.mul?_eq start (powerOfTen places.toNat)
      rw [same] at found
      exact (Double.nearest?_covers under found).2.1
  · unfold scaleDown at found
    split_ifs at found
    · exact (Double.div?_covers found).1
    · obtain ⟨reduced, _, second⟩ := Option.bind_eq_some_iff.mp found
      exact (Double.div?_covers second).1
    · obtain ⟨reduced, _, second⟩ := Option.bind_eq_some_iff.mp found
      cases second
      exact (Double.zero_covers false).1

/-- The number that a numeral is scaled from is regular. -/
theorem start_regular (n : Numeral) : (Double.ofNat n.gathered.1).Regular := by
  rcases Nat.eq_zero_or_pos n.gathered.1 with zero | some
  · rw [zero]
    exact (Double.zero_covers false).1
  · exact (ofNat_digits some n.gathered_lt).1

/-- What a numeral is read as has its sign. -/
theorem double?_regular {n : Numeral} {d : Double} (found : n.double? = some d) :
    d.Regular ∧ (JsonNumber.double d).printed = n.sign * d.shortest.worth := by
  rw [double?_eq] at found
  obtain ⟨magnitude, scaled, rfl⟩ := Option.map_eq_some_iff.mp found
  obtain ⟨few, least, finite, full⟩ := scaled_regular n.start_regular scaled
  exact ⟨⟨few, least, finite, full⟩, rfl⟩

/-- A double with all 53 bits is six roundings apart from the numeral that it is read from. -/
theorem double?_nearby {n : Numeral} (digits : ∀ c ∈ n.digits, c.isDigit = true) {d : Double}
    (found : n.double? = some d) (normal : 2 ^ 52 ≤ d.mantissa) :
    Nearby 6 d.magnitude (digitsValue n.digits * 10 ^ n.scale) := by
  rw [double?_eq] at found
  obtain ⟨magnitude, scaled, rfl⟩ := Option.map_eq_some_iff.mp found
  have normal' : 2 ^ 52 ≤ magnitude.mantissa := normal
  have some : 0 < n.gathered.1 := by
    rw [Nat.pos_iff_ne_zero]
    intro zero
    rw [zero] at scaled
    rw [scaled_zero scaled] at normal'
    exact absurd normal' (by norm_num)
  obtain ⟨_, start⟩ := ofNat_digits some n.gathered_lt
  have read := scaled_nearby start.left normal' scaled
  have begun := start.mul (Nearby.refl (ten_zpow_pos n.gathered.2))
  exact (read.trans begun).trans (gathered_nearby digits some)

theorem sign_abs (n : Numeral) : |n.sign| = 1 := by
  unfold sign
  split_ifs
  · rw [abs_neg, abs_one]
  · exact abs_one

/-- Fifteen digits agree seven roundings apart. -/
theorem error_of_nearby {n : Numeral} {x : ℚ}
    (near : Nearby 7 x (digitsValue n.digits * 10 ^ n.scale)) :
    |n.sign * x - n.exact| ≤ |n.exact| / 10 ^ 15 := by
  rw [exact, ← mul_sub, abs_mul, abs_mul, sign_abs, one_mul, one_mul, abs_of_pos near.right]
  exact near.error

/-- **Fifteen digits agree.** A numeral that is read as a double with all 53 bits differs from what
is written for the double by less than one of its first fifteen digits. -/
theorem double?_error {n : Numeral} (digits : ∀ c ∈ n.digits, c.isDigit = true) {d : Double}
    (found : n.double? = some d) (normal : 2 ^ 52 ≤ d.mantissa) :
    |(JsonNumber.double d).printed - n.exact| ≤ |n.exact| / 10 ^ 15 := by
  obtain ⟨regular, printed⟩ := double?_regular found
  have written := (Double.shortest_covered regular (by omega)).nearby normal
  rw [printed]
  exact error_of_nearby (written.symm.trans (double?_nearby digits found normal))

end Numeral
end ClusterClient
