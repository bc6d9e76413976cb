import ClusterClient.Json.Numeral
import ClusterClient.Json.Printer
import ClusterClient.Proofs.Number.Shortest

/-! # Numbers that are read exactly

A numeral denotes its digits times a power of ten (`ClusterClient.Numeral.exact`), and a number that
was read has a decimal that is written for it (`ClusterClient.JsonNumber.printed`). The two agree
for whole numbers that fit 64 bits (`ClusterClient.Numeral.value?_whole`) and for numerals of at
most fifteen digits whose power of ten a double holds exactly
(`ClusterClient.Numeral.double?_short`).
-/

namespace ClusterClient

/-- The decimal that is written for a number. -/
def JsonNumber.printed : JsonNumber → ℚ
  | .whole value => value
  | .double d => (if d.negative then -1 else 1) * d.shortest.worth

namespace Numeral

/-- The digits on both sides of the point. -/
def digits (n : Numeral) : List Char := n.whole ++ n.fraction.getD []

/-- The number that an exponent writes. -/
def exponentValue (n : Numeral) : Int :=
  match n.exponent with
  | none => 0
  | some (true, digits) => -(digitsValue digits : Int)
  | some (false, digits) => digitsValue digits

/-- The power of ten that the last digit stands for. -/
def scale (n : Numeral) : Int := n.exponentValue - ((n.fraction.getD []).length : Int)

/-- The sign as a factor. -/
def sign (n : Numeral) : ℚ := if n.negative then -1 else 1

/-- The number that a numeral denotes. -/
def exact (n : Numeral) : ℚ := n.sign * (digitsValue n.digits * 10 ^ n.scale)

/-- The whole number in front of the point. -/
def integer (n : Numeral) : Int :=
  if n.negative then -(digitsValue n.whole : Int) else digitsValue n.whole

/-- A whole number of 64 bits, without a sign or with one. -/
def Whole (n : Numeral) : Prop :=
  n.fraction = none ∧ n.exponent = none ∧ -2 ^ 63 ≤ n.integer ∧ n.integer < 2 ^ 64

instance (n : Numeral) : Decidable n.Whole := inferInstanceAs (Decidable (_ ∧ _))

/-- Zero, or at most fifteen digits that stand for a power of ten which a double holds exactly. -/
def Short (n : Numeral) : Prop :=
  digitsValue n.digits = 0 ∨ digitsValue n.digits < 10 ^ 15 ∧ -22 ≤ n.scale ∧ n.scale ≤ 22

instance (n : Numeral) : Decidable n.Short := inferInstanceAs (Decidable (_ ∨ _))

/-- The value of digits is the one that the standard library gives them. -/
theorem digitsValue_eq (cs : List Char) : digitsValue cs = Nat.ofDigitChars 10 cs 0 := by
  unfold digitsValue Nat.ofDigitChars
  simp only [Nat.mul_comm]
  rfl

/-- Digits in front of others are worth a power of ten for each of those. -/
theorem digitsValue_append (cs ds : List Char) :
    digitsValue (cs ++ ds) = digitsValue cs * 10 ^ ds.length + digitsValue ds := by
  rw [digitsValue_eq, digitsValue_eq, digitsValue_eq, Nat.ofDigitChars_append,
    Nat.ofDigitChars_eq_ofDigitChars_zero, Nat.mul_comm]

theorem digitsValue_cons (c : Char) (cs : List Char) :
    digitsValue (c :: cs) = digitValue c * 10 ^ cs.length + digitsValue cs := by
  have first : digitsValue [c] = digitValue c := Nat.zero_add _
  rw [← List.singleton_append, digitsValue_append, first]

/-- The decimal digits of a whole number are worth that number. -/
theorem digitsValue_decimalDigits (n : Nat) : digitsValue (decimalDigits n) = n := by
  rw [digitsValue_eq]
  exact Nat.ofDigitChars_ten_toDigits

/-- Digits are all taken while their value fits 64 bits. -/
theorem gather_all {value : Nat} {cs : List Char}
    (fits : value * 10 ^ cs.length + digitsValue cs < 2 ^ 64) :
    gather value cs = (value * 10 ^ cs.length + digitsValue cs, cs.length) := by
  induction cs generalizing value with
  | nil => simp [gather, digitsValue]
  | cons c cs ih =>
      have total : value * 10 ^ (c :: cs).length + digitsValue (c :: cs) =
          (value * 10 + digitValue c) * 10 ^ cs.length + digitsValue cs := by
        rw [digitsValue_cons, List.length_cons, Nat.pow_succ]
        ring
      rw [total] at fits ⊢
      have next : value * 10 + digitValue c < twoTo 64 := by
        have power : 1 ≤ 10 ^ cs.length := Nat.one_le_pow _ _ (by norm_num)
        have more := Nat.le_mul_of_pos_right (value * 10 + digitValue c) power
        simp only [twoTo, Nat.pow_eq]
        omega
      simp only [gather, if_pos next, ih fits, List.length_cons]

/-- The number times a power of ten. -/
def scaled (start : Double) (places : Int) : Option Double :=
  if 0 ≤ places then scaleUp start places.toNat else scaleDown start (-places).toNat

/-- The digits that are taken and the power of ten that the last of them stands for. -/
def gathered (n : Numeral) : Nat × Int :=
  let (leading, wholeTaken) := gather 0 n.whole
  let (significand, fractionTaken) := gather leading (n.fraction.getD [])
  (significand, (n.whole.length - wholeTaken : Nat) - (fractionTaken : Int) + n.exponentValue)

/-- A numeral is read by scaling the digits that are taken. -/
theorem double?_eq (n : Numeral) :
    n.double? = (scaled (Double.ofNat n.gathered.1) n.gathered.2).map
      fun magnitude => { magnitude with negative := n.negative } := by
  unfold double? gathered
  change (if 0 ≤ _ - _ + n.exponentValue
    then (scaleUp _ (_ - _ + n.exponentValue).toNat).bind _
    else (scaleDown _ (-(_ - _ + n.exponentValue)).toNat).bind _) = _
  rw [scaled]
  split_ifs <;> exact (Option.map_eq_bind ..).symm

/-- The double of a numeral has its sign. -/
theorem double?_negative {n : Numeral} {d : Double} (found : n.double? = some d) :
    d.negative = n.negative := by
  rw [double?_eq] at found
  obtain ⟨magnitude, _, rfl⟩ := Option.map_eq_some_iff.mp found
  rfl

/-- Digits that fit 64 bits are all taken. -/
theorem gathered_eq {n : Numeral} (fits : digitsValue n.digits < 2 ^ 64) :
    n.gathered = (digitsValue n.digits, n.scale) := by
  have total : digitsValue n.digits =
      digitsValue n.whole * 10 ^ (n.fraction.getD []).length + digitsValue (n.fraction.getD []) :=
    digitsValue_append _ _
  have wholeFits : 0 * 10 ^ n.whole.length + digitsValue n.whole < 2 ^ 64 := by
    have power : 1 ≤ 10 ^ (n.fraction.getD []).length := Nat.one_le_pow _ _ (by norm_num)
    have more := Nat.le_mul_of_pos_right (digitsValue n.whole) power
    omega
  have first := gather_all wholeFits
  rw [Nat.zero_mul, Nat.zero_add] at first
  rw [total] at fits
  have both := gather_all fits
  have places : ((n.whole.length - n.whole.length : Nat) - ((n.fraction.getD []).length : Int)) +
      n.exponentValue = n.scale := by
    rw [scale, Nat.sub_self]
    push_cast
    ring
  simp only [gathered, first, both, ← total, places]

/-- Digits worth less than `10 ^ 15` are a double as they are. -/
theorem start_exact {digits : Nat} (few : digits < 10 ^ 15) :
    (Double.ofNat digits).magnitude = digits :=
  Double.ofNat_exact (few.trans (by norm_num)) (Nat.zero_le 971) (Nat.mul_one digits).symm

/-- The powers of ten up to the twenty-second are doubles as they are. -/
theorem powerOfTen_exact {power : Nat} (small : power ≤ 22) :
    (powerOfTen power).magnitude = 10 ^ power := by
  have few : 5 ^ power < 2 ^ 53 := (Nat.pow_le_pow_right (by norm_num) small).trans_lt (by norm_num)
  have split : tenTo power = 5 ^ power * 2 ^ power := Nat.mul_pow 5 2 power
  rw [powerOfTen, Double.ofNat_exact few (by omega) split, tenTo, Nat.pow_eq, Nat.cast_pow,
    Nat.cast_ofNat]

/-- Scaling by an exact power of ten rounds once. -/
theorem scaled_eq {digits : Nat} (some : 0 < digits) (few : digits < 10 ^ 15) {places : Int}
    (low : -22 ≤ places) (high : places ≤ 22) :
    ∃ (num den : Nat) (negative : Bool), 0 < den ∧ (num / den : ℚ) = digits * 10 ^ places ∧
      scaled (Double.ofNat digits) places = Double.nearest? negative num den := by
  have start := start_exact few
  have filled : (Double.ofNat digits).mantissa ≠ 0 := by
    refine Double.mantissa_ne_zero ?_
    rw [start]
    exact_mod_cast some.ne'
  rcases le_or_gt 0 places with up | down
  · obtain ⟨power, rfl⟩ := Int.eq_ofNat_of_zero_le up
    obtain ⟨num, den, under, worth, same⟩ := Double.mul?_eq (Double.ofNat digits) (powerOfTen power)
    rw [start, powerOfTen_exact (by omega)] at worth
    have once : scaled (Double.ofNat digits) power =
        (Double.ofNat digits).mul? (powerOfTen power) := by
      rw [scaled, if_pos up, Int.toNat_natCast, scaleUp, Double.isZero_of_ne filled,
        if_neg Bool.false_ne_true, if_pos (by omega)]
    exact ⟨num, den, _, under, worth, once.trans same⟩
  · obtain ⟨power, rfl⟩ : ∃ power : Nat, places = -(power : Int) := ⟨(-places).toNat, by omega⟩
    have ten := powerOfTen_exact (show power ≤ 22 by omega)
    have divisor : (powerOfTen power).mantissa ≠ 0 := by
      refine Double.mantissa_ne_zero ?_
      rw [ten]
      exact pow_ne_zero power (by norm_num)
    obtain ⟨num, den, under, worth, same⟩ := Double.div?_eq (Double.ofNat digits) divisor
    rw [start, ten] at worth
    have inverse : (num / den : ℚ) = digits * 10 ^ (-(power : Int)) := by
      rw [worth, zpow_neg, zpow_natCast, div_eq_mul_inv]
    have once : scaled (Double.ofNat digits) (-(power : Int)) =
        (Double.ofNat digits).div? (powerOfTen power) := by
      rw [scaled, if_neg (by omega), neg_neg, Int.toNat_natCast, scaleDown, if_pos (by omega)]
    exact ⟨num, den, _, under, inverse, once.trans same⟩

/-- Fifteen digits are rounded once, to a double with all 53 bits, if a double holds their power of
ten. -/
theorem double?_covers {n : Numeral} (some : digitsValue n.digits ≠ 0)
    (few : digitsValue n.digits < 10 ^ 15) (low : -22 ≤ n.scale) (high : n.scale ≤ 22) :
    ∃ d : Double, n.double? = .some { d with negative := n.negative } ∧ d.Regular ∧
      d.Covers (digitsValue n.digits * 10 ^ n.scale) ∧ 2 ^ 52 ≤ d.mantissa := by
  have positive := Nat.pos_of_ne_zero some
  obtain ⟨num, den, negative, under, worth, same⟩ := scaled_eq positive few low high
  have least : (1 : ℚ) ≤ digitsValue n.digits := by exact_mod_cast positive
  have most : (digitsValue n.digits : ℚ) < 10 ^ 15 := by exact_mod_cast few
  have ten := ten_zpow_pos n.scale
  have lowest : (2 : ℚ) ^ (-1022 : Int) ≤ num / den := by
    rw [worth]
    calc (2 : ℚ) ^ (-1022 : Int) ≤ 10 ^ (-22 : Int) :=
          Double.two_zpow_le_ten (by norm_num) (by norm_num)
      _ ≤ 10 ^ n.scale := ten_zpow_le low
      _ ≤ digitsValue n.digits * 10 ^ n.scale := le_mul_of_one_le_left ten.le least
  have highest : (num / den : ℚ) ≤ (2 ^ 53 - 1) * 2 ^ Double.greatestExponent := by
    rw [worth]
    calc (digitsValue n.digits * 10 ^ n.scale : ℚ) ≤ 10 ^ 15 * 10 ^ (22 : Int) :=
          mul_le_mul most.le (ten_zpow_le high) ten.le (by norm_num)
      _ ≤ (2 ^ 53 - 1) * 2 ^ (200 : Int) := by norm_num
      _ ≤ (2 ^ 53 - 1) * 2 ^ Double.greatestExponent :=
          mul_le_mul_of_nonneg_left (Double.two_zpow_le (by decide)) (by norm_num)
  obtain ⟨d, found, regular, covered, normal⟩ :=
    Double.nearest?_normal negative under lowest highest
  rw [worth] at covered
  refine ⟨d, ?_, regular, covered, normal⟩
  rw [double?_eq, gathered_eq (by omega), same, found]
  rfl

/-- **Fifteen digits are read exactly**, if a double holds their power of ten: they are those that
are written for the double. -/
theorem double?_short {n : Numeral} (some : digitsValue n.digits ≠ 0)
    (few : digitsValue n.digits < 10 ^ 15) (low : -22 ≤ n.scale) (high : n.scale ≤ 22) :
    ∃ d, n.double? = .some d ∧ (JsonNumber.double d).printed = n.exact := by
  obtain ⟨d, found, regular, covered, normal⟩ := double?_covers some few low high
  have shortest := Double.shortest_eq regular (by omega) normal few covered
  refine ⟨_, found, ?_⟩
  rw [JsonNumber.printed, exact, sign, ← shortest]
  rfl

/-- A quotient of zero is zero. -/
theorem div?_zero {a b d : Double} (zero : a.mantissa = 0) (found : a.div? b = some d) :
    d.mantissa = 0 := by
  by_cases divisor : b.mantissa = 0
  · rw [Double.div?, if_pos divisor] at found
    cases found
  · obtain ⟨num, den, under, worth, same⟩ := Double.div?_eq a divisor
    have scale : (den : ℚ) ≠ 0 := by exact_mod_cast under.ne'
    rw [Double.magnitude_zero zero, zero_div, div_eq_zero_iff,
      or_iff_left scale] at worth
    obtain rfl : num = 0 := by exact_mod_cast worth
    rw [same] at found
    cases found
    rfl

/-- Zero stays zero. -/
theorem scaled_zero {places : Int} {d : Double} (found : scaled (Double.ofNat 0) places = some d) :
    d.mantissa = 0 := by
  unfold scaled at found
  split_ifs at found with up
  · cases found
    rfl
  · generalize (-places).toNat = down at found
    unfold scaleDown at found
    split_ifs at found with near far
    · exact div?_zero rfl found
    · obtain ⟨reduced, first, second⟩ := Option.bind_eq_some_iff.mp found
      exact div?_zero (div?_zero rfl first) second
    · obtain ⟨reduced, _, second⟩ := Option.bind_eq_some_iff.mp found
      cases second
      rfl

/-- A numeral whose digits are all zero is the double zero. -/
theorem double?_zero {n : Numeral} (zero : digitsValue n.digits = 0) {d : Double}
    (found : n.double? = some d) : d.mantissa = 0 := by
  rw [double?_eq, gathered_eq (by omega), zero] at found
  obtain ⟨magnitude, scaled, rfl⟩ := Option.map_eq_some_iff.mp found
  have none : magnitude.mantissa = 0 := scaled_zero scaled
  exact none

theorem exact_zero {n : Numeral} (zero : digitsValue n.digits = 0) : n.exact = 0 := by
  rw [exact, zero, Nat.cast_zero, zero_mul, mul_zero]

/-- The double zero is printed as a numeral that is worth zero. -/
theorem printed_zero {d : Double} (zero : d.mantissa = 0) : (JsonNumber.double d).printed = 0 := by
  have shortest : d.shortest = ⟨0, 0⟩ := by
    rw [Double.shortest, Double.isZero, zero]
    rfl
  rw [JsonNumber.printed, shortest, Decimal.worth, Nat.cast_zero, zero_mul, mul_zero]

/-- A numeral without fraction and exponent is worth its whole part with the sign. -/
theorem exact_integer {n : Numeral} (whole : n.fraction = none ∧ n.exponent = none) :
    n.exact = n.integer := by
  have digits : n.digits = n.whole := by
    rw [Numeral.digits, whole.1]
    exact List.append_nil _
  have scale : n.scale = 0 := by
    rw [Numeral.scale, exponentValue, whole.1, whole.2]
    rfl
  rw [exact, sign, integer, digits, scale, zpow_zero, mul_one]
  cases n.negative with
  | true =>
      rw [if_pos rfl, if_pos rfl]
      push_cast
      ring
  | false =>
      rw [if_neg Bool.false_ne_true, if_neg Bool.false_ne_true]
      push_cast
      ring

/-- A whole numeral that is worth zero has no digit but zeros. -/
theorem digitsValue_of_integer {n : Numeral} (whole : n.Whole) (zero : n.integer = 0) :
    digitsValue n.digits = 0 := by
  rw [digits, whole.1, Option.getD_none, List.append_nil]
  unfold integer at zero
  split_ifs at zero <;> omega

/-- Whole numbers of 64 bits are kept, but for zero with a minus. -/
theorem value?_whole {n : Numeral} (whole : n.Whole) (signed : n.negative = true → n.integer ≠ 0) :
    n.value? = some (.whole n.integer) := by
  have powers : twoTo 64 = 2 ^ 64 ∧ twoTo 63 = 2 ^ 63 := ⟨rfl, rfl⟩
  obtain ⟨fraction, exponent, low, high⟩ := whole
  unfold integer at low high signed ⊢
  unfold value?
  rw [fraction, exponent, powers.1, powers.2]
  cases sign : n.negative with
  | true =>
      rw [sign, if_pos rfl] at low signed
      have some : digitsValue n.whole ≠ 0 := fun zero => signed rfl (by omega)
      have fits : digitsValue n.whole ≤ 2 ^ 63 := by omega
      simp only [Option.isNone_none, Bool.not_true, Bool.and_false, Bool.false_and,
        Bool.false_eq_true, Bool.true_and, if_true, if_false, Bool.and_eq_true, bne_iff_ne,
        decide_eq_true_eq, ne_eq, some, not_false_eq_true, fits, and_self]
  | false =>
      rw [sign, if_neg Bool.false_ne_true] at high
      have fits : digitsValue n.whole < 2 ^ 64 := by omega
      simp only [Option.isNone_none, Bool.not_false, Bool.and_true, Bool.false_eq_true,
        Bool.true_and, if_false, decide_eq_true_eq, fits, if_true]

/-- Other numbers are doubles. -/
theorem value?_double {n : Numeral} (other : n.Whole → n.negative = true ∧ n.integer = 0) :
    n.value? = n.double?.map .double := by
  have powers : twoTo 64 = 2 ^ 64 ∧ twoTo 63 = 2 ^ 63 := ⟨rfl, rfl⟩
  unfold Whole integer at other
  unfold value?
  rw [powers.1, powers.2]
  rw [if_neg, if_neg]
  · simp only [Bool.and_eq_true, Option.isNone_iff_eq_none, bne_iff_ne, decide_eq_true_eq]
    rintro ⟨⟨⟨⟨fraction, exponent⟩, sign⟩, some⟩, fits⟩
    rw [sign, if_pos rfl] at other
    exact some (by have zero := (other ⟨fraction, exponent, by omega, by omega⟩).2; omega)
  · simp only [Bool.and_eq_true, Option.isNone_iff_eq_none, Bool.not_eq_true', decide_eq_true_eq]
    rintro ⟨⟨⟨fraction, exponent⟩, sign⟩, fits⟩
    rw [sign, if_neg Bool.false_ne_true] at other
    cases (other ⟨fraction, exponent, by omega, by omega⟩).1

/-- **What is written for a number that was read.** It is the number itself if that is a whole
number of 64 bits or a short one, and the shortest decimal of a double otherwise. -/
theorem printed_value? {n : Numeral} {value : JsonNumber} (found : n.value? = some value) :
    ((n.Whole ∨ n.Short) → value.printed = n.exact) ∧
      (¬ n.Whole → ∃ d, n.double? = some d ∧ value = .double d) := by
  by_cases kept : n.Whole ∧ (n.negative = true → n.integer ≠ 0)
  · rw [value?_whole kept.1 kept.2] at found
    cases found
    exact ⟨fun _ => (exact_integer ⟨kept.1.1, kept.1.2.1⟩).symm, fun other => absurd kept.1 other⟩
  · have other : n.Whole → n.negative = true ∧ n.integer = 0 := by
      intro whole
      by_contra signed
      exact kept ⟨whole, fun minus zero => signed ⟨minus, zero⟩⟩
    rw [value?_double other] at found
    obtain ⟨d, read, rfl⟩ := Option.map_eq_some_iff.mp found
    refine ⟨?_, fun _ => ⟨d, read, rfl⟩⟩
    intro exactly
    by_cases zero : digitsValue n.digits = 0
    · rw [printed_zero (double?_zero zero read), exact_zero zero]
    · have short : n.Short :=
        exactly.resolve_left fun whole => zero (digitsValue_of_integer whole (other whole).2)
      obtain ⟨few, low, high⟩ := short.resolve_left zero
      obtain ⟨d', same, written⟩ := double?_short zero few low high
      cases read.symm.trans same
      exact written

end Numeral
end ClusterClient
