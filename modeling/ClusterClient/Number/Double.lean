import ClusterClient.Number.Power

/-!
# Binary64 numbers held exactly

A `Double` is a sign and a magnitude `mantissa * 2 ^ exponent`, kept as whole numbers so that
reading, scaling and printing are exact arithmetic. `Double.nearest?` is the one place where
rounding happens: the quotient of two whole numbers goes to the nearest binary64 number, a tie to
the even mantissa.
-/

namespace ClusterClient

/-- A finite binary64 number, worth `mantissa * 2 ^ exponent` with a sign. The numbers made here
have a mantissa below `2 ^ 53`, and one of at least `2 ^ 52` unless the exponent is the least,
`-1074`. -/
structure Double where
  negative : Bool
  mantissa : Nat
  exponent : Int
  deriving DecidableEq, Repr

namespace Double

/-- The quotient rounded to a whole number; a tie goes to the even neighbour. -/
def roundHalfEven (num den : Nat) : Nat :=
  let quotient := num / den
  let twice := 2 * (num % den)
  if twice < den then quotient
  else if den < twice then quotient + 1
  else quotient + quotient % 2

/-- The least exponent, that of the subnormal numbers. -/
def leastExponent : Int := -1074

/-- The greatest exponent of a finite number. -/
def greatestExponent : Int := 971

/-- The fraction `num / den` divided by `2 ^ power`, again as a fraction. -/
def shiftDown (num den : Nat) (power : Int) : Nat × Nat :=
  if 0 ≤ power then (num, den * twoTo power.toNat) else (num * twoTo (-power).toNat, den)

/-- The exponent at which `num / den` has a mantissa of 53 bits, or the least one if that is
greater. -/
def exponentFor (num den : Nat) : Int :=
  let guess : Int := (Nat.log2 num : Int) - (Nat.log2 den : Int) - 52
  let (above, below) := shiftDown num den guess
  max leastExponent (if twoTo 52 * below ≤ above then guess else guess - 1)

/-- The number nearest to the fraction `num / den`, or nothing if it is beyond the greatest one. -/
def nearest? (negative : Bool) (num den : Nat) : Option Double :=
  if num = 0 then some ⟨negative, 0, leastExponent⟩
  else
    let exponent := exponentFor num den
    let (above, below) := shiftDown num den exponent
    let mantissa := roundHalfEven above below
    let (mantissa, exponent) :=
      if mantissa = twoTo 53 then (twoTo 52, exponent + 1) else (mantissa, exponent)
    if exponent ≤ greatestExponent then some ⟨negative, mantissa, exponent⟩ else none

/-- The magnitude as a fraction. -/
def fraction (d : Double) : Nat × Nat := shiftDown d.mantissa 1 (-d.exponent)

/-- The number nearest to a whole number; whole numbers here stay far below the greatest one. -/
def ofNat (n : Nat) : Double := (nearest? false n 1).getD ⟨false, 0, leastExponent⟩

/-- The number nearest to a whole number with a sign. -/
def ofInt : Int → Double
  | .ofNat n => ofNat n
  | .negSucc n => { ofNat (n + 1) with negative := true }

/-- The product of two magnitudes, rounded; nothing on overflow. -/
def mul? (a b : Double) : Option Double :=
  let (an, ad) := a.fraction
  let (bn, bd) := b.fraction
  nearest? (a.negative != b.negative) (an * bn) (ad * bd)

/-- The quotient of two magnitudes, rounded; nothing on overflow or when the divisor is zero. -/
def div? (a b : Double) : Option Double :=
  if b.mantissa = 0 then none
  else
    let (an, ad) := a.fraction
    let (bn, bd) := b.fraction
    nearest? (a.negative != b.negative) (an * bd) (ad * bn)

/-- Whether the number is zero, of either sign. -/
def isZero (d : Double) : Bool := d.mantissa == 0

/-- Whether the number is greater than zero. -/
def isPositive (d : Double) : Bool := !d.negative && !d.isZero

/-- The magnitude without its fractional part. -/
def floorMagnitude (d : Double) : Nat :=
  let (num, den) := d.fraction
  num / den

/-- Whether the number is at least `bound`. -/
def atLeast (d : Double) (bound : Nat) : Bool :=
  if d.negative then d.isZero && bound == 0 else decide (bound ≤ d.floorMagnitude)

/-- The number without its fractional part, held between zero and `2 ^ 64 - 1`. -/
def toUnsigned64 (d : Double) : Nat :=
  if d.negative then 0 else min d.floorMagnitude (twoTo 64 - 1)

end Double
end ClusterClient
