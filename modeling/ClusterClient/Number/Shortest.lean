import ClusterClient.Number.Double

/-!
# The shortest decimal that reads back

`Double.shortest` gives a number's magnitude with the fewest significant digits of which the number
is still the nearest binary64 number. Each candidate length is a decimal grid; only the two grid
points beside the number can be nearest to it, so they alone are tried.
-/

namespace ClusterClient

/-- The decimal `digits * 10 ^ exponent`. -/
structure Decimal where
  digits : Nat
  exponent : Int
  deriving DecidableEq, Repr

namespace Double

/-- A number's magnitude beside the ends of the interval of reals that round to it, all three over
one denominator. The ends belong to the interval exactly when the mantissa is even. -/
structure Interval where
  lower : Nat
  value : Nat
  upper : Nat
  denominator : Nat
  closed : Bool

/-- The interval lies half a step below and above; the step below a power of two is half as wide. -/
def interval (d : Double) : Interval :=
  let below := if d.mantissa = twoTo 52 ∧ leastExponent < d.exponent then 1 else 2
  let scale (n : Nat) := (shiftDown n 1 (2 - d.exponent)).1
  { lower := scale (4 * d.mantissa - below)
    value := scale (4 * d.mantissa)
    upper := scale (4 * d.mantissa + 2)
    denominator := (shiftDown 1 1 (2 - d.exponent)).2
    closed := d.mantissa % 2 == 0 }

/-- The greatest power of ten that does not exceed the fraction `num / den`. -/
def decimalMagnitude (num den : Nat) : Int :=
  let binary : Int := (Nat.log2 num : Int) - (Nat.log2 den : Int)
  let reaches (power : Int) : Bool :=
    if 0 ≤ power then decide (den * tenTo power.toNat ≤ num)
    else decide (den ≤ num * tenTo (-power).toNat)
  let guess := Int.fdiv (binary * 30103) 100000
  if reaches (guess + 1) then guess + 1 else if reaches guess then guess else guess - 1

/-- The point of the grid with step `10 ^ power` that lies in the interval and is nearest to its
value, if one does; of two equally near points the even one. -/
def Interval.gridPoint? (i : Interval) (power : Int) : Option Nat :=
  let (scale, step) : Nat × Nat :=
    if 0 ≤ power then (1, i.denominator * tenTo power.toNat)
    else (tenTo (-power).toNat, i.denominator)
  let floor := i.value * scale / step
  let inside (point : Nat) : Bool :=
    let here := point * step
    if i.closed then decide (i.lower * scale ≤ here ∧ here ≤ i.upper * scale)
    else decide (i.lower * scale < here ∧ here < i.upper * scale)
  let beneath := i.value * scale - floor * step
  let above := (floor + 1) * step - i.value * scale
  match inside floor, inside (floor + 1) with
  | true, true =>
    if beneath < above then some floor
    else if above < beneath then some (floor + 1)
    else some (floor + floor % 2)
  | true, false => some floor
  | false, true => some (floor + 1)
  | false, false => none

/-- A decimal without the zeros at its end; `fuel` bounds their number. -/
def Decimal.trimmed : Nat → Decimal → Decimal
  | 0, d => d
  | fuel + 1, d =>
    if d.digits ≠ 0 ∧ d.digits % 10 = 0 then
      Decimal.trimmed fuel ⟨d.digits / 10, d.exponent + 1⟩
    else d

/-- The magnitude in the fewest digits that read back; seventeen always suffice. -/
def shortest (d : Double) : Decimal :=
  if d.isZero then ⟨0, 0⟩
  else
    let i := d.interval
    let magnitude := decimalMagnitude i.value i.denominator
    let found := (List.range 17).findSome? fun (extra : Nat) =>
      let power := magnitude - (extra : Int)
      (i.gridPoint? power).map fun digits => (⟨digits, power⟩ : Decimal)
    Decimal.trimmed 18 (found.getD ⟨0, 0⟩)

end Double
end ClusterClient
