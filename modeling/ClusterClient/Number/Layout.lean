import ClusterClient.Number.Shortest

/-!
# Decimal texts of numbers

How the digits of a number are laid out: with a point and zeros while the decimal exponent stays in
a range, with an exponent beyond it. The range is a value, so that each output format states its
own. `Double.fixedText` is the other layout, with a fixed number of places.
-/

namespace ClusterClient

/-- The decimal digits of a whole number. -/
def decimalDigits (n : Nat) : List Char := Nat.toDigits 10 n

/-- Which numbers are written with a point alone: those whose leading digit stands for a power of
ten between `leastPower` and `greatestPower`. -/
structure DecimalLayout where
  leastPower : Int
  greatestPower : Int

namespace DecimalLayout

/-- An exponent with its sign always written. -/
def exponentText (power : Int) : List Char :=
  if 0 ≤ power then '+' :: decimalDigits power.toNat else '-' :: decimalDigits (-power).toNat

/-- The text of `digits`, whose leading digit stands for `10 ^ power`, with a point and at least one
digit on each side of it. -/
def positional (digits : List Char) (power : Int) : List Char :=
  if 0 ≤ power then
    let wholeLength := power.toNat + 1
    let whole := digits.take wholeLength
    let missing := List.replicate (wholeLength - whole.length) '0'
    let rest := digits.drop wholeLength
    whole ++ missing ++ '.' :: (if rest.isEmpty then ['0'] else rest)
  else
    '0' :: '.' :: List.replicate ((-power).toNat - 1) '0' ++ digits

/-- The text of `digits`, whose leading digit stands for `10 ^ power`, with an exponent; the point
is left out after a single digit. -/
def scientific (digits : List Char) (power : Int) : List Char :=
  let mantissa :=
    match digits with
    | [] => []
    | [only] => [only]
    | first :: rest => first :: '.' :: rest
  mantissa ++ 'e' :: exponentText power

/-- The text of a number; zero is `0.0`, and the sign of a negative number or zero stands in
front. -/
def text (layout : DecimalLayout) (d : Double) : List Char :=
  let shortest := d.shortest
  let digits := decimalDigits shortest.digits
  let power := shortest.exponent + (digits.length : Int) - 1
  let magnitude :=
    if layout.leastPower ≤ power ∧ power ≤ layout.greatestPower then positional digits power
    else scientific digits power
  if d.negative then '-' :: magnitude else magnitude

end DecimalLayout

/-- The magnitude with a fixed number of places after the point, at least one; a tie goes to the
even digit. -/
def Double.fixedText (places : Nat) (d : Double) : List Char :=
  let (num, den) := d.fraction
  let scaled := Double.roundHalfEven (num * tenTo places) den
  let fractional := decimalDigits (scaled % tenTo places)
  decimalDigits (scaled / tenTo places) ++
    '.' :: (List.replicate (places - fractional.length) '0' ++ fractional)

end ClusterClient
