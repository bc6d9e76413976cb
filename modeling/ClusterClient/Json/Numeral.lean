import ClusterClient.Json.Basic

/-!
# Numerals

The text of a JSON number split into its parts (`Numeral.ofChars?`) and the number it denotes
(`Numeral.value?`). A whole number that fits 64 bits stays whole. Every other numeral is read in
double arithmetic: the leading digits that fit 64 bits make a double, which is then scaled by a
power of ten, each of the two steps rounding to nearest. A numeral beyond the greatest double has no
value, one below the least is zero.
-/

namespace ClusterClient

/-- The parts of a numeral: the digits before the point, those after it, and the exponent. -/
structure Numeral where
  negative : Bool
  whole : List Char
  fraction : Option (List Char)
  exponent : Option (Bool × List Char)
  deriving Repr

namespace Numeral

/-- The digits at the front and what follows them. -/
def spanDigits (cs : List Char) : List Char × List Char :=
  (cs.takeWhile Char.isDigit, cs.dropWhile Char.isDigit)

/-- The fraction at the front, a point and at least one digit, if a point stands there. -/
def spanFraction? : List Char → Option (Option (List Char) × List Char)
  | '.' :: cs =>
    match spanDigits cs with
    | ([], _) => none
    | (digits, rest) => some (some digits, rest)
  | cs => some (none, cs)

/-- Whether the exponent is negative, and its digits; a sign is optional. -/
def spanSign : List Char → Bool × List Char
  | '-' :: cs => (true, cs)
  | '+' :: cs => (false, cs)
  | cs => (false, cs)

/-- The exponent at the front, a letter, a sign and at least one digit, if the letter stands
there. -/
def spanExponent? : List Char → Option (Option (Bool × List Char) × List Char)
  | c :: cs =>
    if c = 'e' ∨ c = 'E' then
      let (negative, cs) := spanSign cs
      match spanDigits cs with
      | ([], _) => none
      | (digits, rest) => some (some (negative, digits), rest)
    else some (none, c :: cs)
  | [] => some (none, [])

/-- The numeral that the characters spell: no sign but a minus, no needless leading zero, digits on
both sides of the point. -/
def ofChars? (cs : List Char) : Option Numeral := do
  let (negative, cs) := match cs with
    | '-' :: rest => (true, rest)
    | cs => (false, cs)
  let (whole, cs) := spanDigits cs
  guard (!whole.isEmpty && (whole.length == 1 || whole.head? != some '0'))
  let (fraction, cs) ← spanFraction? cs
  let (exponent, cs) ← spanExponent? cs
  guard cs.isEmpty
  return ⟨negative, whole, fraction, exponent⟩

/-- The value of a decimal digit. -/
def digitValue (c : Char) : Nat := c.toNat - '0'.toNat

/-- The value of decimal digits. -/
def digitsValue (digits : List Char) : Nat :=
  digits.foldl (fun value c => value * 10 + digitValue c) 0

/-- The digits taken onto a value while it stays below `2 ^ 64`, and how many they are. -/
def gather (value : Nat) : List Char → Nat × Nat
  | [] => (value, 0)
  | c :: cs =>
    let next := value * 10 + digitValue c
    if next < twoTo 64 then
      let (total, taken) := gather next cs
      (total, taken + 1)
    else (value, 0)

/-- The nearest double to a power of ten of at most 308. -/
def powerOfTen (power : Nat) : Double := Double.ofNat (tenTo power)

/-- The magnitude divided by a power of ten, in steps of at most 308 places. -/
def scaleDown (d : Double) (places : Nat) : Option Double :=
  if places ≤ 308 then d.div? (powerOfTen places)
  else do
    let reduced ← d.div? (powerOfTen 308)
    if places ≤ 616 then reduced.div? (powerOfTen (places - 308))
    else return Double.ofNat 0

/-- The magnitude times a power of ten; zero stays zero, and nothing else can be scaled up by more
than 308 places. -/
def scaleUp (d : Double) (places : Nat) : Option Double :=
  if d.isZero then some d
  else if places ≤ 308 then d.mul? (powerOfTen places)
  else none

/-- The number a numeral denotes in double arithmetic. -/
def double? (n : Numeral) : Option Double := do
  let (leading, wholeTaken) := gather 0 n.whole
  let (significand, fractionTaken) := gather leading (n.fraction.getD [])
  let shift : Int := (n.whole.length - wholeTaken : Nat) - (fractionTaken : Int)
  let exponent : Int := match n.exponent with
    | none => 0
    | some (true, digits) => -(digitsValue digits : Int)
    | some (false, digits) => digitsValue digits
  let places := shift + exponent
  let start := Double.ofNat significand
  let magnitude ←
    if 0 ≤ places then scaleUp start places.toNat else scaleDown start (-places).toNat
  return { magnitude with negative := n.negative }

/-- The number a numeral denotes. -/
def value? (n : Numeral) : Option JsonNumber :=
  let magnitude := digitsValue n.whole
  if n.fraction.isNone && n.exponent.isNone && !n.negative && decide (magnitude < twoTo 64) then
    some (.whole magnitude)
  else if n.fraction.isNone && n.exponent.isNone && n.negative && magnitude != 0
      && decide (magnitude ≤ twoTo 63) then
    some (.whole (-(magnitude : Int)))
  else n.double?.map .double

end Numeral
end ClusterClient
