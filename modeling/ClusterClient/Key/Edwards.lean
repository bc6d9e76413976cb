import ClusterClient.Key.Sha512
import ClusterClient.Number.Power

/-!
# The Edwards curve

The points of the curve y² - x² = 1 + dx²y² over the field of 2²⁵⁵ - 19 elements, and the public
keys that secret seeds of 32 bytes have there.
-/

namespace ClusterClient.Key.Edwards

/-- The number of elements of the field. -/
def prime : Nat := twoTo 255 - 19

/-- The coefficient of the curve. -/
def d : Nat := Modular.quotient prime (prime - 121665) 121666

/-- The sum of two points. No sum needs a case of its own. -/
def add (p q : Nat × Nat) : Nat × Nat :=
  let product := d * (p.1 * p.2 % prime) % prime * (q.1 * q.2 % prime) % prime
  (Modular.quotient prime ((p.1 * q.2 + q.1 * p.2) % prime) (1 + product),
    Modular.quotient prime ((p.2 * q.2 + p.1 * q.1) % prime) (Modular.sub prime 1 product))

/-- A point added to itself the given number of times. -/
def multiple (times : Nat) (p : Nat × Nat) : Nat × Nat :=
  if times = 0 then (0, 1)
  else
    let half := multiple (times / 2) p
    let double := add half half
    if times % 2 = 1 then add double p else double
termination_by times
decreasing_by omega

/-- The point from which keys are made, whose second coordinate is four fifths. -/
def base : Nat × Nat :=
  (0x216936D3CD6E53FEC0A4E231FDD6DC5C692CC7609525A7B2C9562D608F25D51A,
    Modular.quotient prime 4 5)

/-- The number that bytes stand for, the least place first. -/
def number (bytes : List UInt8) : Nat :=
  bytes.foldr (fun byte value => value * 256 + byte.toNat) 0

/-- The bytes of a number, the least place first. -/
def bytes : Nat → Nat → List UInt8
  | 0, _ => []
  | width + 1, n => UInt8.ofNat (n % 256) :: bytes width (n / 256)

/-- The multiple of the base that a seed stands for: half of its digest, with the last three bits
and the first cleared and the second set. -/
def secret (seed : List UInt8) : Nat :=
  twoTo 254 + number ((Sha512.digest seed).take 32) % twoTo 254 / 8 * 8

/-- The bytes of the public key of a seed: the second coordinate, and in its free bit whether the
first one is odd. -/
def publicKey (seed : List UInt8) : List UInt8 :=
  let point := multiple (secret seed) base
  bytes 32 (point.2 + point.1 % 2 * twoTo 255)

end ClusterClient.Key.Edwards
