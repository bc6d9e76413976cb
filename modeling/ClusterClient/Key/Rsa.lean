import ClusterClient.Der
import ClusterClient.Number.Power

/-!
# RSA keys

The numbers of a private key, and when they fit together well enough to be used: the factors are
half as long as the modulus, make it up, and have a length that is a multiple of 512 bits. That they
are prime is not checked, nor are the exponents beyond their size.
-/

namespace ClusterClient.Key

/-- The numbers of a private key. -/
structure Rsa where
  modulus : Nat
  publicExponent : Nat
  privateExponent : Nat
  firstFactor : Nat
  secondFactor : Nat
  firstExponent : Nat
  secondExponent : Nat
  /-- The inverse of the second factor modulo the first. -/
  coefficient : Nat

namespace Rsa

/-- The number of bits that a number needs. -/
def width (n : Nat) : Nat := if n = 0 then 0 else Nat.log2 n + 1

/-- Whether a number is a factor of half the given width. -/
def isFactor (width_ factor : Nat) : Bool :=
  factor % 2 == 1 && width factor == (width_ + 1) / 2 && width factor % 512 == 0

/-- Whether the numbers fit together. The public exponent is odd, at least 65537 and no longer than
33 bits; the modulus has up to 4096 bits, and no fewer than 2048 when they are rounded up to bytes.
-/
def isSound (key : Rsa) : Bool :=
  let size := width key.modulus
  decide (2041 ≤ size ∧ size ≤ 4096) && key.modulus % 2 == 1
    && decide (65537 ≤ key.publicExponent ∧ key.publicExponent < twoTo 33)
    && key.publicExponent % 2 == 1
    && isFactor size key.firstFactor && isFactor size key.secondFactor
    && key.firstFactor * key.secondFactor % key.modulus == 0
    && key.privateExponent % 2 == 1
    && decide ((size + 1) / 2 < width key.privateExponent ∧ key.privateExponent < key.modulus)
    && key.firstExponent % 2 == 1 && decide (key.firstExponent < key.firstFactor)
    && key.secondExponent % 2 == 1 && decide (key.secondExponent < key.secondFactor)
    && decide (key.coefficient < key.firstFactor)
    && key.coefficient * key.secondFactor % key.firstFactor == 1

end Rsa
end ClusterClient.Key
