/-!
# Powers and residues

The powers of two and ten that bound the words of a width and the numbers of a number of digits, and
arithmetic modulo a prime.
-/

namespace ClusterClient

/-- The power of two: the number of words of the given width in bits. -/
def twoTo (width : Nat) : Nat := Nat.pow 2 width

/-- The power of ten: the number of decimals of the given number of digits. -/
def tenTo (digits : Nat) : Nat := Nat.pow 10 digits

namespace Modular

/-- The difference of two residues. -/
def sub (modulus a b : Nat) : Nat := (a + modulus - b) % modulus

/-- The residue of a power. -/
def power (modulus base exponent : Nat) : Nat :=
  if exponent = 0 then 1 % modulus
  else
    let half := power modulus base (exponent / 2)
    let square := half * half % modulus
    if exponent % 2 = 1 then square * base % modulus else square
termination_by exponent
decreasing_by omega

/-- The quotient of two residues of a prime. The power that is one less than the modulus is one, so
the one below it divides. -/
def quotient (prime a b : Nat) : Nat := a * power prime b (prime - 2) % prime

end Modular
end ClusterClient
