import ClusterClient.Number.Power

/-!
# Elliptic curves

The points of the curves y² = x³ - 3x + b over a prime field, with addition by chords and tangents,
and the two curves of this form whose keys are in use.
-/

namespace ClusterClient.Key

/-- A curve y² = x³ - 3x + b with the point from which its keys are made. -/
structure Curve where
  /-- The object identifier of the curve. -/
  name : List UInt8
  /-- How many bytes a coordinate has. -/
  width : Nat
  prime : Nat
  /-- How often the base is added to itself to give the point at infinity. -/
  order : Nat
  base : Nat × Nat

namespace Curve

/-- A point of a curve, or the point at infinity. -/
abbrev Point := Option (Nat × Nat)

/-- The third point of a line with the given slope through two points, reflected. -/
def reflected (curve : Curve) (slope : Nat) (p q : Nat × Nat) : Nat × Nat :=
  let sub := Modular.sub curve.prime
  let x := sub (sub (slope * slope % curve.prime) p.1) q.1
  (x, sub (slope * sub p.1 x % curve.prime) p.2)

/-- The sum of two points. -/
def add (curve : Curve) : Point → Point → Point
  | none, q => q
  | p, none => p
  | some p, some q =>
    let prime := curve.prime
    if p.1 ≠ q.1 then
      let slope := Modular.quotient prime (Modular.sub prime q.2 p.2) (Modular.sub prime q.1 p.1)
      some (curve.reflected slope p q)
    else if p.2 = q.2 ∧ p.2 ≠ 0 then
      let slope := Modular.quotient prime (Modular.sub prime (3 * p.1 * p.1 % prime) 3) (2 * p.2)
      some (curve.reflected slope p q)
    else none

/-- A point added to itself the given number of times. -/
def multiple (curve : Curve) (times : Nat) (p : Point) : Point :=
  if times = 0 then none
  else
    let half := curve.multiple (times / 2) p
    let double := curve.add half half
    if times % 2 = 1 then curve.add double p else double
termination_by times
decreasing_by omega

/-- The bytes of a number, the greatest place first. -/
def bytes (width n : Nat) : List UInt8 :=
  ((List.range width).map fun place => UInt8.ofNat (n / twoTo (8 * place) % 256)).reverse

/-- The bytes of the public key that belongs to a secret number, which is less than the order and
not zero. -/
def publicKey? (curve : Curve) (secret : Nat) : Option (List UInt8) :=
  if 0 < secret ∧ secret < curve.order then
    (curve.multiple secret (some curve.base)).map fun point =>
      4 :: bytes curve.width point.1 ++ bytes curve.width point.2
  else none

/-- The curve of 256 bits. -/
def p256 : Curve where
  name := [0x2A, 0x86, 0x48, 0xCE, 0x3D, 0x03, 0x01, 0x07]
  width := 32
  prime := 0xFFFFFFFF00000001000000000000000000000000FFFFFFFFFFFFFFFFFFFFFFFF
  order := 0xFFFFFFFF00000000FFFFFFFFFFFFFFFFBCE6FAADA7179E84F3B9CAC2FC632551
  base :=
    (0x6B17D1F2E12C4247F8BCE6E563A440F277037D812DEB33A0F4A13945D898C296,
      0x4FE342E2FE1A7F9B8EE7EB4A7C0F9E162BCE33576B315ECECBB6406837BF51F5)

/-- The curve of 384 bits. -/
def p384 : Curve where
  name := [0x2B, 0x81, 0x04, 0x00, 0x22]
  width := 48
  prime := twoTo 384 - twoTo 128 - twoTo 96 + twoTo 32 - 1
  order :=
    twoTo 384
      - 0x389CB27E0BC8D220A7E5F24DB74F58851313E695333AD68D
  base :=
    (twoTo 192 * 0xAA87CA22BE8B05378EB1C71EF320AD746E1D3B628BA79B98
        + 0x59F741E082542A385502F25DBF55296C3A545E3872760AB7,
      twoTo 192 * 0x3617DE4A96262C6F5D9E98BF9292DC29F8F41DBD289A147C
        + 0xE9DA3113B5F0B8C00A60B1CE1D7E819D7A431D7C90EA0E5F)

end Curve
end ClusterClient.Key
