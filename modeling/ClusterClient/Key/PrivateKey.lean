import ClusterClient.Key.Curve
import ClusterClient.Key.Edwards
import ClusterClient.Key.Rsa

/-!
# Private keys

A private key is written in the form of its algorithm, or in an envelope that names the algorithm.
Each reader here gives the public key that belongs to the private one, with its algorithm, in the
form in which a certificate holds it, and fails on a key that does not fit together or that is of an
algorithm that is not in use.
-/

namespace ClusterClient.Key

/-- The length that no element of a private key has. -/
def limit : Nat := 65536

/-- The content of the element at the front, which has the given tag. -/
def part? (tag : UInt8) : Der.Reader (List UInt8) := Der.content? limit tag

/-- The number at the front, if it is not negative. -/
def whole? : Der.Reader Nat := fun bytes => do
  let (content, rest) ← part? Der.whole bytes
  return (Der.number (← Der.magnitude? content), rest)

/-- A public key with its algorithm, as a certificate holds it. -/
def publicInfo (algorithm key : List UInt8) : List UInt8 :=
  Der.element Der.sequence algorithm ++ Der.element Der.bits (0 :: key)

/-- The algorithm of RSA keys. -/
def rsaAlgorithm : List UInt8 :=
  Der.element Der.identifier [0x2A, 0x86, 0x48, 0x86, 0xF7, 0x0D, 0x01, 0x01, 0x01] ++ [0x05, 0x00]

/-- The algorithm of keys on an elliptic curve. -/
def curveAlgorithm (curve : Curve) : List UInt8 :=
  Der.element Der.identifier [0x2A, 0x86, 0x48, 0xCE, 0x3D, 0x02, 0x01]
    ++ Der.element Der.identifier curve.name

/-- The algorithm of keys on the Edwards curve. -/
def edwardsAlgorithm : List UInt8 := Der.element Der.identifier [0x2B, 0x65, 0x70]

/-- The numbers of an RSA key, behind the version, which is zero. -/
def rsaNumbers? : Der.Reader Rsa := fun bytes => do
  let (version, rest) ← whole? bytes
  guard (version = 0)
  let (modulus, rest) ← whole? rest
  let (publicExponent, rest) ← whole? rest
  let (privateExponent, rest) ← whole? rest
  let (firstFactor, rest) ← whole? rest
  let (secondFactor, rest) ← whole? rest
  let (firstExponent, rest) ← whole? rest
  let (secondExponent, rest) ← whole? rest
  let (coefficient, rest) ← whole? rest
  return (⟨modulus, publicExponent, privateExponent, firstFactor, secondFactor, firstExponent,
    secondExponent, coefficient⟩, rest)

/-- The bytes of a number, as many as it needs. -/
def magnitude (n : Nat) : List UInt8 := Curve.bytes ((Rsa.width n + 7) / 8) n

/-- The public key that belongs to an RSA key. -/
def ofRsa? (bytes : List UInt8) : Option (List UInt8) := do
  let key ← Der.all? rsaNumbers? (← Der.all? (part? Der.sequence) bytes)
  guard key.isSound
  return publicInfo rsaAlgorithm <| Der.element Der.sequence <|
    Der.wholeElement (magnitude key.modulus) ++ Der.wholeElement (magnitude key.publicExponent)

/-- The secret number, and the bytes of the public key, of a key on a curve, behind the version,
which is one. The curve may be named again, and the public key must not be left out. -/
def curveParts? (curve : Curve) : Der.Reader (List UInt8 × List UInt8) := fun bytes => do
  let (version, rest) ← whole? bytes
  guard (version = 1)
  let (secret, rest) ← part? Der.octets rest
  let named := rest.head? == some (Der.numbered 0)
  let (name, rest) ← if named then part? (Der.numbered 0) rest else some ([], rest)
  guard (!named || name == Der.element Der.identifier curve.name)
  let (content, rest) ← part? (Der.numbered 1) rest
  return ((secret, ← Der.wholeBits? (← Der.all? (part? Der.bits) content)), rest)

/-- The public key that belongs to a key on the given curve. -/
def ofCurve? (curve : Curve) (bytes : List UInt8) : Option (List UInt8) := do
  let (secret, given) ← Der.all? (curveParts? curve) (← Der.all? (part? Der.sequence) bytes)
  guard (secret.length = curve.width)
  let key ← curve.publicKey? (Der.number secret)
  guard (key = given)
  return publicInfo (curveAlgorithm curve) key

/-- What an envelope holds. -/
structure Envelope where
  algorithm : List UInt8
  key : List UInt8
  /-- The public key, which envelopes of the second version hold. -/
  publicKey : Option (List UInt8)

/-- The public key at the end of an envelope, whose tag may be of an element with or without parts.
-/
def enclosedKey? (bytes : List UInt8) : Option (List UInt8) :=
  if bytes.head? = some (Der.numbered 1) then do
    Der.wholeBits? (← Der.all? (part? Der.bits) (← Der.all? (part? (Der.numbered 1)) bytes))
  else do
    Der.wholeBits? (← Der.all? (part? 0x81) bytes)

/-- The envelope that bytes are. Attributes are skipped. -/
def envelope? (bytes : List UInt8) : Option Envelope := do
  let (version, rest) ← whole? (← Der.all? (part? Der.sequence) bytes)
  let (algorithm, rest) ← part? Der.sequence rest
  let (key, rest) ← part? Der.octets rest
  let attributed := rest.head? == some (Der.numbered 0)
  let (_, rest) ← if attributed then part? (Der.numbered 0) rest else some ([], rest)
  match version with
  | 0 => do
    guard rest.isEmpty
    return ⟨algorithm, key, none⟩
  | 1 => do return ⟨algorithm, key, some (← enclosedKey? rest)⟩
  | _ => none

/-- The public key that belongs to a key on the Edwards curve, with the one that is given if any. -/
def ofEdwards? (bytes : List UInt8) (given : Option (List UInt8)) : Option (List UInt8) := do
  let seed ← Der.all? (part? Der.octets) bytes
  guard (seed.length = 32)
  let key := Edwards.publicKey seed
  guard (given.all (· == key))
  return publicInfo edwardsAlgorithm key

/-- The public key that belongs to a key in an envelope. Only for a key on the Edwards curve may the
envelope be of the second version. -/
def ofEnvelope? (bytes : List UInt8) : Option (List UInt8) := do
  let envelope ← envelope? bytes
  if envelope.algorithm = edwardsAlgorithm then ofEdwards? envelope.key envelope.publicKey
  else
    guard envelope.publicKey.isNone
    if envelope.algorithm = rsaAlgorithm then ofRsa? envelope.key
    else
      let curve ← [Curve.p256, Curve.p384].find? (envelope.algorithm == curveAlgorithm ·)
      ofCurve? curve envelope.key

end ClusterClient.Key
