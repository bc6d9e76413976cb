import ClusterClient.Der

/-!
# Certificates

What is asked of a certificate before it is used: that it has the form of one of the third version
with extensions that are understood, and which public key it is for. The signature is not checked,
because it is the other side's to check; nor are names and dates. A certificate of the first version
can only be trusted as it is (`Certificate.isAnchor`).
-/

namespace ClusterClient

/-- What is known of a certificate: the algorithm and the bits of the public key that it is for. -/
structure Certificate where
  publicKey : List UInt8
  deriving DecidableEq, Repr

namespace Certificate

/-- The length that no element of a certificate has. -/
def limit : Nat := 65535

/-- The content of the element at the front, which has the given tag. -/
def part? (tag : UInt8) : Der.Reader (List UInt8) := Der.content? limit tag

/-- An extension: what it is called, whether it must be understood, and what it says. -/
structure Extension where
  name : List UInt8
  critical : Bool
  value : List UInt8

namespace Extension

/-- Whether an extension must be understood. The value is left out if not. -/
def critical? : Der.Reader Bool := fun bytes =>
  if bytes.head? = some Der.truth then do
    let (value, rest) ← part? Der.truth bytes
    if value = [0xFF] then return (true, rest)
    else if value = [0x00] then return (false, rest)
    else none
  else some (false, bytes)

/-- The extension that an element holds. -/
def read? : Der.Reader Extension := fun bytes => do
  let (name, rest) ← part? Der.identifier bytes
  let (critical, rest) ← critical? rest
  let (value, rest) ← part? Der.octets rest
  return (⟨name, critical, value⟩, rest)

/-- The name of the uses that a key has. -/
def keyUsage : List UInt8 := [0x55, 0x1D, 15]

/-- The names that are understood: the uses of a key, other names of the holder, whether it may
sign, the names that it may sign for, where revocations are listed, and further uses. -/
def understood : List (List UInt8) :=
  keyUsage :: [17, 19, 30, 31, 37].map fun last => [0x55, 0x1D, last]

/-- Whether an extension is one that is understood and says something in its form, or need not be
understood. -/
def isSound (extension : Extension) : Bool :=
  if understood.contains extension.name then
    extension.name == keyUsage || (Der.all? (part? Der.sequence) extension.value).isSome
  else !extension.critical

end Extension

/-- The extensions in sequence; `fuel` bounds their number. -/
def extensions? : Nat → List UInt8 → Option (List Extension)
  | _, [] => some []
  | 0, _ => none
  | fuel + 1, bytes => do
    let (content, rest) ← part? Der.sequence bytes
    let extension ← Der.all? Extension.read? content
    return extension :: (← extensions? fuel rest)

/-- Whether a sequence of extensions is sound and says nothing understood twice. -/
def areSound (content : List UInt8) : Bool :=
  match extensions? content.length content with
  | none => false
  | some extensions =>
    extensions.all Extension.isSound
      && Extension.understood.all fun name => decide ((extensions.map (·.name)).count name ≤ 1)

/-- The signed part of a certificate and the algorithm of the signature. -/
def signed? (bytes : List UInt8) : Option (List UInt8 × List UInt8) := do
  let content ← Der.all? (part? Der.sequence) bytes
  let (body, rest) ← part? Der.sequence content
  let (algorithm, rest) ← part? Der.sequence rest
  let _ ← Der.wholeBits? (← Der.all? (part? Der.bits) rest)
  return (body, algorithm)

/-- What follows the version: the serial number, the algorithm of the signature, the issuer, the
dates, the subject and the public key. The algorithm and the public key are given. -/
def fields? : Der.Reader (List UInt8 × List UInt8) := fun bytes => do
  let (_, rest) ← part? Der.whole bytes
  let (algorithm, rest) ← part? Der.sequence rest
  let (_, rest) ← part? Der.sequence rest
  let (_, rest) ← part? Der.sequence rest
  let (_, rest) ← part? Der.sequence rest
  let (publicKey, rest) ← part? Der.sequence rest
  return ((algorithm, publicKey), rest)

/-- The certificate that bytes hold, if it is one of the third version. -/
def ofDer? (bytes : List UInt8) : Option Certificate := do
  let (body, algorithm) ← signed? bytes
  let (version, rest) ← part? (Der.numbered 0) body
  guard (version = Der.element Der.whole [2])
  let ((signature, publicKey), rest) ← fields? rest
  guard (signature = algorithm)
  if rest.isEmpty then return ⟨publicKey⟩
  else
    let content ← Der.all? (part? (Der.numbered 3)) rest
    guard (areSound (← Der.all? (part? Der.sequence) content))
    return ⟨publicKey⟩

/-- Whether bytes hold a certificate of the first version, which has neither a version nor
extensions. -/
def isFirstVersion (bytes : List UInt8) : Bool :=
  ((signed? bytes).bind fun parts => Der.all? fields? parts.1).isSome

/-- Whether bytes hold a certificate that can be trusted as it is. -/
def isAnchor (bytes : List UInt8) : Bool := (ofDer? bytes).isSome || isFirstVersion bytes

end Certificate
end ClusterClient
