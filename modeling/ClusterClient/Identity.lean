import ClusterClient.Certificate
import ClusterClient.Key.PrivateKey
import ClusterClient.Pem

/-!
# Identities

What identifies a client to a server: a chain of certificates, of which the first is its own, and
the private key that belongs to it.
-/

namespace ClusterClient

/-- A chain of certificates and a private key. -/
structure Identity where
  certificate : List UInt8
  /-- The form in which the key is written. -/
  label : Pem.Label
  key : List UInt8
  deriving DecidableEq, Repr

namespace Identity

/-- The identity in a file: the first certificate and the last key of a file that keeps to the form
and holds certificates and private keys and nothing else. -/
def ofFile? (content : List UInt8) : Option Identity := do
  let sections ← Pem.ofFile? content
  guard (sections.all (·.1 != .other))
  let certificate ← sections.find? (·.1 == .certificate)
  let key ← sections.reverse.find? (·.1 != .certificate)
  return ⟨certificate.2, key.1, key.2⟩

/-- The public key that belongs to the private one. -/
def publicKey? (identity : Identity) : Option (List UInt8) :=
  match identity.label with
  | .key => Key.ofEnvelope? identity.key
  | .rsaKey => Key.ofRsa? identity.key
  | .curveKey =>
    Key.ofCurve? Key.Curve.p256 identity.key <|> Key.ofCurve? Key.Curve.p384 identity.key
  | .certificate | .other => none

/-- Whether the certificate is for the public key that belongs to the private one. -/
def isUsable (identity : Identity) : Bool :=
  match identity.publicKey?, Certificate.ofDer? identity.certificate with
  | some key, some certificate => certificate.publicKey == key
  | _, _ => false

end Identity
end ClusterClient
