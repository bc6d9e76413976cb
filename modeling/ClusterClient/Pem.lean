import ClusterClient.Text.Base64

/-!
# PEM files

A PEM file holds labelled sections of base64 between a `BEGIN` and an `END` line; text outside them
and sections of unknown labels are skipped. `Pem.sections?` fails on a file that does not keep to
the form: a `BEGIN` line without its five closing dashes, a section of a known label that is not
base64, or one that never ends.
-/

namespace ClusterClient.Pem

/-- What a section holds. -/
inductive Label where
  | certificate
  /-- A private key in an envelope that names its algorithm. -/
  | key
  /-- A private key in the form of RSA keys. -/
  | rsaKey
  /-- A private key in the form of keys on elliptic curves. -/
  | curveKey
  | other
  deriving DecidableEq, Repr

/-- The bytes of a text of ASCII characters. -/
def ascii (text : String) : List UInt8 := text.toList.map fun c => UInt8.ofNat c.toNat

/-- The labels that are known; of the others nothing is decoded. -/
def label? (name : List UInt8) : Option Label :=
  if name = ascii "CERTIFICATE" then some .certificate
  else if name = ascii "PRIVATE KEY" then some .key
  else if name = ascii "RSA PRIVATE KEY" then some .rsaKey
  else if name = ascii "EC PRIVATE KEY" then some .curveKey
  else if name = ascii "PUBLIC KEY" ∨ name = ascii "X509 CRL" ∨ name = ascii "CERTIFICATE REQUEST"
      ∨ name = ascii "ECHCONFIG" then some .other
  else none

/-- The lines of a file; a line feed and a carriage return each end one. -/
def lines (seen : List UInt8) : List UInt8 → List (List UInt8)
  | [] => if seen.isEmpty then [] else [seen.reverse]
  | byte :: bytes =>
    if byte = 10 ∨ byte = 13 then seen.reverse :: lines [] bytes else lines (byte :: seen) bytes

/-- The number of dashes at the front, between which there may be blanks, and what follows them. -/
def dashes : List UInt8 → Nat × List UInt8
  | [] => (0, [])
  | byte :: bytes =>
    if byte = 45 then
      let (count, rest) := dashes bytes
      (count + 1, rest)
    else if byte = 32 then
      let (count, rest) := dashes bytes
      if count = 0 then (0, byte :: bytes) else (count, rest)
    else (0, byte :: bytes)

/-- The label of a `BEGIN` line, which must close with five dashes. Blanks may follow each of them.
-/
def beginLabel? (line : List UInt8) : Option (List UInt8) :=
  let (count, front) := dashes line.reverse
  if count = 5 then some (front.reverse.drop 11) else none

/-- The section that is open: its label and the base64 so far. -/
structure Open where
  name : List UInt8
  body : List UInt8

/-- The sections of the remaining lines. -/
def sections? (current : Option Open) : List (List UInt8) → Option (List (Label × List UInt8))
  | [] => if current.isNone then some [] else none
  | line :: rest =>
    if (ascii "-----BEGIN ").isPrefixOf line then do
      let name ← beginLabel? line
      sections? (some ⟨name, (current.map (·.body)).getD []⟩) rest
    else
      match current with
      | none => sections? none rest
      | some held =>
        if (ascii "-----END " ++ held.name ++ ascii "-----").isPrefixOf line then
          match label? held.name with
          | none => sections? none rest
          | some label => do
            let content ← Base64.decode? held.body
            let tail ← sections? none rest
            return (label, content) :: tail
        else sections? (some { held with body := held.body ++ line }) rest

/-- The sections of a file. -/
def ofFile? (content : List UInt8) : Option (List (Label × List UInt8)) :=
  sections? none (lines [] content)

end ClusterClient.Pem
