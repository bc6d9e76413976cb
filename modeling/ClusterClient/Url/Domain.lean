import ClusterClient.Text.Composition
import ClusterClient.Text.Direction
import ClusterClient.Text.Joining
import ClusterClient.Url.Mapping
import ClusterClient.Url.Punycode

/-!
# Domain names

Names of hosts may be written in any script. `Domain.normal?` gives the form in which names are
compared: percent escapes are decoded, characters are mapped and composed, and each label is checked
as one of an international name. It fails on names that no host may have.
-/

namespace ClusterClient.Url.Domain

/-- An ASCII character that no host name may hold: a control character or one that has a meaning in
a URL. -/
def isForbidden (c : Char) : Bool :=
  let code := c.toNat
  decide (code ≤ 0x20) || code == 0x7F
    || ['#', '%', '/', ':', '<', '>', '?', '@', '[', '\\', ']', '^', '|'].contains c

/-- Whether a character is one of ASCII. -/
def isAscii (c : Char) : Bool := decide (c.toNat < 0x80)

/-- The value of a byte that is a hexadecimal digit. -/
def hexValue? (byte : UInt8) : Option Nat := digit? 16 (Char.ofNat byte.toNat)

/-- The bytes of a text with its percent escapes decoded; a percent sign without two hexadecimal
digits stands for itself. -/
def percentDecode : List UInt8 → List UInt8
  | 37 :: high :: low :: rest =>
    match hexValue? high, hexValue? low with
    | some h, some l => UInt8.ofNat (h * 16 + l) :: percentDecode rest
    | _, _ => 37 :: percentDecode (high :: low :: rest)
  | byte :: rest => byte :: percentDecode rest
  | [] => []

/-- The labels of a name, the first of which starts with `seen`, held last first. -/
def labels (seen : List Char) : List Char → List (List Char)
  | [] => [seen.reverse]
  | c :: cs => if c = '.' then seen.reverse :: labels [] cs else labels (c :: seen) cs

/-- The text with its characters mapped and composed, if all of them may stand in a host name. -/
def mapped? (cs : List Char) : Option (List Char) := do
  return Composition.composed (← cs.mapM Mapping.image?).flatten

/-- The label that a mapped one stands for, which is another one if its ASCII form was given. That
form has no more than 2000 characters behind its mark, and what it stands for is already mapped. -/
def decoded? : List Char → Option (List Char)
  | 'x' :: 'n' :: '-' :: '-' :: encoded => do
    guard (encoded.all isAscii && encoded.getLast?.any (· != '-'))
    guard (encoded.length ≤ 2000)
    let label ← Punycode.decode? encoded
    guard (mapped? label == some label && !label.any isForbidden && !label.contains '.')
    return label
  | label => some label

/-- Whether a label may stand in a host name: it starts with no mark, its joints are where letters
join, and it has no more than 1000 characters unless all of them are ASCII. -/
def isLabel (label : List Char) : Bool :=
  !label.head?.any Mark.isMark && Joining.isSound [] label
    && (label.all isAscii || decide (label.length ≤ 1000))

/-- The form of a host name in which names are compared, if it may be one. Labels with other than
ASCII characters are left as they are, which no later check can tell from their ASCII form. -/
def normal? (host : List Char) : Option (List Char) := do
  let bytes := percentDecode (host.flatMap String.utf8EncodeChar)
  let text ← String.fromUTF8? (ByteArray.mk bytes.toArray)
  let name ← mapped? text.toList
  guard (!name.any isForbidden)
  let labels ← (labels [] name).mapM decoded?
  guard (labels.all isLabel && Direction.keepsApart labels)
  return name

end ClusterClient.Url.Domain
