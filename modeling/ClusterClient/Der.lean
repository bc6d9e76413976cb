/-!
# DER

The binary form of certificates and keys. An element is a tag, the length of its content and the
content; a length from 128 on is written behind a byte that says in how many bytes, which must not
be more than it needs. `Der.content?` reads an element, `Der.element` writes one.
-/

namespace ClusterClient.Der

/-- A reader of the bytes at the front. -/
abbrev Reader (α : Type) := List UInt8 → Option (α × List UInt8)

/-- The tag of a truth value. -/
def truth : UInt8 := 0x01

/-- The tag of a whole number. -/
def whole : UInt8 := 0x02

/-- The tag of a string of bits. -/
def bits : UInt8 := 0x03

/-- The tag of a string of bytes. -/
def octets : UInt8 := 0x04

/-- The tag of a name in the tree of object identifiers. -/
def identifier : UInt8 := 0x06

/-- The tag of elements in sequence. -/
def sequence : UInt8 := 0x30

/-- The tag of elements under a number of their own. -/
def numbered (number : Nat) : UInt8 := UInt8.ofNat (0xA0 + number)

/-- The number that bytes stand for, the greatest place first. -/
def number (bytes : List UInt8) : Nat := bytes.foldl (fun value byte => value * 256 + byte.toNat) 0

/-- The length at the front. Lengths have at most two bytes. -/
def length? : Reader Nat
  | 0x81 :: n :: rest => if n.toNat < 128 then none else some (n.toNat, rest)
  | 0x82 :: high :: low :: rest =>
    let n := high.toNat * 256 + low.toNat
    if n < 256 then none else some (n, rest)
  | n :: rest => if n.toNat < 128 then some (n.toNat, rest) else none
  | [] => none

/-- The content of the element at the front, which has the given tag and is shorter than the limit.
-/
def content? (limit : Nat) (tag : UInt8) : Reader (List UInt8)
  | [] => none
  | first :: rest => do
    guard (first = tag)
    let (length, rest) ← length? rest
    guard (length < limit ∧ length ≤ rest.length)
    return (rest.take length, rest.drop length)

/-- What a reader makes of all the bytes. -/
def all? {α : Type} (reader : Reader α) (bytes : List UInt8) : Option α := do
  let (value, rest) ← reader bytes
  guard rest.isEmpty
  return value

/-- The bytes of a string of whole bytes, from the content of an element. -/
def wholeBits? : List UInt8 → Option (List UInt8)
  | 0 :: bytes => some bytes
  | _ => none

/-- The bytes of the number that is not negative, from the content of an element, without the zero
that keeps a number from being negative. A needless zero is none of a number. -/
def magnitude? : List UInt8 → Option (List UInt8)
  | [] => none
  | [byte] => if byte.toNat < 128 then some [byte] else none
  | 0 :: byte :: rest => if byte.toNat < 128 then none else some (byte :: rest)
  | byte :: rest => if byte.toNat < 128 then some (byte :: rest) else none

/-- The bytes of a length. -/
def lengthBytes (n : Nat) : List UInt8 :=
  if n < 128 then [UInt8.ofNat n]
  else if n < 256 then [0x81, UInt8.ofNat n]
  else [0x82, UInt8.ofNat (n / 256), UInt8.ofNat (n % 256)]

/-- The element of a tag and its content. -/
def element (tag : UInt8) (content : List UInt8) : List UInt8 :=
  tag :: lengthBytes content.length ++ content

/-- The element of the number whose bytes are given, the first of which is not zero. -/
def wholeElement (magnitude : List UInt8) : List UInt8 :=
  element whole (if magnitude.head?.any fun byte => decide (128 ≤ byte.toNat) then 0 :: magnitude
    else magnitude)

end ClusterClient.Der
