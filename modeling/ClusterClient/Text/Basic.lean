/-!
# Digits, blanks and lines

What reading a text starts from: the values of digits of a base up to sixteen and of the numbers
that they write, the characters with the Unicode property White_Space and the texts made of them
alone, and the lines of a file.
-/

namespace ClusterClient

/-- The value of a digit of a base up to sixteen. -/
def digit? (base : Nat) (c : Char) : Option Nat :=
  let value :=
    if c.isDigit then c.toNat - 48
    else if 'a' ≤ c ∧ c ≤ 'f' then c.toNat - 87
    else if 'A' ≤ c ∧ c ≤ 'F' then c.toNat - 55
    else 16
  if value < base then some value else none

/-- The value of digits of a base; no digits are zero. -/
def digits? (base : Nat) (cs : List Char) : Option Nat :=
  cs.foldlM (fun value c => (digit? base c).map (value * base + ·)) 0

/-- The ranges of code points that have the property White_Space. -/
def blankRanges : List (Nat × Nat) :=
  [(0x09, 0x0D), (0x20, 0x20), (0x85, 0x85), (0xA0, 0xA0), (0x1680, 0x1680), (0x2000, 0x200A),
    (0x2028, 0x2029), (0x202F, 0x202F), (0x205F, 0x205F), (0x3000, 0x3000)]

/-- Whether a character has the property White_Space. -/
def isBlankChar (c : Char) : Bool :=
  blankRanges.any fun range => decide (range.1 ≤ c.toNat ∧ c.toNat ≤ range.2)

/-- Whether a text has no character but blank ones. -/
def isBlankText (text : String) : Bool := text.toList.all isBlankChar

example : isBlankText "\t\u3000 " = true ∧ isBlankText "\u200B" = false := by decide

/-! ## Lines of a file

A line ends at a line feed or at the end of the file. The line feed and one carriage return before
it are not part of the line; a carriage return at the end of the file is. A file that ends with a
line feed has no empty line behind it.
-/

namespace Line

/-- A line whose bytes are held last first, without the carriage return before its line feed. -/
def close : List UInt8 → List UInt8
  | 13 :: seen => seen.reverse
  | seen => seen.reverse

/-- The lines of the remaining bytes, the first of which starts with the bytes `seen`, held last
first. -/
def split (seen : List UInt8) : List UInt8 → List (List UInt8)
  | [] => if seen.isEmpty then [] else [seen.reverse]
  | byte :: bytes => if byte = 10 then close seen :: split [] bytes else split (byte :: seen) bytes

/-- The text of a line, if its bytes are UTF-8. -/
def text? (line : List UInt8) : Option String := String.fromUTF8? (ByteArray.mk line.toArray)

/-- The lines of a file, each a text if its bytes are UTF-8. -/
def ofFile (content : ByteArray) : List (Option String) := (split [] content.data.toList).map text?

end Line
end ClusterClient
