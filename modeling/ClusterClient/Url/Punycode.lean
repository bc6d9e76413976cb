/-!
# Punycode

Decoding of the ASCII form of a label that has other characters. Behind the last dash stand the
differences between the positions of the characters to insert, as numbers of variable length whose
digit thresholds adapt as they go. All numbers have 32 bits.
-/

namespace ClusterClient.Url.Punycode

/-- The value of a digit. -/
def digit? (c : Char) : Option Nat :=
  if 'a' ≤ c ∧ c ≤ 'z' then some (c.toNat - 97)
  else if 'A' ≤ c ∧ c ≤ 'Z' then some (c.toNat - 65)
  else if c.isDigit then some (c.toNat - 48 + 26)
  else none

/-- The threshold of the digit at a position. -/
def threshold (position bias : Nat) : Nat :=
  if position ≤ bias then 1 else if bias + 26 ≤ position then 26 else position - bias

/-- The bias behind a number of which `delta` is left, if `bias` was added for what was divided
off. -/
def biasFor (delta bias : Nat) : Nat :=
  if 455 < delta then biasFor (delta / 35) (bias + 36) else bias + 36 * delta / (delta + 38)
termination_by delta
decreasing_by exact Nat.div_lt_self (by omega) (by omega)

/-- The bias behind a number, with how many characters there are now. -/
def adapt (delta count : Nat) (first : Bool) : Nat :=
  let halved := if first then delta / 700 else delta / 2
  biasFor (halved + halved / count) 0

/-- A number if 32 bits hold it. -/
def word? (n : Nat) : Option Nat := if n < 4294967296 then some n else none

/-- The number at the front of the digits, added to `index`, and the digits behind it. -/
def number? (bias position weight index : Nat) : List Char → Option (Nat × List Char)
  | [] => none
  | c :: cs => do
    let digit ← digit? c
    let index ← word? (index + digit * weight)
    let limit := threshold position bias
    if digit < limit then return (index, cs)
    else number? bias (position + 36) (← word? (weight * (36 - limit))) index cs

/-- The characters inserted one after the other; `fuel` bounds the number of digits. -/
def insertAll : Nat → List Char → Nat → Nat → Nat → List Char → Option (List Char)
  | _, output, _, _, _, [] => some output
  | 0, _, _, _, _, _ => none
  | fuel + 1, output, code, index, bias, digits => do
    let (total, rest) ← number? bias 36 1 index digits
    let count := output.length + 1
    let code := code + total / count
    guard (code < 0xD800 ∨ (0xDFFF < code ∧ code < 0x110000))
    let place := total % count
    let output := output.take place ++ Char.ofNat code :: output.drop place
    insertAll fuel output code (place + 1) (adapt (total - index) count (index == 0)) rest

/-- The characters in front of the last dash and those behind it. A dash at the front is no such
dash. -/
def parts (encoded : List Char) : List Char × List Char :=
  let behind := (encoded.reverse.takeWhile (· != '-')).reverse
  match encoded.take (encoded.length - behind.length - 1) with
  | [] => ([], encoded)
  | basic => (basic, behind)

/-- The label that an encoded one stands for. -/
def decode? (encoded : List Char) : Option (List Char) :=
  let (basic, digits) := parts encoded
  insertAll digits.length basic 128 0 72 digits

end ClusterClient.Url.Punycode
