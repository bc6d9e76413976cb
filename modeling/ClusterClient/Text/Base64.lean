/-!
# Base64

Decoding with the standard alphabet. Blanks between the characters are skipped. The last group of
four characters may be short by one or two, or be filled up with as many padding characters; what
the bits that are left over say makes no difference.
-/

namespace ClusterClient.Base64

/-- The six bits that a character stands for. -/
def value? (byte : UInt8) : Option Nat :=
  let n := byte.toNat
  if 65 ≤ n ∧ n ≤ 90 then some (n - 65)
  else if 97 ≤ n ∧ n ≤ 122 then some (n - 97 + 26)
  else if 48 ≤ n ∧ n ≤ 57 then some (n - 48 + 52)
  else if n = 43 then some 62
  else if n = 47 then some 63
  else none

/-- A byte that may stand between the characters: space, tab, line feed, vertical tab, form feed or
carriage return. -/
def isBlank (byte : UInt8) : Bool := byte == 32 || decide (9 ≤ byte.toNat ∧ byte.toNat ≤ 13)

/-- The bytes of groups of four characters, of which only the last may be short or filled up. -/
def bytes? : List UInt8 → Option (List UInt8)
  | [] => some []
  | [a, b] => pair? a b
  | [a, b, 61, 61] => pair? a b
  | [a, b, c] => triple? a b c
  | [a, b, c, 61] => triple? a b c
  | a :: b :: c :: d :: rest => do
    let front ← triple? a b c
    let last := UInt8.ofNat ((← value? c) % 4 * 64 + (← value? d))
    return front ++ last :: (← bytes? rest)
  | [_] => none
where
  /-- The byte of two characters. -/
  pair? (a b : UInt8) : Option (List UInt8) := do
    return [UInt8.ofNat ((← value? a) * 4 + (← value? b) / 16)]
  /-- The bytes of three characters. -/
  triple? (a b c : UInt8) : Option (List UInt8) := do
    return (← pair? a b) ++ [UInt8.ofNat ((← value? b) % 16 * 16 + (← value? c) / 4)]

/-- The bytes that a text stands for. -/
def decode? (text : List UInt8) : Option (List UInt8) := bytes? (text.filter (!isBlank ·))

end ClusterClient.Base64
