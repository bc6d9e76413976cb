import ClusterClient.Text.Basic

/-!
# Ranges of code points

A property of characters is written down in lines of words, each a code point in hexadecimal digits
or the first and the last code point of a range with a dash between them. The tables of the modules
beside this one hold the properties of Unicode 17.
-/

namespace ClusterClient

/-- The code points from the first to the last. -/
structure CodeRange where
  first : Nat
  last : Nat
  deriving DecidableEq, Repr

namespace CodeRange

/-- Whether a range holds a code point. -/
def holds (range : CodeRange) (code : Nat) : Bool :=
  decide (range.first ≤ code ∧ code ≤ range.last)

/-- The code point that hexadecimal digits stand for. -/
def code? (word : String) : Option Nat := digits? 16 word.toList

/-- The range that a word stands for. -/
def ofWord? (word : String) : Option CodeRange :=
  match word.splitOn "-" with
  | [code] => (code? code).map fun code => ⟨code, code⟩
  | [first, last] => do return ⟨← code? first, ← code? last⟩
  | _ => none

/-- The ranges that lines of words stand for. -/
def ofLines (lines : List String) : List CodeRange :=
  lines.flatMap fun line => (line.splitOn " ").filterMap ofWord?

end CodeRange

/-- Whether one of the ranges holds a code point. -/
def inRanges (ranges : List CodeRange) (code : Nat) : Bool := ranges.any (·.holds code)

end ClusterClient
