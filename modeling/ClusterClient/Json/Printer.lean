import ClusterClient.Json.Basic
import ClusterClient.Number.Layout

/-!
# Writing a JSON text

`Json.compact` writes a document without blanks, `Json.pretty` with one item or member on a line and
two blanks of indentation for each level. Both write the members of an object in the order of their
keys and escape quotes, backslashes and control characters, so a compact text has no control
character at all.
-/

namespace ClusterClient

/-- The hexadecimal digit of a value below sixteen. -/
def hexDigit (n : Nat) : Char := if n < 10 then Char.ofNat (48 + n) else Char.ofNat (87 + n)

namespace Json

/-- Numbers have a point while their leading digit stands for `10 ^ -5` to `10 ^ 15`. -/
def numberLayout : DecimalLayout := ⟨-5, 15⟩

/-- One character of a text: quotes and backslashes stand behind a backslash, control characters are
escaped by letter or by code. -/
def escapeChar (c : Char) : List Char :=
  if c = '\x22' then ['\\', '\x22']
  else if c = '\\' then ['\\', '\\']
  else if c = '\x08' then ['\\', 'b']
  else if c = '\x0c' then ['\\', 'f']
  else if c = '\n' then ['\\', 'n']
  else if c = '\r' then ['\\', 'r']
  else if c = '\t' then ['\\', 't']
  else if c.toNat < 0x20 then
    ['\\', 'u', '0', '0', hexDigit (c.toNat / 16), hexDigit (c.toNat % 16)]
  else [c]

/-- A text in quotes. -/
def quoted (text : String) : List Char := '\x22' :: (text.toList.flatMap escapeChar ++ ['\x22'])

/-- The text of a whole number. -/
def wholeText : Int → List Char
  | .ofNat n => decimalDigits n
  | .negSucc n => '-' :: decimalDigits (n + 1)

/-- The text of a number. -/
def numberText : JsonNumber → List Char
  | .whole n => wholeText n
  | .double d => numberLayout.text d

mutual

/-- The text of a document without blanks. -/
def compactChars : Json → List Char
  | .null => ['n', 'u', 'l', 'l']
  | .bool true => ['t', 'r', 'u', 'e']
  | .bool false => ['f', 'a', 'l', 's', 'e']
  | .number n => numberText n
  | .text t => quoted t
  | .array [] => ['[', ']']
  | .array (item :: items) => '[' :: (compactChars item ++ compactItems items ++ [']'])
  | .object [] => ['\x7b', '\x7d']
  | .object ((key, value) :: members) =>
    '\x7b' :: (quoted key ++ ':' :: compactChars value ++ compactMembers members ++ ['\x7d'])

/-- The items of an array after the first, each behind a comma. -/
def compactItems : List Json → List Char
  | [] => []
  | item :: items => ',' :: (compactChars item ++ compactItems items)

/-- The members of an object after the first, each behind a comma. -/
def compactMembers : List (String × Json) → List Char
  | [] => []
  | (key, value) :: members =>
    ',' :: (quoted key ++ ':' :: compactChars value ++ compactMembers members)

end

/-- The text of a document without blanks. -/
def compact (document : Json) : String := String.ofList document.compactChars

/-- A line break and the indentation of a level. -/
def lineBreak (level : Nat) : List Char := '\n' :: List.replicate (2 * level) ' '

mutual

/-- The text of a document whose first line is already indented to a level. -/
def prettyChars (level : Nat) : Json → List Char
  | .null => ['n', 'u', 'l', 'l']
  | .bool true => ['t', 'r', 'u', 'e']
  | .bool false => ['f', 'a', 'l', 's', 'e']
  | .number n => numberText n
  | .text t => quoted t
  | .array [] => ['[', ']']
  | .array (item :: items) =>
    '[' :: (lineBreak (level + 1) ++ prettyChars (level + 1) item ++ prettyItems (level + 1) items
      ++ lineBreak level ++ [']'])
  | .object [] => ['\x7b', '\x7d']
  | .object ((key, value) :: members) =>
    '\x7b' :: (lineBreak (level + 1) ++ quoted key ++ ':' :: ' ' :: prettyChars (level + 1) value
      ++ prettyMembers (level + 1) members ++ lineBreak level ++ ['\x7d'])

/-- The items of an array after the first, each on a line of its own. -/
def prettyItems (level : Nat) : List Json → List Char
  | [] => []
  | item :: items => ',' :: (lineBreak level ++ prettyChars level item ++ prettyItems level items)

/-- The members of an object after the first, each on a line of its own. -/
def prettyMembers (level : Nat) : List (String × Json) → List Char
  | [] => []
  | (key, value) :: members =>
    ',' :: (lineBreak level ++ quoted key ++ ':' :: ' ' :: prettyChars level value
      ++ prettyMembers level members)

end

/-- The text of a document over several lines. -/
def pretty (document : Json) : String := String.ofList (document.prettyChars 0)

end Json
end ClusterClient
