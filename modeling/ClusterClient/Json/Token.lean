import ClusterClient.Json.Numeral

/-!
# Tokens of a JSON text

A JSON text is cut into tokens by an automaton that reads one character at a time: `Token.Mode` is
what it is in the middle of, `Token.step` one character, `Token.scan` the whole text. Blanks
separate tokens and are not tokens; outside texts they are space, tab, line feed and carriage
return, and nothing else. In a text, control characters must be escaped and escaped UTF-16
surrogates must pair.
-/

namespace ClusterClient

/-- A token of a JSON text. -/
inductive Token where
  | openArray
  | closeArray
  | openObject
  | closeObject
  | comma
  | colon
  | null
  | bool (value : Bool)
  | number (value : JsonNumber)
  | text (value : String)
  deriving Repr, DecidableEq

namespace Token

/-- What the automaton is in the middle of. The characters of an unfinished token are held last
first. -/
inductive Mode where
  /-- Between two tokens. -/
  | gap
  /-- In a number or one of the words `null`, `true` and `false`. -/
  | word (seen : List Char)
  /-- In a text. -/
  | text (seen : List Char)
  /-- Behind a backslash in a text. -/
  | escape (seen : List Char)
  /-- In the four hexadecimal digits of an escape, after `count` of them, worth `value`; `lead` is
  the leading surrogate before it. -/
  | unit (seen : List Char) (lead : Option Nat) (count value : Nat)
  /-- Behind a leading surrogate, where a backslash must follow. -/
  | lead (seen : List Char) (surrogate : Nat)
  /-- Behind a leading surrogate and a backslash, where a `u` must follow. -/
  | leadEscape (seen : List Char) (surrogate : Nat)
  deriving Repr, DecidableEq

/-- A character that may stand between tokens. -/
def isBlank (c : Char) : Bool := c == ' ' || c == '\t' || c == '\n' || c == '\r'

/-- A character of a number or a word. -/
def isWordChar (c : Char) : Bool := c.isAlphanum || c == '-' || c == '+' || c == '.'

/-- The token that is one punctuation character. -/
def ofPunctuation? (c : Char) : Option Token :=
  if c = '[' then some .openArray
  else if c = ']' then some .closeArray
  else if c = '\x7b' then some .openObject
  else if c = '\x7d' then some .closeObject
  else if c = ',' then some .comma
  else if c = ':' then some .colon
  else none

/-- The token that a word spells. -/
def ofWord? (word : List Char) : Option Token :=
  if word = ['n', 'u', 'l', 'l'] then some .null
  else if word = ['t', 'r', 'u', 'e'] then some (.bool true)
  else if word = ['f', 'a', 'l', 's', 'e'] then some (.bool false)
  else do
    let numeral ← Numeral.ofChars? word
    return .number (← numeral.value?)

/-- The character that a letter behind a backslash stands for. -/
def ofEscape? (c : Char) : Option Char :=
  if c = '\x22' ∨ c = '\\' ∨ c = '/' then some c
  else if c = 'b' then some '\x08'
  else if c = 'f' then some '\x0c'
  else if c = 'n' then some '\n'
  else if c = 'r' then some '\r'
  else if c = 't' then some '\t'
  else none

/-- The value of a hexadecimal digit of either case. -/
def hexValue? (c : Char) : Option Nat :=
  if c.isDigit then some (c.toNat - '0'.toNat)
  else if 'a' ≤ c ∧ c ≤ 'f' then some (c.toNat - 'a'.toNat + 10)
  else if 'A' ≤ c ∧ c ≤ 'F' then some (c.toNat - 'A'.toNat + 10)
  else none

/-- A code unit that opens a surrogate pair. -/
def isLead (unit : Nat) : Bool := decide (0xD800 ≤ unit ∧ unit < 0xDC00)

/-- A code unit that closes a surrogate pair. -/
def isTrail (unit : Nat) : Bool := decide (0xDC00 ≤ unit ∧ unit < 0xE000)

/-- The mode after the last digit of an escape: a lone unit is a character unless it is a surrogate,
and a leading surrogate must be followed by a trailing one. -/
def afterUnit? (seen : List Char) (lead : Option Nat) (unit : Nat) : Option Mode :=
  match lead with
  | none =>
    if isLead unit then some (.lead seen unit)
    else if isTrail unit then none
    else some (.text (Char.ofNat unit :: seen))
  | some first =>
    if isTrail unit then
      some (.text (Char.ofNat (0x10000 + (first - 0xD800) * 0x400 + (unit - 0xDC00)) :: seen))
    else none

/-- The mode after a character between tokens, and the token it is. -/
def stepGap (c : Char) : Option (List Token × Mode) :=
  if isBlank c then some ([], .gap)
  else if c = '\x22' then some ([], .text [])
  else if isWordChar c then some ([], .word [c])
  else (ofPunctuation? c).map fun token => ([token], .gap)

/-- The mode after one more character, and the tokens it completes. -/
def step : Mode → Char → Option (List Token × Mode)
  | .gap, c => stepGap c
  | .word seen, c =>
    if isWordChar c then some ([], .word (c :: seen))
    else do
      let token ← ofWord? seen.reverse
      let (tokens, mode) ← stepGap c
      return (token :: tokens, mode)
  | .text seen, c =>
    if c = '\x22' then some ([.text (String.ofList seen.reverse)], .gap)
    else if c = '\\' then some ([], .escape seen)
    else if c.toNat < 0x20 then none
    else some ([], .text (c :: seen))
  | .escape seen, c =>
    if c = 'u' then some ([], .unit seen none 0 0)
    else (ofEscape? c).map fun char => ([], .text (char :: seen))
  | .unit seen lead count value, c => do
    let digit ← hexValue? c
    let value := value * 16 + digit
    let mode ←
      if count = 3 then afterUnit? seen lead value else some (.unit seen lead (count + 1) value)
    return ([], mode)
  | .lead seen surrogate, c =>
    if c = '\\' then some ([], .leadEscape seen surrogate) else none
  | .leadEscape seen surrogate, c =>
    if c = 'u' then some ([], .unit seen (some surrogate) 0 0) else none

/-- The token that the end of the text completes. -/
def finish : Mode → Option (List Token)
  | .gap => some []
  | .word seen => (ofWord? seen.reverse).map ([·])
  | _ => none

/-- The tokens of a text from a mode on. -/
def scan : Mode → List Char → Option (List Token)
  | mode, [] => finish mode
  | mode, c :: cs => do
    let (tokens, next) ← step mode c
    return tokens ++ (← scan next cs)

/-- The tokens of a whole text. -/
def ofChars? (cs : List Char) : Option (List Token) := scan .gap cs

end Token
end ClusterClient
