/-!
# Texts of a TOML document

Reading of the four kinds of quoted text and of what stands between values. Each reader takes the
characters at the front and gives back what they say and the characters behind them.
-/

namespace ClusterClient.Toml

/-- A reader of the characters at the front. -/
abbrev Reader (α : Type) := List Char → Option (α × List Char)

/-- Space or tab. -/
def isSpace (c : Char) : Bool := c == ' ' || c == '\t'

/-- A character that may stand in a comment or, its own marks apart, in a text on one line: not a
control character, except the tab. -/
def isPrintable (c : Char) : Bool := c == '\t' || (decide (0x20 ≤ c.toNat) && c.toNat != 0x7F)

/-- What stands behind the spaces and tabs at the front. -/
def skipSpace (cs : List Char) : List Char := cs.dropWhile isSpace

/-- What stands behind the line break at the front. -/
def lineBreak? : List Char → Option (List Char)
  | '\n' :: cs => some cs
  | '\r' :: '\n' :: cs => some cs
  | _ => none

/-- What stands behind the comment at the front, if there is one. -/
def skipComment (cs : List Char) : List Char :=
  match cs with
  | '#' :: rest => rest.dropWhile isPrintable
  | cs => cs

/-- What stands behind the rest of a line that holds nothing more, or nothing but a comment. -/
def endLine? (cs : List Char) : Option (List Char) :=
  match skipComment (skipSpace cs) with
  | [] => some []
  | cs => lineBreak? cs

/-- What stands behind blanks, comments and line breaks; `fuel` bounds the number of lines. -/
def skipLines : Nat → List Char → Option (List Char)
  | 0, cs => some cs
  | fuel + 1, cs =>
    match skipSpace cs with
    | '#' :: rest => do skipLines fuel (← lineBreak? (skipComment ('#' :: rest)))
    | cs =>
      match lineBreak? cs with
      | some rest => skipLines fuel rest
      | none => some cs

/-- The value of a hexadecimal digit. -/
def hexValue? (c : Char) : Option Nat :=
  if c.isDigit then some (c.toNat - 48)
  else if 'a' ≤ c ∧ c ≤ 'f' then some (c.toNat - 87)
  else if 'A' ≤ c ∧ c ≤ 'F' then some (c.toNat - 55)
  else none

/-- The character that hexadecimal digits of the given number name. -/
def codePoint? (count : Nat) : Reader Char := fun cs => do
  let digits := cs.take count
  guard (digits.length = count)
  let code ← digits.foldlM (fun value c => (hexValue? c).map (value * 16 + ·)) 0
  guard (code < 0xD800 ∨ (0xDFFF < code ∧ code < 0x110000))
  return (Char.ofNat code, cs.drop count)

/-- The character that stands behind a backslash. -/
def escaped? : Reader Char
  | 'b' :: cs => some ('\x08', cs)
  | 'f' :: cs => some ('\x0c', cs)
  | 'n' :: cs => some ('\n', cs)
  | 'r' :: cs => some ('\r', cs)
  | 't' :: cs => some ('\t', cs)
  | '\x22' :: cs => some ('\x22', cs)
  | '\\' :: cs => some ('\\', cs)
  | 'u' :: cs => codePoint? 4 cs
  | 'U' :: cs => codePoint? 8 cs
  | _ => none

/-- The rest of a basic text on one line, behind the characters `seen`, held last first; `fuel`
bounds its length. -/
def basicRest : Nat → List Char → Reader String
  | 0, _, _ => none
  | _ + 1, _, [] => none
  | fuel + 1, seen, c :: cs =>
    if c = '\x22' then some (String.ofList seen.reverse, cs)
    else if c = '\\' then do
      let (char, cs) ← escaped? cs
      basicRest fuel (char :: seen) cs
    else if isPrintable c then basicRest fuel (c :: seen) cs
    else none

/-- The rest of a literal text on one line. -/
def literalRest (cs : List Char) : Option (String × List Char) :=
  let body := cs.takeWhile fun c => isPrintable c && c != '\x27'
  match cs.drop body.length with
  | '\x27' :: rest => some (String.ofList body, rest)
  | _ => none

/-- What stands behind a backslash at the end of a line: the next character that is neither blank
nor a line break. -/
def skipContinuation (fuel : Nat) (cs : List Char) : Option (List Char) := do
  let rest ← lineBreak? (skipSpace cs)
  return strip fuel rest
where
  /-- What stands behind blanks and line breaks. -/
  strip : Nat → List Char → List Char
    | 0, cs => cs
    | fuel + 1, cs =>
      match lineBreak? (skipSpace cs) with
      | some rest => strip fuel rest
      | none => skipSpace cs

/-- The rest of a text over several lines, closed by three quotes, before which two more may stand
as part of it. `escapes` says whether a backslash has its meaning. -/
def multiRest (quote : Char) (escapes : Bool) : Nat → List Char → Reader String
  | 0, _, _ => none
  | _ + 1, _, [] => none
  | fuel + 1, seen, c :: cs =>
    if c = quote then
      let quotes := (c :: cs).takeWhile (· == quote)
      let rest := (c :: cs).drop quotes.length
      if quotes.length ≤ 2 then multiRest quote escapes fuel (quotes ++ seen) rest
      else if quotes.length ≤ 5 then
        some (String.ofList (quotes.drop 3 ++ seen).reverse, rest)
      else none
    else if c = '\\' ∧ escapes then
      match skipContinuation cs.length cs with
      | some rest => multiRest quote escapes fuel seen rest
      | none => do
        let (char, rest) ← escaped? cs
        multiRest quote escapes fuel (char :: seen) rest
    else
      match lineBreak? (c :: cs) with
      | some rest => multiRest quote escapes fuel ('\n' :: seen) rest
      | none => if isPrintable c then multiRest quote escapes fuel (c :: seen) cs else none

/-- A line break right behind the opening quotes is not part of a text over several lines. -/
def skipFirstBreak (cs : List Char) : List Char := (lineBreak? cs).getD cs

/-- A quoted text on one line, as a key may be. -/
def lineText? : Reader String
  | '\x22' :: cs => basicRest (cs.length + 1) [] cs
  | '\x27' :: cs => literalRest cs
  | _ => none

/-- A quoted text of any of the four kinds. -/
def text? (cs : List Char) : Option (String × List Char) :=
  match cs with
  | '\x22' :: '\x22' :: '\x22' :: rest =>
    multiRest '\x22' true (rest.length + 1) [] (skipFirstBreak rest)
  | '\x27' :: '\x27' :: '\x27' :: rest =>
    multiRest '\x27' false (rest.length + 1) [] (skipFirstBreak rest)
  | cs => lineText? cs

end ClusterClient.Toml
