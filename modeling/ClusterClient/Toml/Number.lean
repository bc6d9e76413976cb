import ClusterClient.Number.Power
import ClusterClient.Toml.Basic
import ClusterClient.Toml.Text

/-!
# Numbers and moments of a TOML document

Whole numbers in four bases, floats, dates and times. Underscores may stand between two digits.
Whole numbers have 64 bits with a sign; a float beyond the greatest double is none. Dates and times
must be ones that exist.
-/

namespace ClusterClient.Toml

/-- Digits with single underscores between them, the underscores left out. -/
def spacedDigits? (isDigit : Char → Bool) : Nat → Reader (List Char)
  | fuel + 1, c :: cs =>
    if isDigit c then
      match cs with
      | '_' :: rest => do
        let (digits, rest) ← spacedDigits? isDigit fuel rest
        return (c :: digits, rest)
      | next :: _ =>
        if isDigit next then do
          let (digits, rest) ← spacedDigits? isDigit fuel cs
          return (c :: digits, rest)
        else some ([c], cs)
      | [] => some ([c], [])
    else none
  | _, _ => none

/-- The value of digits of a base. -/
def digitsValue (base : Nat) (digits : List Char) : Nat :=
  digits.foldl (fun value c => value * base + (hexValue? c).getD 0) 0

/-- A whole number of a base other than ten, behind its mark. -/
def based? (base : Nat) : Reader TomlValue := fun cs => do
  let isDigit (c : Char) : Bool := ((hexValue? c).map (decide <| · < base)).getD false
  let (digits, rest) ← spacedDigits? isDigit cs.length cs
  let value := digitsValue base digits
  guard (value < twoTo 63)
  return (.whole value, rest)

/-- Whether the number has a minus sign, and what stands behind its sign. -/
def sign : List Char → Bool × List Char
  | '-' :: cs => (true, cs)
  | '+' :: cs => (false, cs)
  | cs => (false, cs)

/-- The digits before the point: a zero alone, or digits that do not start with one. -/
def wholeDigits? : Reader (List Char)
  | '0' :: cs => some (['0'], cs)
  | cs => spacedDigits? Char.isDigit cs.length cs

/-- The exponent behind its letter. -/
def exponent? (cs : List Char) : Option ((Bool × List Char) × List Char) := do
  let (negative, cs) := sign cs
  let (digits, rest) ← spacedDigits? Char.isDigit cs.length cs
  return ((negative, digits), rest)

/-- Whether a decimal with the given digits and exponent is below the point from which on numbers
round beyond the greatest double. -/
def isFinite (whole fraction : List Char) (exponent : Bool × List Char) : Bool :=
  let digits := whole ++ fraction
  let value := digitsValue 10 digits
  let size := digitsValue 10 exponent.2
  let limit := twoTo 1024 - twoTo 970
  if value = 0 then true
  else if exponent.1 then
    decide (digits.length < size) || decide (value < limit * tenTo (fraction.length + size))
  else if fraction.length + 310 < size then false
  else decide (value * tenTo size < limit * tenTo fraction.length)

/-- A float or a whole number in decimal digits, behind its sign. -/
def decimal? (negative : Bool) : Reader TomlValue := fun cs => do
  let (whole, rest) ← wholeDigits? cs
  match rest with
  | '.' :: rest => do
    let (fraction, rest) ← spacedDigits? Char.isDigit rest.length rest
    match rest with
    | c :: rest' =>
      if c = 'e' ∨ c = 'E' then do
        let (exponent, rest) ← exponent? rest'
        guard (negative || isFinite whole fraction exponent)
        return (.float, rest)
      else do
        guard (negative || isFinite whole fraction (false, []))
        return (.float, rest)
    | [] => do
      guard (negative || isFinite whole fraction (false, []))
      return (.float, [])
  | c :: rest' =>
    if c = 'e' ∨ c = 'E' then do
      let (exponent, rest) ← exponent? rest'
      guard (negative || isFinite whole [] exponent)
      return (.float, rest)
    else wholeValue negative whole rest
  | [] => wholeValue negative whole []
where
  /-- The whole number of the given digits, if 64 bits hold it. -/
  wholeValue (negative : Bool) (digits : List Char) (rest : List Char) :
      Option (TomlValue × List Char) :=
    let magnitude := digitsValue 10 digits
    if negative then
      if magnitude ≤ twoTo 63 then some (.whole (-(magnitude : Int)), rest) else none
    else if magnitude < twoTo 63 then some (.whole magnitude, rest)
    else none

/-- Exactly the given number of digits, as a number between two bounds. -/
def field? (count least greatest : Nat) : Reader Nat := fun cs => do
  let digits := cs.take count
  guard (digits.length = count ∧ digits.all Char.isDigit)
  let value := digitsValue 10 digits
  guard (least ≤ value ∧ value ≤ greatest)
  return (value, cs.drop count)

/-- What stands behind a given character. -/
def skip? (expected : Char) : List Char → Option (List Char)
  | c :: cs => if c = expected then some cs else none
  | [] => none

/-- How many days a month has. -/
def daysIn (year month : Nat) : Nat :=
  if month = 2 then
    if year % 4 = 0 ∧ (year % 100 ≠ 0 ∨ year % 400 = 0) then 29 else 28
  else if month = 4 ∨ month = 6 ∨ month = 9 ∨ month = 11 then 30
  else 31

/-- A date, as it is written. -/
def date? : Reader (List Char) := fun cs => do
  let (year, rest) ← field? 4 0 9999 cs
  let (month, rest) ← field? 2 1 12 (← skip? '-' rest)
  let (_, rest) ← field? 2 1 (daysIn year month) (← skip? '-' rest)
  return (cs.take 10, rest)

/-- The fraction of a second in the fewest digits, of which there are at most nine; digits behind
them are left out. -/
def fractionText (digits : List Char) : List Char :=
  match ((digits.take 9).reverse.dropWhile (· == '0')).reverse with
  | [] => []
  | kept => '.' :: kept

/-- A time of day, whose seconds may have a fraction, in its normal form. -/
def time? : Reader (List Char) := fun cs => do
  let (_, rest) ← field? 2 0 23 cs
  let (_, rest) ← field? 2 0 59 (← skip? ':' rest)
  let (_, rest) ← field? 2 0 60 (← skip? ':' rest)
  match rest with
  | '.' :: behind => do
    let digits := behind.takeWhile Char.isDigit
    guard (!digits.isEmpty)
    return (cs.take 8 ++ fractionText digits, behind.drop digits.length)
  | rest => return (cs.take 8, rest)

/-- The distance from universal time in its normal form, empty if none is given. No distance is
written with a plus sign, or as `Z` if it was a letter. -/
def offset? : Reader (List Char) := fun cs =>
  match cs with
  | [] => some ([], [])
  | c :: rest =>
    if c = 'Z' ∨ c = 'z' then some (['Z'], rest)
    else if c = '+' ∨ c = '-' then do
      let (hours, behind) ← field? 2 0 23 rest
      let (minutes, behind) ← field? 2 0 59 (← skip? ':' behind)
      let written := if hours = 0 ∧ minutes = 0 then '+' else c
      return (written :: rest.take 5, behind)
    else some ([], c :: rest)

/-- Whether a time of day starts with these characters. -/
def startsTime : List Char → Bool
  | a :: b :: ':' :: _ => a.isDigit && b.isDigit
  | _ => false

/-- The normal form of a date, a time of day, or both with a `T` between them. -/
def momentText? : Reader (List Char) := fun cs =>
  if startsTime cs then time? cs
  else do
    let (date, rest) ← date? cs
    match rest with
    | c :: behind =>
      if (c = 'T' ∨ c = 't' ∨ c = ' ') ∧ startsTime behind then do
        let (time, behind) ← time? behind
        let (offset, behind) ← offset? behind
        return (date ++ 'T' :: time ++ offset, behind)
      else return (date, rest)
    | [] => return (date, [])

/-- A date, a time of day, or both. -/
def moment? : Reader TomlValue := fun cs => do
  let (text, rest) ← momentText? cs
  return (.moment (String.ofList text), rest)

/-- Whether a moment starts with these characters: four digits and a dash, or two and a colon. -/
def startsMoment (cs : List Char) : Bool :=
  startsTime cs ||
    match cs with
    | a :: b :: c :: d :: '-' :: _ => a.isDigit && b.isDigit && c.isDigit && d.isDigit
    | _ => false

/-- A number or a moment. -/
def number? (cs : List Char) : Option (TomlValue × List Char) :=
  if startsMoment cs then moment? cs
  else
    match cs with
    | '0' :: 'x' :: rest => based? 16 rest
    | '0' :: 'o' :: rest => based? 8 rest
    | '0' :: 'b' :: rest => based? 2 rest
    | cs =>
      let (negative, unsigned) := sign cs
      match unsigned with
      | 'i' :: 'n' :: 'f' :: rest => some (.float, rest)
      | 'n' :: 'a' :: 'n' :: rest => some (.float, rest)
      | unsigned => decimal? negative unsigned

end ClusterClient.Toml
