import ClusterClient.Toml.Number

/-!
# Reading a TOML document

`Toml.parse?` reads a document of TOML 1.0, which may start with a byte order mark. Arrays and
tables in braces may be nested at most 79 deep, and a key may have at most 79 parts.
-/

namespace ClusterClient.Toml

/-- How deep values may be nested, and how many parts a key may have. -/
def depthLimit : Nat := 79

/-- A character of a key without quotes. -/
def isBareKeyChar (c : Char) : Bool := c.isAlphanum || c == '_' || c == '-'

/-- One part of a key. -/
def keyPart? (cs : List Char) : Option (String × List Char) :=
  match cs with
  | '\x22' :: _ | '\x27' :: _ => lineText? cs
  | cs =>
    let bare := cs.takeWhile isBareKeyChar
    if bare.isEmpty then none else some (String.ofList bare, cs.drop bare.length)

/-- The parts of a key between dots, with the blanks around them; `fuel` bounds their number. -/
def keyParts? : Nat → Reader (List String)
  | 0, _ => none
  | fuel + 1, cs => do
    let (part, rest) ← keyPart? (skipSpace cs)
    match skipSpace rest with
    | '.' :: rest => do
      let (parts, rest) ← keyParts? fuel rest
      return (part :: parts, rest)
    | rest => return ([part], rest)

/-- A key: the tables it leads through and its name in the last of them. -/
def key? (cs : List Char) : Option ((List String × String) × List Char) := do
  let (parts, rest) ← keyParts? cs.length cs
  guard (parts.length ≤ depthLimit)
  let name ← parts.getLast?
  return ((parts.dropLast, name), rest)

mutual

/-- A value; `depth` more containers may be nested in it. -/
def value? : Nat → Nat → Reader TomlValue
  | 0, _, _ => none
  | _ + 1, _, [] => none
  | fuel + 1, depth, c :: cs =>
    if c = '\x22' ∨ c = '\x27' then (text? (c :: cs)).map fun (text, rest) => (.text text, rest)
    else if c = '[' then
      match depth with
      | 0 => none
      | depth + 1 => items? fuel depth [] cs
    else if c = '\x7b' then
      match depth with
      | 0 => none
      | depth + 1 => firstEntry? fuel depth (skipSpace cs)
    else
      match c :: cs with
      | 't' :: 'r' :: 'u' :: 'e' :: rest => some (.bool true, rest)
      | 'f' :: 'a' :: 'l' :: 's' :: 'e' :: rest => some (.bool false, rest)
      | cs => number? cs

/-- The items of an array behind those held, last first; blanks, comments and line breaks may stand
around each, and a comma behind the last. -/
def items? : Nat → Nat → List TomlValue → Reader TomlValue
  | 0, _, _, _ => none
  | fuel + 1, depth, held, cs => do
    let cs ← skipLines cs.length cs
    match cs with
    | ']' :: rest => some (.array held.reverse, rest)
    | cs => do
      let (item, rest) ← value? fuel depth cs
      let rest ← skipLines rest.length rest
      match rest with
      | ',' :: rest => items? fuel depth (item :: held) rest
      | ']' :: rest => some (.array (item :: held).reverse, rest)
      | _ => none

/-- The entries of a table in braces, which may have none. -/
def firstEntry? : Nat → Nat → Reader TomlValue
  | 0, _, _ => none
  | fuel + 1, depth, cs =>
    match cs with
    | '\x7d' :: rest => some (.table [], rest)
    | cs => entries? fuel depth [] cs

/-- The entries of a table in braces behind those held. -/
def entries? : Nat → Nat → TomlEntries → Reader TomlValue
  | 0, _, _, _ => none
  | fuel + 1, depth, held, cs => do
    let ((path, name), rest) ← key? cs
    let (value, rest) ← value? fuel depth (skipSpace (← skip? '=' rest))
    let held ← held.define path name value
    match skipSpace rest with
    | ',' :: rest => entries? fuel depth held rest
    | '\x7d' :: rest => some (.table (TomlNode.entryValues held), rest)
    | _ => none

end

/-- The document behind one line that is not blank. -/
def line? (d : TomlDocument) (cs : List Char) : Option (TomlDocument × List Char) :=
  match cs with
  | '[' :: '[' :: rest => do
    let ((path, name), rest) ← key? rest
    let rest ← skip? ']' (← skip? ']' rest)
    return (← d.openItem (path ++ [name]), ← endLine? rest)
  | '[' :: rest => do
    let ((path, name), rest) ← key? rest
    let rest ← skip? ']' rest
    return (← d.openTable (path ++ [name]), ← endLine? rest)
  | cs => do
    let ((path, name), rest) ← key? cs
    let rest := skipSpace (← skip? '=' rest)
    let (value, rest) ← value? (2 * rest.length + 2) depthLimit rest
    return (← d.define path name value, ← endLine? rest)

/-- The document behind the remaining lines; `fuel` bounds their number. -/
def lines? : Nat → TomlDocument → List Char → Option TomlDocument
  | 0, _, _ => none
  | fuel + 1, d, cs =>
    match skipSpace cs with
    | [] => some d
    | '#' :: rest => do lines? fuel d (← endLine? ('#' :: rest))
    | c :: rest =>
      match lineBreak? (c :: rest) with
      | some rest => lines? fuel d rest
      | none => do
        let (d, rest) ← line? d (c :: rest)
        lines? fuel d rest

/-- The entries of the document that a text is. -/
def parse? (text : String) : Option (List (String × TomlValue)) := do
  let cs := match text.toList with
    | '\ufeff' :: cs => cs
    | cs => cs
  let d ← lines? (cs.length + 1) .empty cs
  d.finish

end ClusterClient.Toml
