/-!
# Text without terminal sequences

A sequence that steers a terminal starts with an escape character. `visible` leaves such sequences
and all other control characters out of a text, blanks apart. A blank within an escape or a control
sequence is visible, and so is what stands behind it up to the next control character, with which
the sequence goes on.
-/

namespace ClusterClient.Terminal

/-- What a terminal takes the next character for. -/
inductive Mode
  /-- Text. -/
  | plain
  /-- The rest of an escape sequence. -/
  | escape
  /-- The rest of an escape sequence whose kind is known. -/
  | escapeEnd
  /-- The rest of a control sequence. -/
  | control
  /-- The rest of a title, up to a bell. -/
  | title
  /-- The rest of a command to a device. -/
  | device
  /-- The numbers of such a command, or what follows. -/
  | deviceNumbers
  /-- The kind of such a command, or its end. -/
  | deviceKind
  /-- The rest of a string, up to a string terminator. -/
  | string

/-- A space, tab, line feed, form feed or carriage return. -/
def isBlank (c : Char) : Bool := c == ' ' || c == '\t' || c == '\n' || c == '\x0c' || c == '\r'

/-- Whether a character of plain text is visible. -/
def isPrinted (c : Char) : Bool := isBlank c || (' ' < c && c != '\x7f')

/-- Whether a character ends a string: the byte 156 does, also as a part of a character. -/
def endsString (c : Char) : Bool := (String.utf8EncodeChar c).contains 0x9C

namespace Mode

/-- Whether a character is visible. -/
def shows (mode : Mode) (c : Char) : Bool :=
  match mode with
  | .plain => isPrinted c
  | .escape | .escapeEnd | .control => isBlank c && c != ' '
  | _ => false

/-- The mode behind a character that is not text. -/
def next (mode : Mode) (c : Char) : Mode :=
  if c = '\x1b' then .escape
  else if c = '\x18' ∨ c = '\x1a' then .plain
  else match mode with
    | .plain => .plain
    | .escape =>
      if ' ' ≤ c ∧ c ≤ '/' then .escapeEnd
      else if c = '[' then .control
      else if c = ']' then .title
      else if c = 'P' then .device
      else if c = 'X' ∨ c = '^' ∨ c = '_' then .string
      else if '0' ≤ c ∧ c ≤ '~' then .plain
      else .escape
    | .escapeEnd => if '0' ≤ c ∧ c ≤ '~' then .plain else .escapeEnd
    | .control => if '@' ≤ c ∧ c ≤ '~' then .plain else .control
    | .title => if c = '\x07' then .plain else .title
    | .device =>
      if ' ' ≤ c ∧ c ≤ '/' then .deviceKind
      else if '0' ≤ c ∧ c ≤ '?' then .deviceNumbers
      else if '@' ≤ c ∧ c ≤ '~' then .string
      else .device
    | .deviceNumbers =>
      if ' ' ≤ c ∧ c ≤ '/' then .deviceKind
      else if '<' ≤ c ∧ c ≤ '~' then .string
      else .deviceNumbers
    | .deviceKind => if '0' ≤ c ∧ c ≤ '~' then .string else .deviceKind
    | .string => if endsString c then .plain else .string

end Mode

/-- The visible characters of the rest of a text. While characters are `shown`, those that are
printed are visible whatever the mode, and all but a character beyond ASCII leave it as it is. -/
def visibleFrom (mode : Mode) (shown : Bool) : List Char → List Char
  | [] => []
  | c :: rest =>
    if (if shown then Mode.plain else mode).shows c then
      c :: visibleFrom (if '\x7f' < c then .plain else mode) true rest
    else visibleFrom (mode.next c) false rest

/-- A text without the sequences that steer a terminal and without control characters. -/
def visible (text : String) : String := String.ofList (visibleFrom .plain false text.toList)

end ClusterClient.Terminal
