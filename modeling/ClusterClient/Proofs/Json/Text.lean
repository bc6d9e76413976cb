import ClusterClient.Json.Printer
import ClusterClient.Json.Reader
import Mathlib.Tactic.SplitIfs

/-! # Texts that are written and read again

A text is written in quotes with some characters escaped. The scanner takes each escape back to its
character, whatever follows, so a quoted text is one token that holds the text
(`ClusterClient.Token.scan_quoted`), and an object with one text or one list with a text in it is
read back as it was written (`ClusterClient.Json.parse?_textMember`,
`ClusterClient.Json.parse?_listMember`).
-/

namespace ClusterClient

namespace Token

/-- A character is scanned in one step, and the others from where it leads. -/
theorem scan_cons (mode : Mode) (c : Char) (cs : List Char) :
    scan mode (c :: cs) =
      (step mode c).bind fun taken => (scan taken.2 cs).map (taken.1 ++ ·) := by
  rw [scan]
  cases step mode c with
  | none => rfl
  | some taken => exact (Option.map_eq_bind (f := (taken.1 ++ ·))).symm

/-- A step that completes no token only changes the mode. -/
theorem scan_of_step {mode next : Mode} {c : Char} (stepped : step mode c = some ([], next))
    (cs : List Char) : scan mode (c :: cs) = scan next cs := by
  rw [scan_cons, stepped, Option.bind_some]
  simp only [List.nil_append, Option.map_id']

/-- A step that completes a token puts it in front. -/
theorem scan_of_token {mode next : Mode} {c : Char} {token : Token}
    (stepped : step mode c = some ([token], next)) (cs : List Char) :
    scan mode (c :: cs) = (scan next cs).map (token :: ·) := by
  rw [scan_cons, stepped]
  rfl

/-- The digit of an escape is read as the value that it was written for. -/
theorem hexValue?_hexDigit : ∀ n < 16, hexValue? (hexDigit n) = some n := by decide

/-- A control character is no surrogate, and its code names it. -/
private theorem afterUnit?_control {c : Char} (control : c.toNat < 32) (seen : List Char) :
    afterUnit? seen none c.toNat = some (.text (c :: seen)) := by
  have notLead : isLead c.toNat = false := decide_eq_false (by omega)
  have notTrail : isTrail c.toNat = false := decide_eq_false (by omega)
  simp only [afterUnit?, notLead, notTrail, Bool.false_eq_true, if_false, Char.ofNat_toNat]

/-- The four digits of the escape of a control character. -/
private theorem scan_controlDigits {c : Char} (control : c.toNat < 32) (seen rest : List Char) :
    scan (.unit seen none 0 0)
        ('0' :: '0' :: hexDigit (c.toNat / 16) :: hexDigit (c.toNat % 16) :: rest) =
      scan (.text (c :: seen)) rest := by
  have high := hexValue?_hexDigit (c.toNat / 16) (by omega)
  have low := hexValue?_hexDigit (c.toNat % 16) (by omega)
  have value : (c.toNat / 16) * 16 + c.toNat % 16 = c.toNat := by omega
  have first : step (.unit seen none 0 0) '0' = some ([], .unit seen none 1 0) := rfl
  have second : step (.unit seen none 1 0) '0' = some ([], .unit seen none 2 0) := rfl
  have third : step (.unit seen none 2 0) (hexDigit (c.toNat / 16)) =
      some ([], .unit seen none 3 (c.toNat / 16)) := by
    simp [step, high]
  have fourth : step (.unit seen none 3 (c.toNat / 16)) (hexDigit (c.toNat % 16)) =
      some ([], .text (c :: seen)) := by
    simp [step, low, value, afterUnit?_control control]
  rw [scan_of_step first, scan_of_step second, scan_of_step third, scan_of_step fourth]

/-- The escape of a character stands for the character. -/
theorem scan_escapeChar (c : Char) (seen rest : List Char) :
    scan (.text seen) (Json.escapeChar c ++ rest) = scan (.text (c :: seen)) rest := by
  have slash : step (.text seen) '\\' = some ([], .escape seen) := rfl
  have letter : ∀ name : Char, name ≠ 'u' → ofEscape? name = some c →
      scan (.text seen) ('\\' :: name :: rest) = scan (.text (c :: seen)) rest := by
    intro name notUnit stands
    have named : step (.escape seen) name = some ([], .text (c :: seen)) := by
      simp only [step, notUnit, if_false, stands, Option.map_some]
    rw [scan_of_step slash, scan_of_step named]
  unfold Json.escapeChar
  split_ifs with quote backslash backspace feed newline return_ tab control
  · exact letter '\x22' (by decide) (by rw [quote]; rfl)
  · exact letter '\\' (by decide) (by rw [backslash]; rfl)
  · exact letter 'b' (by decide) (by rw [backspace]; rfl)
  · exact letter 'f' (by decide) (by rw [feed]; rfl)
  · exact letter 'n' (by decide) (by rw [newline]; rfl)
  · exact letter 'r' (by decide) (by rw [return_]; rfl)
  · exact letter 't' (by decide) (by rw [tab]; rfl)
  · have unit : step (.escape seen) 'u' = some ([], .unit seen none 0 0) := rfl
    simp only [List.cons_append, List.nil_append]
    rw [scan_of_step slash, scan_of_step unit, scan_controlDigits control]
  · have plain : step (.text seen) c = some ([], .text (c :: seen)) := by
      simp only [step, quote, backslash, control, if_false]
    exact scan_of_step plain rest

/-- The characters of a text are scanned from their escapes, up to the closing quote. -/
theorem scan_escaped (cs seen rest : List Char) :
    scan (.text seen) (cs.flatMap Json.escapeChar ++ rest) =
      scan (.text (cs.reverse ++ seen)) rest := by
  induction cs generalizing seen with
  | nil => rfl
  | cons c cs ih =>
      rw [List.flatMap_cons, List.append_assoc, scan_escapeChar, ih, List.reverse_cons,
        List.append_assoc, List.singleton_append]

/-- A quoted text is one token, which holds the text. -/
theorem scan_quoted (text : String) (rest : List Char) :
    scan .gap (Json.quoted text ++ rest) = (scan .gap rest).map (.text text :: ·) := by
  have opened : step .gap '\x22' = some ([], .text []) := rfl
  have closed : step (.text text.toList.reverse) '\x22' = some ([.text text], .gap) := by
    simp only [step, if_true, List.reverse_reverse, String.ofList_toList]
  rw [Json.quoted, List.cons_append, scan_of_step opened, List.append_assoc, scan_escaped,
    List.append_nil, List.singleton_append, scan_of_token closed]

end Token

namespace Json

/-- Reading a text is scanning it and then reading the tokens. -/
theorem parse?_eq (text : String) : parse? text = (Token.ofChars? text.toList).bind ofTokens? := rfl

/-- The tokens of an object with one member, from those of its value. -/
theorem ofChars?_member {value : Json} {tokens : List Token}
    (reads : ∀ rest, Token.scan .gap (value.compactChars ++ rest) =
      (Token.scan .gap rest).map (tokens ++ ·)) (key : String) :
    Token.ofChars? (ofMembers [(key, value)]).compact.toList =
      some ([.openObject, .text key, .colon] ++ (tokens ++ [.closeObject])) := by
  have opened : Token.step .gap '\x7b' = some ([.openObject], .gap) := rfl
  have colon : Token.step .gap ':' = some ([.colon], .gap) := rfl
  have closed : Token.step .gap '\x7d' = some ([.closeObject], .gap) := rfl
  simp only [ofMembers, Keyed.ofList, List.foldl_cons, List.foldl_nil, Keyed.insert, compact,
    String.toList_ofList, Token.ofChars?, compactChars, compactMembers, List.append_nil,
    List.append_assoc, List.cons_append]
  rw [Token.scan_of_token opened, Token.scan_quoted, Token.scan_of_token colon, reads,
    Token.scan_of_token closed]
  rfl

/-- An object with one member, which is a text, is read back. -/
theorem parse?_textMember (key value : String) :
    parse? (ofMembers [(key, .text value)]).compact = some (.object [(key, .text value)]) := by
  have reads : ∀ rest, Token.scan .gap (compactChars (.text value) ++ rest) =
      (Token.scan .gap rest).map ([.text value] ++ ·) := by
    intro rest
    rw [compactChars, Token.scan_quoted]
    rfl
  rw [parse?_eq, ofChars?_member reads]
  rfl

/-- An object with one member, which is a list of one text, is read back. -/
theorem parse?_listMember (key value : String) :
    parse? (ofMembers [(key, .array [.text value])]).compact =
      some (.object [(key, .array [.text value])]) := by
  have reads : ∀ rest, Token.scan .gap (compactChars (.array [.text value]) ++ rest) =
      (Token.scan .gap rest).map ([.openArray, .text value, .closeArray] ++ ·) := by
    intro rest
    have opened : Token.step .gap '[' = some ([.openArray], .gap) := rfl
    have closed : Token.step .gap ']' = some ([.closeArray], .gap) := rfl
    simp only [compactChars, compactItems, List.append_nil, List.append_assoc, List.cons_append]
    rw [Token.scan_of_token opened, Token.scan_quoted, List.nil_append,
      Token.scan_of_token closed, Option.map_map, Option.map_map]
    rfl
  rw [parse?_eq, ofChars?_member reads]
  rfl

end Json
end ClusterClient
