import ClusterClient.Proofs.Json.NumeralGrammar

/-! # The grammar of JSON texts

A document as it is written is a tree whose numbers are numerals and whose members stand in the
order in which they are written (`ClusterClient.Doc`). It is a list of lexemes, and a text spells it
if it is made of spellings of these lexemes with blanks between them (`ClusterClient.Doc.Spells`).
No text spells two documents (`ClusterClient.Doc.spells_unique`).

The notation of JSON also admits the code of a surrogate that is not one of a pair. Such a code
stands for no character, so here a text with it spells nothing.
-/

namespace ClusterClient

/-- Four hexadecimal digits and their value. -/
inductive CodeUnit : List Char → Nat → Prop
  | mk {a b c d : Char} {p q r s : Nat} (first : Token.hexValue? a = some p)
      (second : Token.hexValue? b = some q) (third : Token.hexValue? c = some r)
      (fourth : Token.hexValue? d = some s) :
      CodeUnit [a, b, c, d] (((p * 16 + q) * 16 + r) * 16 + s)

/-- How a character of a text is written: as it is, behind a backslash, by its code or by the codes
of two surrogates. A single surrogate is no character, so its code alone is no spelling of one. -/
inductive CharSpelled : Char → List Char → Prop
  | plain {c : Char} (visible : 0x20 ≤ c.toNat) (quote : c ≠ '\x22') (backslash : c ≠ '\\') :
      CharSpelled c [c]
  | letter {c name : Char} (stands : Token.ofEscape? name = some c) : CharSpelled c ['\\', name]
  | code {c : Char} {digits : List Char} (unit : CodeUnit digits c.toNat) :
      CharSpelled c ('\\' :: 'u' :: digits)
  | pair {c : Char} {first second : List Char} {lead trail : Nat} (leads : CodeUnit first lead)
      (trails : CodeUnit second trail) (isLead : Token.isLead lead = true)
      (isTrail : Token.isTrail trail = true)
      (value : c.toNat = 0x10000 + (lead - 0xD800) * 0x400 + (trail - 0xDC00)) :
      CharSpelled c ('\\' :: 'u' :: (first ++ '\\' :: 'u' :: second))

/-- How the characters of a text are written. -/
inductive TextSpelled : List Char → List Char → Prop
  | nil : TextSpelled [] []
  | cons {c : Char} {cs spelling rest : List Char} (first : CharSpelled c spelling)
      (others : TextSpelled cs rest) : TextSpelled (c :: cs) (spelling ++ rest)

/-- What a JSON text is made of: marks of punctuation, the constants `null`, `true` and `false`,
numerals and texts. -/
inductive Lexeme where
  | mark (c : Char)
  | constant (value : Option Bool)
  | number (numeral : Numeral)
  | text (value : String)

namespace Lexeme

/-- The marks of punctuation. -/
def marks : List Char := ['[', ']', '\x7b', '\x7d', ',', ':']

/-- The word for a constant. -/
def constantChars : Option Bool → List Char
  | none => ['n', 'u', 'l', 'l']
  | some true => ['t', 'r', 'u', 'e']
  | some false => ['f', 'a', 'l', 's', 'e']

/-- Whether a lexeme is a word, which ends only where no character of a word follows. -/
def isWord : Lexeme → Bool
  | .constant _ | .number _ => true
  | _ => false

/-- How a lexeme is written. -/
inductive Spelled : Lexeme → List Char → Prop
  | mark {c : Char} (isMark : c ∈ marks) : Spelled (.mark c) [c]
  | constant (value : Option Bool) : Spelled (.constant value) (constantChars value)
  | number {n : Numeral} {cs : List Char} (spelled : n.Spelled cs) : Spelled (.number n) cs
  | text {value : String} {body : List Char} (spelled : TextSpelled value.toList body) :
      Spelled (.text value) ('\x22' :: (body ++ ['\x22']))

end Lexeme

/-- Lexemes written one after the other, with blanks between them. -/
inductive Spelled : List Lexeme → List Char → Prop
  | nil : Spelled [] []
  | blank {c : Char} {lexemes : List Lexeme} {cs : List Char} (blank : Token.isBlank c = true)
      (rest : Spelled lexemes cs) : Spelled lexemes (c :: cs)
  | cons {lexeme : Lexeme} {lexemes : List Lexeme} {spelling cs : List Char}
      (first : lexeme.Spelled spelling) (rest : Spelled lexemes cs)
      (ends : lexeme.isWord = true → ∀ c ∈ cs.head?, Token.isWordChar c = false) :
      Spelled (lexeme :: lexemes) (spelling ++ cs)

/-- A document as it is written. -/
inductive Doc where
  | null
  | bool (value : Bool)
  | number (numeral : Numeral)
  | text (value : String)
  | array (items : List Doc)
  | object (members : List (String × Doc))

namespace Doc

mutual

/-- The lexemes of a document. -/
def lexemes : Doc → List Lexeme
  | .null => [.constant none]
  | .bool value => [.constant (some value)]
  | .number numeral => [.number numeral]
  | .text value => [.text value]
  | .array [] => [.mark '[', .mark ']']
  | .array (item :: items) => .mark '[' :: (lexemes item ++ (itemLexemes items ++ [.mark ']']))
  | .object [] => [.mark '\x7b', .mark '\x7d']
  | .object ((key, value) :: members) =>
    .mark '\x7b' :: .text key :: .mark ':' ::
      (lexemes value ++ (memberLexemes members ++ [.mark '\x7d']))

/-- The lexemes of the items of an array after the first, each behind a comma. -/
def itemLexemes : List Doc → List Lexeme
  | [] => []
  | item :: items => .mark ',' :: (lexemes item ++ itemLexemes items)

/-- The lexemes of the members of an object after the first, each behind a comma. -/
def memberLexemes : List (String × Doc) → List Lexeme
  | [] => []
  | (key, value) :: members =>
    .mark ',' :: .text key :: .mark ':' :: (lexemes value ++ memberLexemes members)

end

/-- A text spells a document. -/
def Spells (document : Doc) (text : String) : Prop := Spelled document.lexemes text.toList

end Doc

section Unambiguity

/-- Four hexadecimal digits are found again at the front of a text. -/
theorem CodeUnit.append_inj {first second rest other : List Char} {value unit : Nat}
    (left : CodeUnit first value) (right : CodeUnit second unit)
    (same : first ++ rest = second ++ other) : value = unit ∧ rest = other := by
  obtain ⟨a, b, c, d⟩ := left
  obtain ⟨a', b', c', d'⟩ := right
  simp only [List.cons_append, List.nil_append, List.cons.injEq] at same
  obtain ⟨rfl, rfl, rfl, rfl, rfl⟩ := same
  cases a.symm.trans a'
  cases b.symm.trans b'
  cases c.symm.trans c'
  cases d.symm.trans d'
  exact ⟨rfl, rfl⟩

/-- No character has the code of a leading surrogate. -/
theorem not_isLead_toNat (c : Char) : ¬ Token.isLead c.toNat = true := by
  intro leads
  have bounds := of_decide_eq_true leads
  have valid : c.toNat < 0xD800 ∨ 0xDFFF < c.toNat ∧ c.toNat < 0x110000 := c.valid
  omega

/-- The letter for a code is that of no other escape. -/
theorem not_ofEscape?_u (c : Char) : Token.ofEscape? 'u' ≠ some c := nofun

/-- No spelling of a character goes on to be one of another. -/
theorem CharSpelled.append_inj {c d : Char} {first second rest other : List Char}
    (left : CharSpelled c first) (right : CharSpelled d second)
    (same : first ++ rest = second ++ other) : c = d ∧ rest = other := by
  cases left with
  | plain _ _ backslash =>
      cases right with
      | plain =>
          cases same
          exact ⟨rfl, rfl⟩
      | letter | code | pair => exact absurd (List.cons.inj same).1 backslash
  | letter stands =>
      cases right with
      | plain _ _ backslash => exact absurd (List.cons.inj same).1.symm backslash
      | letter stands' =>
          cases same
          exact ⟨Option.some.inj (stands.symm.trans stands'), rfl⟩
      | code | pair =>
          cases (List.cons.inj (List.cons.inj same).2).1
          exact absurd stands (not_ofEscape?_u c)
  | code unit =>
      cases right with
      | plain _ _ backslash => exact absurd (List.cons.inj same).1.symm backslash
      | letter stands =>
          cases (List.cons.inj (List.cons.inj same).2).1
          exact absurd stands (not_ofEscape?_u d)
      | code unit' =>
          simp only [List.cons_append, List.cons.injEq, true_and] at same
          obtain ⟨value, rfl⟩ := unit.append_inj unit' same
          exact ⟨Char.toNat_inj.mp value, rfl⟩
      | pair leads _ isLead =>
          simp only [List.cons_append, List.cons.injEq, true_and, List.append_assoc] at same
          obtain ⟨rfl, _⟩ := unit.append_inj leads same
          exact absurd isLead (not_isLead_toNat c)
  | pair leads trails isLead isTrail value =>
      cases right with
      | plain _ _ backslash => exact absurd (List.cons.inj same).1.symm backslash
      | letter stands =>
          cases (List.cons.inj (List.cons.inj same).2).1
          exact absurd stands (not_ofEscape?_u d)
      | code unit =>
          simp only [List.cons_append, List.cons.injEq, true_and, List.append_assoc] at same
          obtain ⟨rfl, _⟩ := leads.append_inj unit same
          exact absurd isLead (not_isLead_toNat d)
      | pair leads' trails' _ _ value' =>
          simp only [List.cons_append, List.cons.injEq, true_and, List.append_assoc] at same
          obtain ⟨rfl, behind⟩ := leads.append_inj leads' same
          simp only [List.cons.injEq, true_and] at behind
          obtain ⟨rfl, rfl⟩ := trails.append_inj trails' behind
          exact ⟨Char.toNat_inj.mp (value.trans value'.symm), rfl⟩

/-- No spelling of a character starts with a quote. -/
theorem CharSpelled.head {c : Char} {spelling rest tail : List Char}
    (spelled : CharSpelled c spelling) : spelling ++ rest ≠ '\x22' :: tail := by
  cases spelled with
  | plain _ quote _ => exact fun same => quote (List.cons.inj same).1
  | letter | code | pair => exact nofun

/-- The closing quote is the first one that is not part of a character. -/
theorem TextSpelled.append_inj {cs ds first second rest other : List Char}
    (left : TextSpelled cs first) (right : TextSpelled ds second)
    (same : first ++ '\x22' :: rest = second ++ '\x22' :: other) : cs = ds ∧ rest = other := by
  induction left generalizing ds second with
  | nil =>
      cases right with
      | nil => exact ⟨rfl, (List.cons.inj same).2⟩
      | cons spelled _ =>
          rw [List.nil_append, List.append_assoc] at same
          exact absurd same.symm spelled.head
  | cons spelled _ ih =>
      cases right with
      | nil =>
          rw [List.nil_append, List.append_assoc] at same
          exact absurd same spelled.head
      | cons spelled' others =>
          rw [List.append_assoc, List.append_assoc] at same
          obtain ⟨rfl, behind⟩ := spelled.append_inj spelled' same
          obtain ⟨rfl, rfl⟩ := ih others behind
          exact ⟨rfl, rfl⟩

namespace Lexeme

/-- The first character of a lexeme. -/
inductive Starts : Lexeme → Char → Prop
  | mark {c : Char} (isMark : c ∈ marks) : Starts (.mark c) c
  | null : Starts (.constant none) 'n'
  | true_ : Starts (.constant (some true)) 't'
  | false_ : Starts (.constant (some false)) 'f'
  | number {n : Numeral} {c : Char} (first : Numeral.IsFirst c) : Starts (.number n) c
  | text {value : String} : Starts (.text value) '\x22'

/-- A spelling starts with a character that its lexeme may start with. -/
theorem Spelled.starts {lexeme : Lexeme} {spelling : List Char}
    (spelled : Spelled lexeme spelling) :
    ∃ c rest, spelling = c :: rest ∧ lexeme.Starts c := by
  cases spelled with
  | mark isMark => exact ⟨_, _, rfl, .mark isMark⟩
  | constant value =>
      match value with
      | none => exact ⟨_, _, rfl, .null⟩
      | some true => exact ⟨_, _, rfl, .true_⟩
      | some false => exact ⟨_, _, rfl, .false_⟩
  | number spelled =>
      obtain ⟨⟨c, rest, same, first⟩, _⟩ := spelled.word
      exact ⟨c, rest, same, .number first⟩
  | text spelled => exact ⟨_, _, rfl, .text⟩

/-- A word has characters of words only. -/
theorem Spelled.words {lexeme : Lexeme} {spelling : List Char} (spelled : Spelled lexeme spelling)
    (word : lexeme.isWord = true) : ∀ c ∈ spelling, Token.isWordChar c = true := by
  cases spelled with
  | mark | text => cases word
  | constant value =>
      match value with
      | none | some true | some false => exact List.all_eq_true.mp rfl
  | number spelled => exact spelled.word.2

/-- A word is as long as characters of words follow each other. -/
theorem takeWhile_word {lexeme : Lexeme} {spelling rest : List Char}
    (spelled : Spelled lexeme spelling) (word : lexeme.isWord = true)
    (ends : ∀ c ∈ rest.head?, Token.isWordChar c = false) :
    (spelling ++ rest).takeWhile Token.isWordChar = spelling := by
  rw [List.takeWhile_append_of_pos (spelled.words word)]
  cases rest with
  | nil => exact List.append_nil _
  | cons c rest =>
      rw [List.takeWhile_cons_of_neg (by rw [ends c rfl]; exact Bool.false_ne_true),
        List.append_nil]

/-- No numeral starts like a constant, a text or a mark. -/
theorem not_isFirst_of_mem {c : Char} (other : c ∈ ['n', 't', 'f', '\x22'] ++ marks) :
    ¬ Numeral.IsFirst c := by
  have all : (['n', 't', 'f', '\x22'] ++ marks).all
      (fun c => !c.isDigit && c != '-') = true := rfl
  have neither := List.all_eq_true.mp all c other
  simpa [Numeral.IsFirst] using neither

/-- Two lexemes with the same first character are the same, two numerals or two texts. -/
theorem Starts.alike {lexeme other : Lexeme} {c : Char} (left : lexeme.Starts c)
    (right : other.Starts c) :
    lexeme = other ∨ (∃ n m, lexeme = .number n ∧ other = .number m) ∨
      ∃ value value', lexeme = .text value ∧ other = .text value' := by
  cases left with
  | mark isMark =>
      cases right with
      | mark => exact .inl rfl
      | number first => exact absurd first (not_isFirst_of_mem (List.mem_append_right _ isMark))
      | _ => exact absurd isMark (by decide)
  | number first =>
      cases right with
      | mark isMark => exact absurd first (not_isFirst_of_mem (List.mem_append_right _ isMark))
      | number => exact .inr (.inl ⟨_, _, rfl, rfl⟩)
      | _ => exact absurd first (not_isFirst_of_mem (by decide))
  | text =>
      cases right with
      | mark isMark => exact absurd isMark (by decide)
      | number first => exact absurd first (not_isFirst_of_mem (by decide))
      | text => exact .inr (.inr ⟨_, _, rfl, rfl⟩)
  | null =>
      cases right with
      | mark isMark => exact absurd isMark (by decide)
      | number first => exact absurd first (not_isFirst_of_mem (by decide))
      | null => exact .inl rfl
  | true_ =>
      cases right with
      | mark isMark => exact absurd isMark (by decide)
      | number first => exact absurd first (not_isFirst_of_mem (by decide))
      | true_ => exact .inl rfl
  | false_ =>
      cases right with
      | mark isMark => exact absurd isMark (by decide)
      | number first => exact absurd first (not_isFirst_of_mem (by decide))
      | false_ => exact .inl rfl

/-- Numerals end where their words end. -/
theorem number_append_inj {n m : Numeral} {first second rest tail : List Char}
    (left : n.Spelled first) (right : m.Spelled second)
    (ends : ∀ c ∈ rest.head?, Token.isWordChar c = false)
    (ends' : ∀ c ∈ tail.head?, Token.isWordChar c = false)
    (same : first ++ rest = second ++ tail) : n = m ∧ rest = tail := by
  have taken : first = second := by
    rw [← takeWhile_word (.number left) rfl ends, same, takeWhile_word (.number right) rfl ends']
  subst taken
  have read := Numeral.ofChars?_iff.mpr left
  exact ⟨Option.some.inj (read.symm.trans (Numeral.ofChars?_iff.mpr right)),
    List.append_cancel_left same⟩

/-- Texts end with their quotes. -/
theorem text_append_inj {value other : String} {first second rest tail : List Char}
    (left : TextSpelled value.toList first) (right : TextSpelled other.toList second)
    (same : '\x22' :: (first ++ ['\x22']) ++ rest = '\x22' :: (second ++ ['\x22']) ++ tail) :
    value = other ∧ rest = tail := by
  simp only [List.cons_append, List.append_assoc, List.nil_append, List.cons.injEq,
    true_and] at same
  obtain ⟨texts, rfl⟩ := left.append_inj right same
  exact ⟨String.toList_inj.mp texts, rfl⟩

/-- The first lexeme is read off the characters. -/
theorem Spelled.append_inj {lexeme other : Lexeme} {first second rest tail : List Char}
    (left : Spelled lexeme first) (right : Spelled other second)
    (ends : lexeme.isWord = true → ∀ c ∈ rest.head?, Token.isWordChar c = false)
    (ends' : other.isWord = true → ∀ c ∈ tail.head?, Token.isWordChar c = false)
    (same : first ++ rest = second ++ tail) : lexeme = other ∧ rest = tail := by
  have alike : lexeme = other ∨ (∃ n m, lexeme = .number n ∧ other = .number m) ∨
      ∃ value value', lexeme = .text value ∧ other = .text value' := by
    obtain ⟨c, behind, rfl, starts⟩ := left.starts
    obtain ⟨d, behind', rfl, starts'⟩ := right.starts
    cases (List.cons.inj same).1
    exact starts.alike starts'
  cases left with
  | mark =>
      obtain rfl : _ = other := alike.resolve_right (by simp)
      cases right
      exact ⟨rfl, (List.cons.inj same).2⟩
  | constant =>
      obtain rfl : _ = other := alike.resolve_right (by simp)
      cases right
      exact ⟨rfl, List.append_cancel_left same⟩
  | number spelled =>
      cases right with
      | number spelled' =>
          obtain ⟨rfl, rfl⟩ := number_append_inj spelled spelled' (ends rfl) (ends' rfl) same
          exact ⟨rfl, rfl⟩
      | _ => simp at alike
  | text spelled =>
      cases right with
      | text spelled' =>
          obtain ⟨rfl, rfl⟩ := text_append_inj spelled spelled' same
          exact ⟨rfl, rfl⟩
      | _ => simp at alike

/-- A digit is not blank. -/
theorem not_isBlank_of_isDigit {c : Char} (digit : c.isDigit = true) :
    Token.isBlank c = false := by
  rw [Bool.eq_false_iff]
  intro blank
  simp only [Token.isBlank, Bool.or_eq_true, beq_iff_eq] at blank
  rcases blank with ((rfl | rfl) | rfl) | rfl <;> cases digit

/-- A mark is not blank. -/
theorem not_isBlank_of_mem {c : Char} (isMark : c ∈ marks) : Token.isBlank c = false := by
  have all : marks.all (fun c => !Token.isBlank c) = true := rfl
  simpa using List.all_eq_true.mp all c isMark

/-- No lexeme starts with a blank. -/
theorem Spelled.not_blank {lexeme : Lexeme} {spelling rest cs : List Char} {c : Char}
    (spelled : Spelled lexeme spelling) (same : spelling ++ rest = c :: cs) :
    Token.isBlank c = false := by
  obtain ⟨first, behind, rfl, starts⟩ := spelled.starts
  cases (List.cons.inj same).1
  cases starts with
  | mark isMark => exact not_isBlank_of_mem isMark
  | number digit =>
      rcases digit with digit | rfl
      · exact not_isBlank_of_isDigit digit
      · rfl
  | _ => rfl

theorem Spelled.ne_nil {lexeme : Lexeme} {spelling rest : List Char}
    (spelled : Spelled lexeme spelling) : spelling ++ rest ≠ [] := by
  obtain ⟨first, behind, rfl, _⟩ := spelled.starts
  exact nofun

end Lexeme

/-- **Lexemes are read off the characters.** -/
theorem Spelled.unique {lexemes others : List Lexeme} {cs ds : List Char}
    (left : Spelled lexemes cs) (right : Spelled others ds) (same : cs = ds) :
    lexemes = others := by
  induction left generalizing others ds with
  | nil =>
      cases right with
      | nil => rfl
      | blank => cases same
      | cons first => exact absurd same.symm first.ne_nil
  | blank isBlank rest ih =>
      cases right with
      | nil => cases same
      | blank _ rest' => exact ih rest' (List.cons.inj same).2
      | cons first' =>
          rw [first'.not_blank same.symm] at isBlank
          cases isBlank
  | cons first rest ends ih =>
      cases right with
      | nil => exact absurd same first.ne_nil
      | blank isBlank =>
          rw [first.not_blank same] at isBlank
          cases isBlank
      | cons first' rest' ends' =>
          obtain ⟨rfl, behind⟩ := first.append_inj first' ends ends' same
          exact congrArg _ (ih rest' behind)

namespace Doc

/-- No document starts with the end of an array. -/
theorem lexemes_ne_close (document : Doc) (rest tail : List Lexeme) :
    document.lexemes ++ rest ≠ .mark ']' :: tail := by
  match document with
  | .null | .bool _ | .number _ | .text _ | .array [] | .array (_ :: _) | .object []
  | .object ((_, _) :: _) => simp [lexemes]

mutual

/-- The first document is read off the lexemes. -/
theorem lexemes_append_inj : ∀ (document other : Doc) (rest tail : List Lexeme),
    document.lexemes ++ rest = other.lexemes ++ tail → document = other ∧ rest = tail
  | .null, other, rest, tail, same => by
      match other with
      | .null => exact ⟨rfl, (List.cons.inj same).2⟩
      | .bool _ | .number _ | .text _ | .array [] | .array (_ :: _) | .object []
      | .object ((_, _) :: _) => simp [lexemes] at same
  | .bool value, other, rest, tail, same => by
      match other with
      | .bool _ =>
          cases same
          exact ⟨rfl, rfl⟩
      | .null | .number _ | .text _ | .array [] | .array (_ :: _) | .object []
      | .object ((_, _) :: _) => simp [lexemes] at same
  | .number n, other, rest, tail, same => by
      match other with
      | .number _ =>
          cases same
          exact ⟨rfl, rfl⟩
      | .null | .bool _ | .text _ | .array [] | .array (_ :: _) | .object []
      | .object ((_, _) :: _) => simp [lexemes] at same
  | .text value, other, rest, tail, same => by
      match other with
      | .text _ =>
          cases same
          exact ⟨rfl, rfl⟩
      | .null | .bool _ | .number _ | .array [] | .array (_ :: _) | .object []
      | .object ((_, _) :: _) => simp [lexemes] at same
  | .array [], other, rest, tail, same => by
      match other with
      | .array [] =>
          cases same
          exact ⟨rfl, rfl⟩
      | .array (item :: _) =>
          simp only [lexemes, List.cons_append, List.append_assoc, List.cons.injEq,
            true_and] at same
          exact absurd same.symm (lexemes_ne_close item _ _)
      | .null | .bool _ | .number _ | .text _ | .object []
      | .object ((_, _) :: _) => simp [lexemes] at same
  | .array (item :: items), other, rest, tail, same => by
      match other with
      | .array [] =>
          simp only [lexemes, List.cons_append, List.append_assoc, List.cons.injEq,
            true_and] at same
          exact absurd same (lexemes_ne_close item _ _)
      | .array (item' :: items') =>
          simp only [lexemes, List.cons_append, List.append_assoc, List.cons.injEq,
            true_and, List.nil_append] at same
          obtain ⟨rfl, behind⟩ := lexemes_append_inj item item' _ _ same
          obtain ⟨rfl, rfl⟩ := itemLexemes_append_inj items items' _ _ behind
          exact ⟨rfl, rfl⟩
      | .null | .bool _ | .number _ | .text _ | .object []
      | .object ((_, _) :: _) => simp [lexemes] at same
  | .object [], other, rest, tail, same => by
      match other with
      | .object [] =>
          cases same
          exact ⟨rfl, rfl⟩
      | .null | .bool _ | .number _ | .text _ | .array [] | .array (_ :: _)
      | .object ((_, _) :: _) => simp [lexemes] at same
  | .object ((key, value) :: members), other, rest, tail, same => by
      match other with
      | .object ((key', value') :: members') =>
          simp only [lexemes, List.cons_append, List.append_assoc, List.cons.injEq,
            true_and, List.nil_append, Lexeme.text.injEq] at same
          obtain ⟨rfl, same⟩ := same
          obtain ⟨rfl, behind⟩ := lexemes_append_inj value value' _ _ same
          obtain ⟨rfl, rfl⟩ := memberLexemes_append_inj members members' _ _ behind
          exact ⟨rfl, rfl⟩
      | .null | .bool _ | .number _ | .text _ | .array [] | .array (_ :: _)
      | .object [] => simp [lexemes] at same

/-- The items up to a closing bracket are found again in their lexemes. -/
theorem itemLexemes_append_inj : ∀ (items others : List Doc) (rest tail : List Lexeme),
    itemLexemes items ++ .mark ']' :: rest = itemLexemes others ++ .mark ']' :: tail →
      items = others ∧ rest = tail
  | [], [], rest, tail, same => ⟨rfl, (List.cons.inj same).2⟩
  | [], _ :: _, rest, tail, same => by simp [itemLexemes] at same
  | _ :: _, [], rest, tail, same => by simp [itemLexemes] at same
  | item :: items, other :: others, rest, tail, same => by
      simp only [itemLexemes, List.cons_append, List.append_assoc, List.cons.injEq,
        true_and] at same
      obtain ⟨rfl, behind⟩ := lexemes_append_inj item other _ _ same
      obtain ⟨rfl, rfl⟩ := itemLexemes_append_inj items others _ _ behind
      exact ⟨rfl, rfl⟩

/-- The members up to a closing brace are found again in their lexemes. -/
theorem memberLexemes_append_inj :
    ∀ (members others : List (String × Doc)) (rest tail : List Lexeme),
      memberLexemes members ++ .mark '\x7d' :: rest =
          memberLexemes others ++ .mark '\x7d' :: tail →
        members = others ∧ rest = tail
  | [], [], rest, tail, same => ⟨rfl, (List.cons.inj same).2⟩
  | [], _ :: _, rest, tail, same => by simp [memberLexemes] at same
  | _ :: _, [], rest, tail, same => by simp [memberLexemes] at same
  | (key, value) :: members, (other, document) :: others, rest, tail, same => by
      simp only [memberLexemes, List.cons_append, List.append_assoc, List.cons.injEq, true_and,
        Lexeme.text.injEq] at same
      obtain ⟨rfl, same⟩ := same
      obtain ⟨rfl, behind⟩ := lexemes_append_inj value document _ _ same
      obtain ⟨rfl, rfl⟩ := memberLexemes_append_inj members others _ _ behind
      exact ⟨rfl, rfl⟩

end

/-- **No text spells two documents.** -/
theorem spells_unique {document other : Doc} {text : String} (left : document.Spells text)
    (right : other.Spells text) : document = other := by
  have same := left.unique right rfl
  exact (lexemes_append_inj document other [] [] (by rw [same])).1

end Doc

end Unambiguity
end ClusterClient
