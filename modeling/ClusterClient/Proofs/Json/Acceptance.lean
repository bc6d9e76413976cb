import ClusterClient.Proofs.Json.Reading

/-! # Which texts are read

The reader takes every text of the grammar whose containers are nested at most
`ClusterClient.Reading.depthLimit` deep and whose numerals have values, and no other text
(`ClusterClient.Json.parse?_eq_some_iff`). The scanner finds the token of every lexeme
(`ClusterClient.Token.ofChars?_spelled`), and the tokens of a document take the reader from the
start of a value to its end, unless too many containers are open
(`ClusterClient.Reading.Delivers`).
-/

namespace ClusterClient

namespace Token

variable {cs rest seen : List Char} {lexeme : Lexeme} {token : Token}

/-- Four hexadecimal digits are scanned as their code unit. -/
theorem scan_hexDigits {digits : List Char} {value : Nat} {lead : Option Nat} {mode : Mode}
    (unit : CodeUnit digits value) (after : afterUnit? seen lead value = some mode) :
    scan (.unit seen lead 0 0) (digits ++ rest) = scan mode rest := by
  obtain ⟨first, second, third, fourth⟩ := unit
  rename_i a b c d p q r s
  have one : step (.unit seen lead 0 0) a = some ([], .unit seen lead 1 p) := by
    simp [step, first]
  have two : step (.unit seen lead 1 p) b = some ([], .unit seen lead 2 (p * 16 + q)) := by
    simp [step, second]
  have three : step (.unit seen lead 2 (p * 16 + q)) c =
      some ([], .unit seen lead 3 ((p * 16 + q) * 16 + r)) := by
    simp [step, third]
  have four : step (.unit seen lead 3 ((p * 16 + q) * 16 + r)) d = some ([], mode) := by
    simp [step, fourth, after]
  simp only [List.cons_append, List.nil_append]
  rw [scan_of_step one, scan_of_step two, scan_of_step three, scan_of_step four]

/-- However a character is written, it is scanned as that character. -/
theorem scan_charSpelled {c : Char} {spelling : List Char} (spelled : CharSpelled c spelling) :
    scan (.text seen) (spelling ++ rest) = scan (.text (c :: seen)) rest := by
  have slash : step (.text seen) '\\' = some ([], .escape seen) := rfl
  have unit : step (.escape seen) 'u' = some ([], .unit seen none 0 0) := rfl
  cases spelled with
  | plain visible quote backslash =>
      have stepped : step (.text seen) c = some ([], .text (c :: seen)) := by
        rw [step, if_neg quote, if_neg backslash, if_neg (not_lt.mpr visible)]
      exact scan_of_step stepped rest
  | @letter name stands =>
      have other : name ≠ 'u' := by
        rintro rfl
        exact not_ofEscape?_u c stands
      have stepped : step (.escape seen) name = some ([], .text (c :: seen)) := by
        rw [step, if_neg other, stands]
        rfl
      exact (scan_of_step slash _).trans (scan_of_step stepped rest)
  | code digits =>
      have after : afterUnit? seen none c.toNat = some (.text (c :: seen)) := by
        have notTrail : ¬ isTrail c.toNat = true := by
          intro trails
          have bounds := of_decide_eq_true trails
          have valid : c.toNat < 0xD800 ∨ 0xDFFF < c.toNat ∧ c.toNat < 0x110000 := c.valid
          omega
        simp only [afterUnit?]
        rw [if_neg (not_isLead_toNat c), if_neg notTrail, Char.ofNat_toNat]
      exact (scan_of_step slash _).trans
        ((scan_of_step unit _).trans (scan_hexDigits digits after))
  | @pair first second lead trail leads trails isLead isTrail value =>
      have opened : afterUnit? seen none lead = some (.lead seen lead) := if_pos isLead
      have closed : afterUnit? seen (some lead) trail = some (.text (c :: seen)) := by
        simp only [afterUnit?]
        rw [if_pos isTrail, ← value, Char.ofNat_toNat]
      have again : step (.lead seen lead) '\\' = some ([], .leadEscape seen lead) := rfl
      have marked : step (.leadEscape seen lead) 'u' =
          some ([], .unit seen (some lead) 0 0) := rfl
      simp only [List.cons_append, List.append_assoc]
      rw [scan_of_step slash, scan_of_step unit, scan_hexDigits leads opened, scan_of_step again,
        scan_of_step marked, scan_hexDigits trails closed]

/-- The characters of a text are scanned as they are spelled, up to its closing quote. -/
theorem scan_textSpelled {body : List Char} (spelled : TextSpelled cs body) :
    scan (.text seen) (body ++ rest) = scan (.text (cs.reverse ++ seen)) rest := by
  induction spelled generalizing seen with
  | nil => rfl
  | cons first others ih =>
      rw [List.append_assoc, scan_charSpelled first, ih, List.reverse_cons, List.append_assoc,
        List.singleton_append]

/-- The characters of a word are gathered. -/
theorem scan_words {word : List Char} (words : ∀ c ∈ word, isWordChar c = true) :
    scan (.word seen) (word ++ rest) = scan (.word (word.reverse ++ seen)) rest := by
  induction word generalizing seen with
  | nil => rfl
  | cons c word ih =>
      obtain ⟨first, others⟩ := List.forall_mem_cons.mp words
      have stepped : step (.word seen) c = some ([], .word (c :: seen)) := if_pos first
      rw [List.cons_append, scan_of_step stepped, ih others, List.reverse_cons, List.append_assoc,
        List.singleton_append]

/-- The end of a word completes its token. -/
theorem scan_wordEnd (ends : ∀ c ∈ rest.head?, isWordChar c = false) :
    scan (.word seen) rest =
      (ofWord? seen.reverse).bind fun token => (scan .gap rest).map (token :: ·) := by
  cases rest with
  | nil => exact Option.map_eq_bind
  | cons c rest => exact scan_word_end (by rw [ends c rfl]; exact Bool.false_ne_true)

/-- A word that is spelled as a lexeme is read as the token of it. -/
theorem ofWord?_reads (spelled : lexeme.Spelled cs) (reads : lexeme.Reads token)
    (word : lexeme.isWord = true) : ofWord? cs = some token := by
  cases spelled with
  | mark | text => cases word
  | constant value =>
      cases reads with
      | null => rfl
      | bool value =>
          cases value with
          | true => rfl
          | false => rfl
  | number spelled =>
      cases reads with
      | number found =>
          obtain ⟨⟨c, behind, rfl, first⟩, _⟩ := spelled.word
          have other : ∀ d ∈ ['n', 't', 'f'], c ≠ d := by
            rintro d member rfl
            refine Lexeme.not_isFirst_of_mem (List.mem_append_left _ ?_) first
            exact List.mem_append_left ['\x22'] member
          have null : c :: behind ≠ ['n', 'u', 'l', 'l'] := by
            intro same
            exact other 'n' (by decide) (List.cons.inj same).1
          have true_ : c :: behind ≠ ['t', 'r', 'u', 'e'] := by
            intro same
            exact other 't' (by decide) (List.cons.inj same).1
          have false_ : c :: behind ≠ ['f', 'a', 'l', 's', 'e'] := by
            intro same
            exact other 'f' (by decide) (List.cons.inj same).1
          rw [ofWord?, if_neg null, if_neg true_, if_neg false_, Numeral.ofChars?_iff.mpr spelled]
          simp only [Option.bind_eq_bind, Option.bind_some, found]
          rfl

/-- No word starts with a quote. -/
theorem not_quote_of_word {c : Char} (starts : lexeme.Starts c) (word : lexeme.isWord = true) :
    c ≠ '\x22' := by
  rintro rfl
  cases starts with
  | mark | text => cases word
  | number first => exact Lexeme.not_isFirst_of_mem (by decide) first

/-- A lexeme in front is found as its token. -/
theorem scan_lexeme (spelled : lexeme.Spelled cs) (reads : lexeme.Reads token)
    (ends : lexeme.isWord = true → ∀ c ∈ rest.head?, isWordChar c = false) :
    scan .gap (cs ++ rest) = (scan .gap rest).map (token :: ·) := by
  by_cases word : lexeme.isWord = true
  · obtain ⟨c, behind, rfl, starts⟩ := spelled.starts
    have front : (c :: behind) ++ rest = c :: (behind ++ rest) := rfl
    have notBlank : isBlank c = false := spelled.not_blank front
    obtain ⟨first, others⟩ := List.forall_mem_cons.mp (spelled.words word)
    have stepped : step .gap c = some ([], .word [c]) := by
      rw [step, stepGap, if_neg (by rw [notBlank]; exact Bool.false_ne_true),
        if_neg (not_quote_of_word starts word), if_pos first]
    rw [List.cons_append, scan_of_step stepped, scan_words others, scan_wordEnd (ends word),
      List.reverse_append, List.reverse_reverse, List.reverse_singleton, List.singleton_append,
      ofWord?_reads spelled reads word, Option.bind_some]
  · cases spelled with
    | constant | number => exact absurd rfl word
    | mark isMark =>
        cases reads with
        | openArray => exact scan_of_token rfl rest
        | closeArray => exact scan_of_token rfl rest
        | openObject => exact scan_of_token rfl rest
        | closeObject => exact scan_of_token rfl rest
        | comma => exact scan_of_token rfl rest
        | colon => exact scan_of_token rfl rest
    | @text value body spelled =>
        cases reads
        have opened : step .gap '\x22' = some ([], .text []) := rfl
        have closed : step (.text (value.toList.reverse ++ [])) '\x22' =
            some ([.text value], .gap) := by
          rw [List.append_nil, step, if_pos rfl, List.reverse_reverse, String.ofList_toList]
        rw [List.cons_append, scan_of_step opened, List.append_assoc, scan_textSpelled spelled,
          List.singleton_append, scan_of_token closed]

/-- **The scanner is complete.** It finds the tokens of the lexemes that the characters spell. -/
theorem ofChars?_spelled {lexemes : List Lexeme} {tokens : List Token}
    (spelled : Spelled lexemes cs) (reads : List.Forall₂ Lexeme.Reads lexemes tokens) :
    ofChars? cs = some tokens := by
  induction spelled generalizing tokens with
  | nil =>
      cases reads
      rfl
  | blank blank rest ih =>
      have stepped : step .gap _ = some ([], .gap) := if_pos blank
      exact (scan_of_step stepped _).trans (ih reads)
  | cons first rest ends ih =>
      cases reads with
      | cons read others =>
          rw [ofChars?, scan_lexeme first read ends, ← ofChars?, ih others]
          rfl

end Token

namespace Doc

mutual

/-- How deep the containers of a document are nested. -/
def depth : Doc → Nat
  | .array items => itemsDepth items + 1
  | .object members => membersDepth members + 1
  | _ => 0

/-- How deep the containers of the items of an array are nested. -/
def itemsDepth : List Doc → Nat
  | [] => 0
  | item :: items => max (depth item) (itemsDepth items)

/-- How deep the containers of the members of an object are nested. -/
def membersDepth : List (String × Doc) → Nat
  | [] => 0
  | (_, value) :: members => max (depth value) (membersDepth members)

end

end Doc

namespace Reading

open Doc

/-- What the tokens of a document do to a reader that expects a value: they finish this value,
unless too many containers are open. -/
structure Delivers (document : Doc) (value : Json) (tokens : List Token) : Prop where
  reads : List.Forall₂ Lexeme.Reads document.lexemes tokens
  starts : ∃ first others, tokens = first :: others ∧ first ≠ .closeArray
  run : ∀ stack : List OpenContainer, stack.length ≤ depthLimit →
    tokens.foldlM step (.expectValue stack) =
      if stack.length + document.depth ≤ depthLimit then some (.finished value stack) else none

/-- What the tokens of the items behind the first do to a reader that has finished the first. -/
structure DeliversItems (items : List Doc) (held : List Json) (tokens : List Token) : Prop where
  reads : List.Forall₂ Lexeme.Reads (itemLexemes items) tokens
  run : ∀ (value : Json) (before : List Json) (stack : List OpenContainer),
    stack.length + 1 ≤ depthLimit →
      (tokens ++ [Token.closeArray]).foldlM step (.finished value (.array before :: stack)) =
        if stack.length + (itemsDepth items + 1) ≤ depthLimit then
          some (.finished (.array ((value :: before).reverse ++ held)) stack)
        else none

/-- What the tokens of the members behind the first do to a reader that has finished the first. -/
structure DeliversMembers (members : List (String × Doc)) (front held : Members)
    (tokens : List Token) : Prop where
  reads : List.Forall₂ Lexeme.Reads (memberLexemes members) tokens
  run : ∀ (key : String) (value : Json) (before : Members) (stack : List OpenContainer),
    before.insert key value = front → stack.length + 1 ≤ depthLimit →
      (tokens ++ [Token.closeObject]).foldlM step (.finished value (.object before key :: stack)) =
        if stack.length + (membersDepth members + 1) ≤ depthLimit then
          some (.finished (.object held) stack)
        else none

/-- A scalar is one token, at any depth. -/
theorem delivers_scalar {document : Doc} {value : Json} {lexeme : Lexeme} {token : Token}
    (only : document.lexemes = [lexeme]) (flat : document.depth = 0) (reads : lexeme.Reads token)
    (other : token ≠ .closeArray)
    (stepped : ∀ stack, step (.expectValue stack) token = some (.finished value stack)) :
    Delivers document value [token] where
  reads := by
    rw [only]
    exact .cons reads .nil
  starts := ⟨token, [], rfl, other⟩
  run := by
    intro stack shallow
    rw [flat, Nat.add_zero, if_pos shallow, List.foldlM_cons, stepped]
    rfl

/-- The first item of an array is read like any value. -/
theorem foldlM_expectItem {first : Token} (other : first ≠ .closeArray) (others : List Token)
    (stack : List OpenContainer) :
    (first :: others).foldlM step (.expectItem stack) =
      (first :: others).foldlM step (.expectValue (.array [] :: stack)) := by
  have same : step (.expectItem stack) first = startValue (.array [] :: stack) first := by
    cases first with
    | closeArray => exact absurd rfl other
    | _ => rfl
  rw [List.foldlM_cons, List.foldlM_cons, same]
  rfl

/-- A container is opened if it is not nested too deep. -/
theorem step_open (stack : List OpenContainer) :
    step (.expectValue stack) .openArray =
        (if stack.length < depthLimit then some (.expectItem stack) else none) ∧
      step (.expectValue stack) .openObject =
        (if stack.length < depthLimit then some (.expectFirstKey stack) else none) := ⟨rfl, rfl⟩

/-- An array delivers the values of its items, as the first item and those behind it do. -/
theorem delivers_array {item : Doc} {items : List Doc} {value : Json} {held : List Json}
    {tokens others : List Token} (first : Delivers item value tokens)
    (rest : DeliversItems items held others) :
    Delivers (.array (item :: items)) (.array (value :: held))
      (.openArray :: (tokens ++ (others ++ [Token.closeArray]))) where
  reads := .cons .openArray
    (List.rel_append first.reads (List.rel_append rest.reads (.cons .closeArray .nil)))
  starts := ⟨_, _, rfl, nofun⟩
  run := by
    intro stack shallow
    obtain ⟨token, more, rfl, other⟩ := first.starts
    have depths : (Doc.array (item :: items)).depth =
        max item.depth (itemsDepth items) + 1 := rfl
    rw [List.foldlM_cons, (step_open stack).1, depths]
    by_cases room : stack.length < depthLimit
    · have inner := first.run (.array [] :: stack) room
      have behind := rest.run value [] stack room
      rw [if_pos room, Option.bind_eq_bind, Option.bind_some, List.cons_append,
        foldlM_expectItem other, ← List.cons_append, List.foldlM_append, inner, List.length_cons]
      by_cases fits : stack.length + 1 + item.depth ≤ depthLimit
      · rw [if_pos fits, Option.bind_eq_bind, Option.bind_some, behind]
        exact if_congr (by omega) rfl rfl
      · rw [if_neg fits, if_neg (by omega)]
        rfl
    · rw [if_neg room, if_neg (by omega)]
      rfl

/-- An object delivers the values of its members, as the first member and those behind it do. -/
theorem delivers_object {key : String} {document : Doc} {members : List (String × Doc)}
    {value : Json} {held : Members} {tokens others : List Token}
    (first : Delivers document value tokens)
    (rest : DeliversMembers members (Keyed.insert key value []) held others) :
    Delivers (.object ((key, document) :: members)) (.object held)
      (.openObject :: .text key :: .colon :: (tokens ++ (others ++ [Token.closeObject]))) where
  reads := .cons .openObject (.cons (.text key) (.cons .colon
    (List.rel_append first.reads (List.rel_append rest.reads (.cons .closeObject .nil)))))
  starts := ⟨_, _, rfl, nofun⟩
  run := by
    intro stack shallow
    have depths : (Doc.object ((key, document) :: members)).depth =
        max document.depth (membersDepth members) + 1 := rfl
    have named : step (.expectFirstKey stack) (.text key) = some (.expectColon [] key stack) := rfl
    have marked : step (.expectColon [] key stack) .colon =
        some (.expectValue (.object [] key :: stack)) := rfl
    rw [List.foldlM_cons, (step_open stack).2, depths]
    by_cases room : stack.length < depthLimit
    · have inner := first.run (.object [] key :: stack) room
      have behind := rest.run key value [] stack rfl room
      rw [if_pos room, Option.bind_eq_bind, Option.bind_some, List.foldlM_cons, named,
        Option.bind_eq_bind, Option.bind_some, List.foldlM_cons, marked, Option.bind_eq_bind,
        Option.bind_some, List.foldlM_append, inner, List.length_cons]
      by_cases fits : stack.length + 1 + document.depth ≤ depthLimit
      · rw [if_pos fits, Option.bind_eq_bind, Option.bind_some, behind]
        exact if_congr (by omega) rfl rfl
      · rw [if_neg fits, if_neg (by omega)]
        rfl
    · rw [if_neg room, if_neg (by omega)]
      rfl

/-- Empty containers deliver themselves. -/
theorem delivers_empty :
    Delivers (.array []) (.array []) [.openArray, .closeArray] ∧
      Delivers (.object []) (.object []) [.openObject, .closeObject] := by
  constructor
  · refine ⟨.cons .openArray (.cons .closeArray .nil), ⟨_, _, rfl, nofun⟩, ?_⟩
    intro stack shallow
    rw [List.foldlM_cons, (step_open stack).1]
    by_cases room : stack.length < depthLimit
    · rw [if_pos room]
      exact (if_pos (show stack.length + (0 + 1) ≤ depthLimit from room)).symm
    · rw [if_neg room]
      exact (if_neg (show ¬ stack.length + (0 + 1) ≤ depthLimit from room)).symm
  · refine ⟨.cons .openObject (.cons .closeObject .nil), ⟨_, _, rfl, nofun⟩, ?_⟩
    intro stack shallow
    rw [List.foldlM_cons, (step_open stack).2]
    by_cases room : stack.length < depthLimit
    · rw [if_pos room]
      exact (if_pos (show stack.length + (0 + 1) ≤ depthLimit from room)).symm
    · rw [if_neg room]
      exact (if_neg (show ¬ stack.length + (0 + 1) ≤ depthLimit from room)).symm

/-- Behind a comma one more item is delivered. -/
theorem deliversItems_cons {item : Doc} {items : List Doc} {value : Json} {held : List Json}
    {tokens others : List Token} (first : Delivers item value tokens)
    (rest : DeliversItems items held others) :
    DeliversItems (item :: items) (value :: held) (.comma :: (tokens ++ others)) where
  reads := .cons .comma (List.rel_append first.reads rest.reads)
  run := by
    intro last before stack room
    have inner := first.run (.array (last :: before) :: stack) room
    have behind := rest.run value (last :: before) stack room
    have marked : step (.finished last (.array before :: stack)) .comma =
        some (.expectValue (.array (last :: before) :: stack)) := rfl
    have depths : itemsDepth (item :: items) = max item.depth (itemsDepth items) := rfl
    rw [List.cons_append, List.foldlM_cons, marked, Option.bind_eq_bind, Option.bind_some,
      List.append_assoc, List.foldlM_append, inner, List.length_cons, depths]
    by_cases fits : stack.length + 1 + item.depth ≤ depthLimit
    · rw [if_pos fits, Option.bind_eq_bind, Option.bind_some, behind, List.reverse_cons,
        List.append_assoc, List.singleton_append]
      exact if_congr (by omega) rfl rfl
    · rw [if_neg fits, if_neg (by omega)]
      rfl

/-- Behind a comma one more member is delivered, and replaces an earlier one of its name. -/
theorem deliversMembers_cons {key : String} {document : Doc} {members : List (String × Doc)}
    {front held : Members} {value : Json} {tokens others : List Token}
    (first : Delivers document value tokens)
    (rest : DeliversMembers members (front.insert key value) held others) :
    DeliversMembers ((key, document) :: members) front held
      (.comma :: .text key :: .colon :: (tokens ++ others)) where
  reads := .cons .comma (.cons (.text key) (.cons .colon
    (List.rel_append first.reads rest.reads)))
  run := by
    rintro last final before stack rfl room
    have inner := first.run (.object (before.insert last final) key :: stack) room
    have behind := rest.run key value (before.insert last final) stack rfl room
    have marked : step (.finished final (.object before last :: stack)) .comma =
        some (.expectKey (before.insert last final) stack) := rfl
    have named : step (.expectKey (before.insert last final) stack) (.text key) =
        some (.expectColon (before.insert last final) key stack) := rfl
    have parted : step (.expectColon (before.insert last final) key stack) .colon =
        some (.expectValue (.object (before.insert last final) key :: stack)) := rfl
    have depths : membersDepth ((key, document) :: members) =
        max document.depth (membersDepth members) := rfl
    simp only [List.cons_append]
    rw [List.foldlM_cons, marked, Option.bind_eq_bind, Option.bind_some, List.foldlM_cons, named,
      Option.bind_eq_bind, Option.bind_some, List.foldlM_cons, parted, Option.bind_eq_bind,
      Option.bind_some, List.append_assoc, List.foldlM_append, inner, List.length_cons, depths]
    by_cases fits : stack.length + 1 + document.depth ≤ depthLimit
    · rw [if_pos fits, Option.bind_eq_bind, Option.bind_some, behind]
      exact if_congr (by omega) rfl rfl
    · rw [if_neg fits, if_neg (by omega)]
      rfl

mutual

/-- **The tokens of a document deliver it.** -/
theorem delivers : ∀ {document : Doc} {value : Json}, document.json? = some value →
    ∃ tokens, Delivers document value tokens
  | .null, _, read => by
      cases read
      exact ⟨_, delivers_scalar rfl rfl .null nofun fun _ => rfl⟩
  | .bool value, _, read => by
      cases read
      exact ⟨_, delivers_scalar rfl rfl (.bool value) nofun fun _ => rfl⟩
  | .text value, _, read => by
      cases read
      exact ⟨_, delivers_scalar rfl rfl (.text value) nofun fun _ => rfl⟩
  | .number n, _, read => by
      obtain ⟨number, found, rfl⟩ := Option.map_eq_some_iff.mp read
      exact ⟨_, delivers_scalar rfl rfl (.number found) nofun fun _ => rfl⟩
  | .array [], _, read => by
      cases read
      exact ⟨_, delivers_empty.1⟩
  | .object [], _, read => by
      cases read
      exact ⟨_, delivers_empty.2⟩
  | .array (item :: items), _, read => by
      obtain ⟨all, found, rfl⟩ := Option.map_eq_some_iff.mp read
      obtain ⟨value, own, others⟩ := Option.bind_eq_some_iff.mp found
      obtain ⟨held, behind, same⟩ := Option.bind_eq_some_iff.mp others
      cases same
      obtain ⟨tokens, first⟩ := delivers own
      obtain ⟨more, rest⟩ := deliversItems behind
      exact ⟨_, delivers_array first rest⟩
  | .object ((key, document) :: members), _, read => by
      obtain ⟨held, found, rfl⟩ := Option.map_eq_some_iff.mp read
      obtain ⟨value, own, others⟩ := Option.bind_eq_some_iff.mp found
      obtain ⟨tokens, first⟩ := delivers own
      obtain ⟨more, rest⟩ := deliversMembers others
      exact ⟨_, delivers_object first rest⟩

/-- The items of an array that are read are delivered. -/
theorem deliversItems : ∀ {items : List Doc} {held : List Json}, itemsJson? items = some held →
    ∃ tokens, DeliversItems items held tokens
  | [], _, read => by
      cases read
      refine ⟨[], .nil, ?_⟩
      intro value before stack room
      rw [List.append_nil]
      exact (if_pos room).symm
  | item :: items, _, read => by
      obtain ⟨value, own, others⟩ := Option.bind_eq_some_iff.mp read
      obtain ⟨held, behind, same⟩ := Option.bind_eq_some_iff.mp others
      cases same
      obtain ⟨tokens, first⟩ := delivers own
      obtain ⟨more, rest⟩ := deliversItems behind
      exact ⟨_, deliversItems_cons first rest⟩

/-- The members of an object that are read are delivered. -/
theorem deliversMembers : ∀ {members : List (String × Doc)} {front held : Members},
    membersJson? front members = some held → ∃ tokens, DeliversMembers members front held tokens
  | [], _, _, read => by
      cases read
      refine ⟨[], .nil, ?_⟩
      rintro key value before stack rfl room
      exact (if_pos room).symm
  | (key, document) :: members, _, _, read => by
      obtain ⟨value, own, others⟩ := Option.bind_eq_some_iff.mp read
      obtain ⟨tokens, first⟩ := delivers own
      obtain ⟨more, rest⟩ := deliversMembers others
      exact ⟨_, deliversMembers_cons first rest⟩

end

end Reading

namespace Json

/-- A text that spells a document with values is read unless it is nested too deep. -/
theorem parse?_of_spells {text : String} {document : Doc} {value : Json}
    (spells : document.Spells text) (read : document.json? = some value) :
    parse? text = if document.depth ≤ Reading.depthLimit then some value else none := by
  obtain ⟨tokens, delivers⟩ := Reading.delivers read
  have run := delivers.run [] (Nat.zero_le _)
  rw [List.length_nil, Nat.zero_add] at run
  rw [parse?_eq, Token.ofChars?_spelled spells delivers.reads, Option.bind_some, ofTokens?, run]
  split_ifs
  · rfl
  · rfl

/-- **What is read.** The texts that spell a document which is not nested too deep and whose
numerals have values, and these only. -/
theorem parse?_eq_some_iff {text : String} {value : Json} :
    parse? text = some value ↔ ∃ document : Doc, document.Spells text ∧
      document.json? = some value ∧ document.depth ≤ Reading.depthLimit := by
  constructor
  · intro read
    obtain ⟨document, spells, found⟩ := parse?_sound read
    refine ⟨document, spells, found, ?_⟩
    by_contra deep
    rw [parse?_of_spells spells found, if_neg deep] at read
    cases read
  · rintro ⟨document, spells, found, shallow⟩
    rw [parse?_of_spells spells found, if_pos shallow]

end Json
end ClusterClient
