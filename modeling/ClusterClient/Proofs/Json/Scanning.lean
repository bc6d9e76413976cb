import ClusterClient.Proofs.Json.Grammar
import ClusterClient.Proofs.Json.Text
import Mathlib.Data.List.Forall2

/-! # What the scanner finds

The scanner cuts a text into spellings of lexemes, and the tokens that it finds are those of the
lexemes (`ClusterClient.Token.scanned`). Each of its modes stands for what was seen of a lexeme; the
induction is on the characters that follow (`ClusterClient.Token.Scans`).
-/

namespace ClusterClient

/-- The token of a lexeme. A numeral has one only if it has a value. -/
inductive Lexeme.Reads : Lexeme → Token → Prop
  | openArray : Reads (.mark '[') .openArray
  | closeArray : Reads (.mark ']') .closeArray
  | openObject : Reads (.mark '\x7b') .openObject
  | closeObject : Reads (.mark '\x7d') .closeObject
  | comma : Reads (.mark ',') .comma
  | colon : Reads (.mark ':') .colon
  | null : Reads (.constant none) .null
  | bool (value : Bool) : Reads (.constant (some value)) (.bool value)
  | number {n : Numeral} {value : JsonNumber} (found : n.value? = some value) :
      Reads (.number n) (.number value)
  | text (value : String) : Reads (.text value) (.text value)

namespace Token

/-- The tokens of the characters are those of lexemes that the characters spell. -/
def Scanned (cs : List Char) (tokens : List Token) : Prop :=
  ∃ lexemes, Spelled lexemes cs ∧ List.Forall₂ Lexeme.Reads lexemes tokens

/-- A blank in front changes nothing. -/
theorem Scanned.blank {c : Char} {cs : List Char} {tokens : List Token}
    (isBlank : Token.isBlank c = true) : Scanned cs tokens → Scanned (c :: cs) tokens
  | ⟨lexemes, spelled, read⟩ => ⟨lexemes, .blank isBlank spelled, read⟩

/-- A lexeme in front is one token more. -/
theorem Scanned.cons {lexeme : Lexeme} {spelling cs : List Char} {token : Token}
    {tokens : List Token} (first : lexeme.Spelled spelling) (read : lexeme.Reads token)
    (ends : lexeme.isWord = true → ∀ c ∈ cs.head?, isWordChar c = false) :
    Scanned cs tokens → Scanned (spelling ++ cs) (token :: tokens)
  | ⟨lexemes, spelled, others⟩ => ⟨lexeme :: lexemes, .cons first spelled ends, .cons read others⟩

/-- The characters behind the start of a text end it, and behind it stand further tokens. -/
def ScannedText (seen cs : List Char) (tokens : List Token) : Prop :=
  ∃ texts body rest others, cs = body ++ '\x22' :: rest ∧ TextSpelled texts body ∧
    Scanned rest others ∧ tokens = .text (String.ofList (seen.reverse ++ texts)) :: others

/-- A spelling in front is one character more in the text. -/
theorem ScannedText.cons {c : Char} {seen spelling cs : List Char} {tokens : List Token}
    (first : CharSpelled c spelling) :
    ScannedText (c :: seen) cs tokens → ScannedText seen (spelling ++ cs) tokens
  | ⟨texts, body, rest, others, same, spelled, scanned, read⟩ => by
    refine ⟨c :: texts, spelling ++ body, rest, others, ?_, .cons first spelled, scanned, ?_⟩
    · rw [same, List.append_assoc]
    · rw [read, List.reverse_cons, List.append_assoc, List.singleton_append]

/-- The words that stand for tokens are those of lexemes. -/
theorem ofWord?_spelled {word : List Char} {token : Token} (read : ofWord? word = some token) :
    ∃ lexeme : Lexeme, lexeme.Spelled word ∧ lexeme.Reads token ∧ lexeme.isWord = true := by
  unfold ofWord? at read
  split_ifs at read with null true_ false_
  · cases read
    exact ⟨.constant none, null ▸ .constant none, .null, rfl⟩
  · cases read
    exact ⟨.constant (some true), true_ ▸ .constant (some true), .bool true, rfl⟩
  · cases read
    exact ⟨.constant (some false), false_ ▸ .constant (some false), .bool false, rfl⟩
  · obtain ⟨n, spelled, value⟩ := Option.bind_eq_some_iff.mp read
    obtain ⟨number, found, same⟩ := Option.bind_eq_some_iff.mp value
    cases same
    exact ⟨.number n, .number (Numeral.ofChars?_iff.mp spelled), .number found, rfl⟩

/-- The characters that are read as marks are the marks. -/
theorem ofPunctuation?_spelled {c : Char} {token : Token} (read : ofPunctuation? c = some token) :
    Lexeme.Spelled (.mark c) [c] ∧ Lexeme.Reads (.mark c) token := by
  unfold ofPunctuation? at read
  split_ifs at read with a b d e f g
  all_goals cases read
  all_goals subst c
  · exact ⟨.mark (by decide), .openArray⟩
  · exact ⟨.mark (by decide), .closeArray⟩
  · exact ⟨.mark (by decide), .openObject⟩
  · exact ⟨.mark (by decide), .closeObject⟩
  · exact ⟨.mark (by decide), .comma⟩
  · exact ⟨.mark (by decide), .colon⟩

/-- One digit of an escape. -/
theorem scan_digit {seen cs : List Char} {lead : Option Nat} {count value : Nat}
    {tokens : List Token} (scanned : scan (.unit seen lead count value) cs = some tokens) :
    ∃ c rest digit mode, cs = c :: rest ∧ hexValue? c = some digit ∧
      (if count = 3 then afterUnit? seen lead (value * 16 + digit)
        else some (.unit seen lead (count + 1) (value * 16 + digit))) = some mode ∧
      scan mode rest = some tokens := by
  cases cs with
  | nil => cases scanned
  | cons c rest =>
      rw [scan_cons] at scanned
      obtain ⟨taken, stepped, others⟩ := Option.bind_eq_some_iff.mp scanned
      obtain ⟨digit, hex, moved⟩ := Option.bind_eq_some_iff.mp stepped
      by_cases last : count = 3
      · rw [if_pos last] at moved
        obtain ⟨mode, after, same⟩ := Option.bind_eq_some_iff.mp moved
        cases same
        refine ⟨c, rest, digit, mode, rfl, hex, (if_pos last).trans after, ?_⟩
        simpa only [List.nil_append, Option.map_id'] using others
      · rw [if_neg last] at moved
        cases moved
        refine ⟨c, rest, digit, _, rfl, hex, if_neg last, ?_⟩
        simpa only [List.nil_append, Option.map_id'] using others

/-- The four digits of an escape. -/
theorem scan_unit {seen cs : List Char} {lead : Option Nat} {tokens : List Token}
    (scanned : scan (.unit seen lead 0 0) cs = some tokens) :
    ∃ digits value mode rest, cs = digits ++ rest ∧ CodeUnit digits value ∧
      afterUnit? seen lead value = some mode ∧ scan mode rest = some tokens := by
  obtain ⟨a, _, p, _, rfl, first, ⟨⟩, scanned⟩ := scan_digit scanned
  obtain ⟨b, _, q, _, rfl, second, ⟨⟩, scanned⟩ := scan_digit scanned
  obtain ⟨c, _, r, _, rfl, third, ⟨⟩, scanned⟩ := scan_digit scanned
  obtain ⟨d, rest, s, mode, rfl, fourth, after, scanned⟩ := scan_digit scanned
  rw [if_pos rfl, Nat.zero_mul, Nat.zero_add] at after
  exact ⟨[a, b, c, d], _, mode, rest, rfl, .mk first second third fourth, after, scanned⟩

theorem hexValue?_lt {c : Char} {value : Nat} (hex : hexValue? c = some value) : value < 16 := by
  unfold hexValue? at hex
  have bounds : ∀ low high : Char, low ≤ c ∧ c ≤ high →
      low.toNat ≤ c.toNat ∧ c.toNat ≤ high.toNat :=
    fun low high between => between
  split_ifs at hex with digit small large
  · cases hex
    have := Char.isDigit_iff_toNat.mp digit
    simp only [Char.reduceToNat] at this ⊢
    omega
  · cases hex
    have := bounds 'a' 'f' small
    simp only [Char.reduceToNat] at this ⊢
    omega
  · cases hex
    have := bounds 'A' 'F' large
    simp only [Char.reduceToNat] at this ⊢
    omega

/-- Four hexadecimal digits are less than `2 ^ 16`. -/
theorem codeUnit_lt {digits : List Char} {value : Nat} (unit : CodeUnit digits value) :
    value < 0x10000 := by
  obtain ⟨first, second, third, fourth⟩ := unit
  have := hexValue?_lt first
  have := hexValue?_lt second
  have := hexValue?_lt third
  have := hexValue?_lt fourth
  omega

/-- A code that is valid is that of its character. -/
theorem toNat_ofNat {code : Nat} (valid : code.isValidChar) : (Char.ofNat code).toNat = code := by
  rw [Char.ofNat, dif_pos valid]
  rfl

/-- Behind a leading surrogate another code must follow. -/
theorem scan_lead {seen cs : List Char} {surrogate : Nat} {tokens : List Token}
    (scanned : scan (.lead seen surrogate) cs = some tokens) :
    ∃ rest, cs = '\\' :: 'u' :: rest ∧
      scan (.unit seen (some surrogate) 0 0) rest = some tokens := by
  cases cs with
  | nil => cases scanned
  | cons c cs =>
      by_cases backslash : c = '\\'
      · subst backslash
        have stepped : step (.lead seen surrogate) '\\' =
            some ([], .leadEscape seen surrogate) := rfl
        rw [scan_of_step stepped] at scanned
        cases cs with
        | nil => cases scanned
        | cons d cs =>
            by_cases mark : d = 'u'
            · subst mark
              have stepped : step (.leadEscape seen surrogate) 'u' =
                  some ([], .unit seen (some surrogate) 0 0) := rfl
              rw [scan_of_step stepped] at scanned
              exact ⟨cs, rfl, scanned⟩
            · rw [scan_cons, step, if_neg mark] at scanned
              cases scanned
      · rw [scan_cons, step, if_neg backslash] at scanned
        cases scanned

/-- The rest of a text behind the code of a character. -/
theorem scan_code {seen cs : List Char} {tokens : List Token}
    (scanned : scan (.unit seen none 0 0) cs = some tokens) :
    ∃ c spelling rest, cs = spelling ++ rest ∧ CharSpelled c ('\\' :: 'u' :: spelling) ∧
      scan (.text (c :: seen)) rest = some tokens := by
  obtain ⟨digits, value, mode, rest, rfl, unit, after, scanned⟩ := scan_unit scanned
  have room := codeUnit_lt unit
  simp only [afterUnit?] at after
  split_ifs at after with leads trails
  · cases after
    obtain ⟨behind, rfl, others⟩ := scan_lead scanned
    obtain ⟨digits', value', mode, rest, rfl, unit', after, scanned⟩ := scan_unit others
    simp only [afterUnit?] at after
    split_ifs at after with trails
    cases after
    have valid : (0x10000 + (value - 0xD800) * 0x400 + (value' - 0xDC00)).isValidChar := by
      have first := of_decide_eq_true leads
      have second := of_decide_eq_true trails
      unfold Nat.isValidChar
      omega
    refine ⟨_, digits ++ '\\' :: 'u' :: digits', rest, ?_, .pair unit unit' leads trails ?_,
      scanned⟩
    · simp only [List.append_assoc, List.cons_append]
    · exact toNat_ofNat valid
  · cases after
    have valid : value.isValidChar := by
      simp only [isLead, isTrail, decide_eq_true_eq] at leads trails
      unfold Nat.isValidChar
      omega
    refine ⟨Char.ofNat value, digits, rest, rfl, .code ?_, scanned⟩
    rwa [toNat_ofNat valid]

/-- What the scanner finds in the characters from each of its modes on. -/
structure Scans (cs : List Char) : Prop where
  gap : ∀ tokens, scan .gap cs = some tokens → Scanned cs tokens
  word : ∀ seen tokens, scan (.word seen) cs = some tokens → Scanned (seen.reverse ++ cs) tokens
  text : ∀ seen tokens, scan (.text seen) cs = some tokens → ScannedText seen cs tokens

/-- At the end of a text only a gap or a word can be scanned. -/
theorem scans_nil : Scans [] where
  gap tokens scanned := by
    cases scanned
    exact ⟨[], .nil, .nil⟩
  word seen tokens scanned := by
    obtain ⟨token, word, same⟩ := Option.map_eq_some_iff.mp scanned
    cases same
    obtain ⟨lexeme, spelled, read, _⟩ := ofWord?_spelled word
    exact .cons spelled read (fun _ => nofun) ⟨[], .nil, .nil⟩
  text seen tokens scanned := by cases scanned

/-- A text with its quotes is one lexeme. -/
theorem ScannedText.closed {cs : List Char} {tokens : List Token} :
    ScannedText [] cs tokens → Scanned ('\x22' :: cs) tokens
  | ⟨texts, body, rest, others, same, spelled, scanned, read⟩ => by
    rw [same, read]
    have first : Lexeme.Spelled (.text (String.ofList texts)) ('\x22' :: (body ++ ['\x22'])) :=
      .text (by rwa [String.toList_ofList])
    have whole := Scanned.cons first (.text _) nofun scanned
    rwa [List.cons_append, List.append_assoc, List.singleton_append] at whole

/-- In a gap a character is blank, or starts a token. -/
theorem scans_gap {c : Char} {cs : List Char} (rest : Scans cs) {tokens : List Token}
    (scanned : scan .gap (c :: cs) = some tokens) : Scanned (c :: cs) tokens := by
  by_cases blank : isBlank c = true
  · have stepped : step .gap c = some ([], .gap) := if_pos blank
    rw [scan_of_step stepped] at scanned
    exact .blank blank (rest.gap tokens scanned)
  by_cases quote : c = '\x22'
  · subst quote
    have stepped : step .gap '\x22' = some ([], .text []) := rfl
    rw [scan_of_step stepped] at scanned
    exact (rest.text [] tokens scanned).closed
  by_cases word : isWordChar c = true
  · have stepped : step .gap c = some ([], .word [c]) := by
      rw [step, stepGap, if_neg blank, if_neg quote, if_pos word]
    rw [scan_of_step stepped] at scanned
    exact rest.word [c] tokens scanned
  · cases mark : ofPunctuation? c with
    | none =>
        rw [scan_cons, step, stepGap, if_neg blank, if_neg quote, if_neg word, mark] at scanned
        cases scanned
    | some token =>
        have stepped : step .gap c = some ([token], .gap) := by
          rw [step, stepGap, if_neg blank, if_neg quote, if_neg word, mark]
          rfl
        rw [scan_of_token stepped] at scanned
        obtain ⟨others, behind, rfl⟩ := Option.map_eq_some_iff.mp scanned
        obtain ⟨spelled, read⟩ := ofPunctuation?_spelled mark
        have noWord : Lexeme.isWord (.mark c) ≠ true := Bool.false_ne_true
        exact .cons spelled read (fun word => absurd word noWord) (rest.gap others behind)

/-- Behind a word its token is finished and what follows is scanned from a gap on. -/
theorem scan_word_end {seen cs : List Char} {c : Char} (other : ¬ isWordChar c = true) :
    scan (.word seen) (c :: cs) =
      (ofWord? seen.reverse).bind fun token => (scan .gap (c :: cs)).map (token :: ·) := by
  rw [scan_cons, step, if_neg other, scan_cons]
  cases ofWord? seen.reverse with
  | none => rfl
  | some token =>
      cases stepped : stepGap c with
      | none =>
          simp only [step, stepped]
          rfl
      | some taken =>
          simp only [step, stepped]
          change (scan taken.2 cs).map (token :: taken.1 ++ ·) =
            ((scan taken.2 cs).map (taken.1 ++ ·)).map (token :: ·)
          rw [Option.map_map]
          rfl

/-- In a word a character goes on with it, or ends it and is scanned as one in a gap. -/
theorem scans_word {c : Char} {cs : List Char} (rest : Scans cs) {seen : List Char}
    {tokens : List Token} (scanned : scan (.word seen) (c :: cs) = some tokens) :
    Scanned (seen.reverse ++ c :: cs) tokens := by
  by_cases word : isWordChar c = true
  · have stepped : step (.word seen) c = some ([], .word (c :: seen)) := if_pos word
    rw [scan_of_step stepped] at scanned
    have longer := rest.word (c :: seen) tokens scanned
    rwa [List.reverse_cons, List.append_assoc, List.singleton_append] at longer
  · -- The character that ends the word is scanned again, from the gap behind it on.
    rw [scan_word_end word] at scanned
    obtain ⟨token, read, behind⟩ := Option.bind_eq_some_iff.mp scanned
    obtain ⟨others, found, rfl⟩ := Option.map_eq_some_iff.mp behind
    obtain ⟨lexeme, spelled, named, _⟩ := ofWord?_spelled read
    refine .cons spelled named (fun _ => ?_) (scans_gap rest found)
    rintro _ ⟨⟩
    exact Bool.eq_false_iff.mpr word

/-- In a text a character stands for itself, ends the text or starts an escape, which can be long.
-/
theorem scans_text {c : Char} {cs : List Char}
    (smaller : ∀ ds : List Char, ds.length ≤ cs.length → Scans ds) {seen : List Char}
    {tokens : List Token} (scanned : scan (.text seen) (c :: cs) = some tokens) :
    ScannedText seen (c :: cs) tokens := by
  have rest := smaller cs le_rfl
  by_cases quote : c = '\x22'
  · subst quote
    have stepped : step (.text seen) '\x22' =
        some ([.text (String.ofList seen.reverse)], .gap) := rfl
    rw [scan_of_token stepped] at scanned
    obtain ⟨others, behind, rfl⟩ := Option.map_eq_some_iff.mp scanned
    exact ⟨[], [], cs, others, rfl, .nil, rest.gap others behind, by rw [List.append_nil]⟩
  by_cases backslash : c = '\\'
  · subst backslash
    have stepped : step (.text seen) '\\' = some ([], .escape seen) := rfl
    rw [scan_of_step stepped] at scanned
    cases cs with
    | nil => cases scanned
    | cons name cs =>
        by_cases code : name = 'u'
        · subst code
          have stepped : step (.escape seen) 'u' = some ([], .unit seen none 0 0) := rfl
          rw [scan_of_step stepped] at scanned
          obtain ⟨d, spelling, behind, rfl, spelled, scanned⟩ := scan_code scanned
          have shorter : behind.length ≤ ('u' :: (spelling ++ behind)).length := by
            simp only [List.length_cons, List.length_append]
            omega
          exact ((smaller behind shorter).text _ tokens scanned).cons spelled
        · cases stands : ofEscape? name with
          | none =>
              rw [scan_cons, step, if_neg code, stands] at scanned
              cases scanned
          | some d =>
              have stepped : step (.escape seen) name = some ([], .text (d :: seen)) := by
                rw [step, if_neg code, stands]
                rfl
              rw [scan_of_step stepped] at scanned
              exact ((smaller cs (Nat.le_succ _)).text _ tokens scanned).cons (.letter stands)
  · by_cases control : c.toNat < 0x20
    · rw [scan_cons, step, if_neg quote, if_neg backslash, if_pos control] at scanned
      cases scanned
    · have stepped : step (.text seen) c = some ([], .text (c :: seen)) := by
        rw [step, if_neg quote, if_neg backslash, if_neg control]
      rw [scan_of_step stepped] at scanned
      exact (rest.text _ tokens scanned).cons (.plain (Nat.le_of_not_lt control) quote backslash)

/-- What the scanner finds in all characters. -/
theorem scans (cs : List Char) : Scans cs := by
  -- Not structural: an escape takes several characters before the text goes on.
  induction length : cs.length using Nat.strong_induction_on generalizing cs with
  | _ bound ih =>
      cases cs with
      | nil => exact scans_nil
      | cons c cs =>
          subst length
          have smaller : ∀ ds : List Char, ds.length ≤ cs.length → Scans ds :=
            fun ds shorter => ih ds.length (Nat.lt_succ_of_le shorter) ds rfl
          have rest := smaller cs le_rfl
          exact
            { gap := fun tokens scanned => scans_gap rest scanned
              word := fun seen tokens scanned => scans_word rest scanned
              text := fun seen tokens scanned => scans_text smaller scanned }

/-- **The scanner.** The tokens that it finds are those of lexemes that the characters spell. -/
theorem scanned {cs : List Char} {tokens : List Token} (found : ofChars? cs = some tokens) :
    Scanned cs tokens := (scans cs).gap tokens found

end Token

end ClusterClient
