import ClusterClient.Proofs.Json.Exact
import ClusterClient.Proofs.Json.Meaning
import ClusterClient.Proofs.Json.Text

/-! # What is written for a document

What is written for a number is a numeral of the same value, however its digits are laid out
(`ClusterClient.Json.numberText_spelled`), and what is written for a text spells it. So what is
written for a document is a JSON text for a document of the same meaning
(`ClusterClient.Json.compact_spells`).
-/

namespace ClusterClient

namespace Numeral

/-- The decimal digits of a whole number are digits, and there is one. -/
theorem decimalDigits_digits (n : Nat) : Digits (decimalDigits n) :=
  ⟨Nat.toDigits_ne_nil, fun _ member => Nat.isDigit_of_mem_toDigits (by norm_num) le_rfl member⟩

/-- Only zero has the digit zero. -/
theorem digitChar_ne_zero : ∀ n < 10, n.digitChar = '0' → n = 0 := by decide

/-- Only zero is written with a zero in front. -/
theorem eq_zero_of_leading {n : Nat} (leading : (decimalDigits n).head? = some '0') : n = 0 := by
  induction n using Nat.strongRecOn with
  | ind n ih =>
      rcases Nat.lt_or_ge n 10 with small | large
      · rw [decimalDigits, Nat.toDigits_of_lt_base small] at leading
        exact digitChar_ne_zero n small (Option.some.inj leading)
      · rw [decimalDigits, Nat.toDigits_of_base_le (by norm_num) large,
          List.head?_append_of_ne_nil _ Nat.toDigits_ne_nil] at leading
        have none := ih (n / 10) (Nat.div_lt_self (by omega) (by norm_num)) leading
        omega

/-- No whole number but zero starts with a zero. -/
theorem decimalDigits_leading {n : Nat} (leading : (decimalDigits n).head? = some '0') :
    decimalDigits n = ['0'] := by
  rw [eq_zero_of_leading leading]
  rfl

/-- Zeros are worth nothing. -/
theorem digitsValue_zeros (count : Nat) : digitsValue (List.replicate count '0') = 0 := by
  rw [digitsValue_eq, Nat.ofDigitChars_replicate_zero, Nat.mul_zero]

/-- Whether characters write a magnitude, whatever the sign. -/
def Writes (cs : List Char) (magnitude : ℚ) : Prop :=
  ∀ negative : Bool, ∃ n : Numeral,
    n.Spelled ((if negative then ['-'] else []) ++ cs) ∧
      n.exact = (if negative then -1 else 1) * magnitude

/-- A whole number is written by its digits. -/
theorem writes_whole (n : Nat) : Writes (decimalDigits n) n := by
  intro negative
  refine ⟨⟨negative, decimalDigits n, none, none⟩, ?_, ?_⟩
  · have spelled : Spelled ⟨negative, decimalDigits n, none, none⟩ _ :=
      .mk (decimalDigits_digits n) decimalDigits_leading .none .none
    rwa [List.append_nil, List.append_nil] at spelled
  · rw [exact_integer ⟨rfl, rfl⟩, integer, digitsValue_decimalDigits]
    cases negative with
    | true =>
        rw [if_pos rfl, if_pos rfl]
        push_cast
        ring
    | false =>
        rw [if_neg Bool.false_ne_true, if_neg Bool.false_ne_true]
        push_cast
        ring

/-- A magnitude is written with a point. -/
theorem writes_point {whole fraction : List Char} (several : Digits whole)
    (leading : whole.head? = some '0' → whole = ['0']) (behind : Digits fraction) :
    Writes (whole ++ '.' :: fraction)
      (digitsValue (whole ++ fraction) * 10 ^ (-(fraction.length : Int))) := by
  intro negative
  refine ⟨⟨negative, whole, some fraction, none⟩, ?_, ?_⟩
  · have spelled : Spelled ⟨negative, whole, some fraction, none⟩ _ :=
      .mk several leading (.some behind) .none
    rwa [List.append_nil] at spelled
  · rw [exact, sign, scale, exponentValue, digits, Option.getD_some, zero_sub]

/-- How an exponent is written, with its sign. -/
theorem exponentText_spelled (power : Int) :
    ∃ exponent, ExponentSpelled (some exponent) ('e' :: DecimalLayout.exponentText power) ∧
      ∀ (negative : Bool) (whole : List Char) (fraction : Option (List Char)),
        exponentValue ⟨negative, whole, fraction, some exponent⟩ = power := by
  unfold DecimalLayout.exponentText
  split_ifs with up
  · refine ⟨(false, decimalDigits power.toNat),
      .some (.inl rfl) .plus (decimalDigits_digits _), fun _ _ _ => ?_⟩
    change (digitsValue (decimalDigits power.toNat) : Int) = power
    rw [digitsValue_decimalDigits]
    omega
  · refine ⟨(true, decimalDigits (-power).toNat),
      .some (.inl rfl) .minus (decimalDigits_digits _), fun _ _ _ => ?_⟩
    change -(digitsValue (decimalDigits (-power).toNat) : Int) = power
    rw [digitsValue_decimalDigits]
    omega

/-- A magnitude is written with an exponent behind one digit, and a point between them if there are
others. -/
theorem writes_scientific {digits : List Char} (several : Digits digits) (power : Int) :
    Writes (DecimalLayout.scientific digits power)
      (digitsValue digits * 10 ^ (power - ((digits.length : Int) - 1))) := by
  obtain ⟨exponent, scaled, value⟩ := exponentText_spelled power
  obtain ⟨first, rest, rfl⟩ := List.exists_cons_of_ne_nil several.1
  obtain ⟨digit, others⟩ := List.forall_mem_cons.mp several.2
  have one : Digits [first] :=
    ⟨List.cons_ne_nil _ _, List.forall_mem_cons.mpr ⟨digit, List.forall_mem_nil _⟩⟩
  have leading : [first].head? = some '0' → [first] = ['0'] := by
    rintro ⟨⟩
    rfl
  intro negative
  cases rest with
  | nil =>
      refine ⟨⟨negative, [first], none, some exponent⟩, .mk one leading .none scaled, ?_⟩
      rw [exact, sign, scale, value, Numeral.digits]
      simp
  | cons second rest =>
      refine ⟨⟨negative, [first], some (second :: rest), some exponent⟩,
        .mk one leading (.some ⟨List.cons_ne_nil _ _, others⟩) scaled, ?_⟩
      rw [exact, sign, scale, value, Numeral.digits]
      simp

/-- Digits behind digits are digits. -/
theorem Digits.append {cs ds : List Char} (first : Digits cs)
    (others : ∀ c ∈ ds, c.isDigit = true) : Digits (cs ++ ds) :=
  ⟨List.append_ne_nil_of_left_ne_nil first.1 _, List.forall_mem_append.mpr ⟨first.2, others⟩⟩

theorem isDigit_zeros (count : Nat) : ∀ c ∈ List.replicate count '0', c.isDigit = true := by
  intro c member
  rw [List.eq_of_mem_replicate member]
  rfl

/-- A magnitude of at least one is written with a point behind its leading digits. -/
theorem writes_large {digits : List Char} (several : Digits digits) (power : Nat)
    (leading : digits.head? = some '0' → digits = ['0'] ∧ power = 0) :
    Writes (DecimalLayout.positional digits power)
      (digitsValue digits * 10 ^ (power - ((digits.length : Int) - 1))) := by
  have filled := List.length_pos_iff.mpr several.1
  unfold DecimalLayout.positional
  rw [if_pos (Int.natCast_nonneg power), Int.toNat_natCast]
  simp only
  rcases Nat.lt_or_ge (power + 1) digits.length with longer | shorter
  · -- The point stands between the digits.
    have taken : (digits.take (power + 1)).length = power + 1 := List.length_take_of_le longer.le
    have rest : digits.drop (power + 1) ≠ [] := by
      rw [ne_eq, List.drop_eq_nil_iff]
      omega
    have filled : digits.take (power + 1) ≠ [] := List.length_pos_iff.mp (by omega)
    have whole : Digits (digits.take (power + 1)) :=
      ⟨filled, fun c member => several.2 c (List.mem_of_mem_take member)⟩
    have plain : (digits.take (power + 1)).head? = some '0' →
        digits.take (power + 1) = ['0'] := by
      rw [List.head?_take, if_neg (Nat.succ_ne_zero power)]
      intro zero
      rw [(leading zero).1] at longer
      simp at longer
    have behind : Digits (digits.drop (power + 1)) :=
      ⟨rest, fun c member => several.2 c (List.mem_of_mem_drop member)⟩
    have written := writes_point whole plain behind
    have places : (-((digits.drop (power + 1)).length : Int)) =
        power - ((digits.length : Int) - 1) := by
      rw [List.length_drop]
      omega
    rw [List.take_append_drop, places] at written
    rw [taken, Nat.sub_self, List.replicate_zero, List.append_nil,
      List.isEmpty_eq_false_iff.mpr rest, if_neg Bool.false_ne_true]
    exact written
  · -- Zeros fill the places up to the point.
    have whole := several.append (isDigit_zeros (power + 1 - digits.length))
    have plain : (digits ++ List.replicate (power + 1 - digits.length) '0').head? = some '0' →
        digits ++ List.replicate (power + 1 - digits.length) '0' = ['0'] := by
      rw [List.head?_append_of_ne_nil _ several.1]
      intro zero
      obtain ⟨rfl, rfl⟩ := leading zero
      rfl
    have zero : Digits ['0'] := ⟨List.cons_ne_nil _ _, List.all_eq_true.mp rfl⟩
    have written := writes_point whole plain zero
    have total : ((digitsValue (digits ++ List.replicate (power + 1 - digits.length) '0' ++ ['0']) :
        Nat) * 10 ^ (-((['0'] : List Char).length : Int)) : ℚ) =
          digitsValue digits * 10 ^ (power - ((digits.length : Int) - 1)) := by
      have value := digitsValue_zeros (power + 1 - digits.length + 1)
      have places : power - ((digits.length : Int) - 1) =
          ((power + 1 - digits.length + 1 : Nat) : Int) + -1 := by omega
      rw [List.append_assoc, ← List.replicate_succ', digitsValue_append, value,
        List.length_replicate, places, zpow_add₀ (by norm_num), zpow_natCast]
      push_cast
      simp only [List.length_singleton, Nat.cast_one]
      ring
    rw [total] at written
    rw [List.take_of_length_le shorter, List.drop_eq_nil_of_le shorter]
    exact written

/-- A magnitude less than one is written behind a point and zeros. -/
theorem writes_small {digits : List Char} (several : Digits digits) {power : Int}
    (small : power < 0) :
    Writes (DecimalLayout.positional digits power)
      (digitsValue digits * 10 ^ (power - ((digits.length : Int) - 1))) := by
  have zeros := isDigit_zeros ((-power).toNat - 1)
  have behind : Digits (List.replicate ((-power).toNat - 1) '0' ++ digits) :=
    ⟨List.append_ne_nil_of_right_ne_nil _ several.1, List.forall_mem_append.mpr ⟨zeros, several.2⟩⟩
  have zero : Digits ['0'] := ⟨List.cons_ne_nil _ _, List.all_eq_true.mp rfl⟩
  have written := writes_point zero (fun _ => rfl) behind
  have value : digitsValue (['0'] ++ (List.replicate ((-power).toNat - 1) '0' ++ digits)) =
      digitsValue digits := by
    rw [← List.append_assoc, digitsValue_append, digitsValue_append, digitsValue_zeros]
    simp [digitsValue, digitValue]
  have places : (-((List.replicate ((-power).toNat - 1) '0' ++ digits).length : Int)) =
      power - ((digits.length : Int) - 1) := by
    rw [List.length_append, List.length_replicate]
    omega
  rw [value, places] at written
  unfold DecimalLayout.positional
  rw [if_neg (by omega)]
  exact written

/-- A decimal is written by its digits, laid out for the power of its leading digit. -/
theorem writes_decimal (layout : DecimalLayout) {decimal : Decimal}
    (zero : decimal.digits = 0 → decimal.exponent = 0) :
    let digits := decimalDigits decimal.digits
    let power := decimal.exponent + (digits.length : Int) - 1
    Writes
      (if layout.leastPower ≤ power ∧ power ≤ layout.greatestPower then
        DecimalLayout.positional digits power
      else DecimalLayout.scientific digits power) decimal.worth := by
  intro digits power
  have several : Digits digits := decimalDigits_digits decimal.digits
  have worth : decimal.worth = digitsValue digits * 10 ^ (power - ((digits.length : Int) - 1)) := by
    have places : power - ((digits.length : Int) - 1) = decimal.exponent := by omega
    rw [places, digitsValue_decimalDigits, Decimal.worth]
  rw [worth]
  split_ifs
  · rcases le_or_gt 0 power with large | small
    · obtain ⟨places, same⟩ := Int.eq_ofNat_of_zero_le large
      rw [same]
      refine writes_large several places fun leading => ?_
      have none := eq_zero_of_leading leading
      have only : digits = ['0'] := decimalDigits_leading leading
      have exponent := zero none
      have length : digits.length = 1 := congrArg List.length only
      exact ⟨only, by omega⟩
    · exact writes_small several small
  · exact writes_scientific several power

end Numeral

/-- **What is written for a number is a numeral of the same value.** -/
theorem Json.numberText_spelled (value : JsonNumber) :
    ∃ n : Numeral, n.Spelled (numberText value) ∧ n.exact = value.printed := by
  cases value with
  | whole value =>
      cases value with
      | ofNat k =>
          obtain ⟨n, spelled, exact⟩ := Numeral.writes_whole k false
          refine ⟨n, spelled, ?_⟩
          rw [exact, if_neg Bool.false_ne_true, one_mul]
          rfl
      | negSucc k =>
          obtain ⟨n, spelled, exact⟩ := Numeral.writes_whole (k + 1) true
          refine ⟨n, spelled, ?_⟩
          rw [exact, if_pos rfl, JsonNumber.printed, Int.cast_negSucc, neg_one_mul]
  | double d =>
      obtain ⟨n, spelled, exact⟩ := Numeral.writes_decimal numberLayout d.shortest_zero d.negative
      refine ⟨n, ?_, exact⟩
      rw [numberText, DecimalLayout.text]
      cases sign : d.negative with
      | true =>
          rw [sign] at spelled
          exact spelled
      | false =>
          rw [sign] at spelled
          exact spelled

/-- The escape of a character is a spelling of it. -/
theorem Json.escapeChar_spelled (c : Char) : CharSpelled c (escapeChar c) := by
  unfold escapeChar
  split_ifs with quote backslash backspace feed newline return_ tab control
  · exact .letter (by rw [quote]; rfl)
  · exact .letter (by rw [backslash]; rfl)
  · exact .letter (by rw [backspace]; rfl)
  · exact .letter (by rw [feed]; rfl)
  · exact .letter (by rw [newline]; rfl)
  · exact .letter (by rw [return_]; rfl)
  · exact .letter (by rw [tab]; rfl)
  · have value : ((0 * 16 + 0) * 16 + c.toNat / 16) * 16 + c.toNat % 16 = c.toNat := by omega
    have unit : CodeUnit ['0', '0', hexDigit (c.toNat / 16), hexDigit (c.toNat % 16)]
        (((0 * 16 + 0) * 16 + c.toNat / 16) * 16 + c.toNat % 16) :=
      .mk rfl rfl (Token.hexValue?_hexDigit _ (by omega)) (Token.hexValue?_hexDigit _ (by omega))
    rw [value] at unit
    exact .code unit
  · exact .plain (by omega) quote backslash

/-- The characters of a text are spelled by their escapes. -/
theorem Json.escaped_spelled (cs : List Char) : TextSpelled cs (cs.flatMap escapeChar) := by
  induction cs with
  | nil => exact .nil
  | cons c cs ih => exact .cons (escapeChar_spelled c) ih

/-- No character of a word stands in front. -/
def Led (cs : List Char) : Prop := ∀ c ∈ cs.head?, Token.isWordChar c = false

/-- What follows a mark may start with one of its own. -/
theorem Led.append {cs ds : List Char} (first : Led cs) (second : Led ds) : Led (cs ++ ds) := by
  cases cs with
  | nil => exact second
  | cons c cs => exact first

theorem led_mark {c : Char} (isMark : c ∈ Lexeme.marks) (cs : List Char) : Led (c :: cs) := by
  have all : Lexeme.marks.all (fun c => !Token.isWordChar c) = true := rfl
  rintro _ ⟨⟩
  simpa using List.all_eq_true.mp all c isMark

/-- Whether characters spell lexemes in front of others that are spelled. -/
def Written (lexemes : List Lexeme) (cs : List Char) : Prop :=
  ∀ (rest : List Lexeme) (tail : List Char), Spelled rest tail → Led tail →
    Spelled (lexemes ++ rest) (cs ++ tail)

namespace Written

theorem nil : Written [] [] := fun _ _ spelled _ => spelled

/-- Lexemes are written behind others if a word does not run into what follows. -/
theorem append {lexemes others : List Lexeme} {cs ds : List Char} (first : Written lexemes cs)
    (second : Written others ds) (led : Led ds) : Written (lexemes ++ others) (cs ++ ds) := by
  intro rest tail spelled ends
  rw [List.append_assoc, List.append_assoc]
  exact first _ _ (second rest tail spelled ends) (led.append ends)

/-- A spelling writes its lexeme. -/
theorem lexeme {lexeme : Lexeme} {spelling : List Char} (spelled : lexeme.Spelled spelling) :
    Written [lexeme] spelling :=
  fun _ _ rest led => .cons spelled rest fun _ => led

/-- Nothing that follows is part of a mark or a text. -/
theorem cons {lexeme : Lexeme} {lexemes : List Lexeme} {spelling cs : List Char}
    (spelled : lexeme.Spelled spelling) (closed : lexeme.isWord = false)
    (rest : Written lexemes cs) : Written (lexeme :: lexemes) (spelling ++ cs) := by
  intro others tail behind led
  rw [List.append_assoc]
  exact .cons spelled (rest others tail behind led) fun word => by rw [closed] at word; cases word

/-- A mark can stand before anything. -/
theorem mark {c : Char} {lexemes : List Lexeme} {cs : List Char} (rest : Written lexemes cs)
    (isMark : c ∈ Lexeme.marks := by decide) : Written (.mark c :: lexemes) (c :: cs) :=
  cons (.mark isMark) rfl rest

/-- A text in quotes can stand before anything. -/
theorem quoted {text : String} {lexemes : List Lexeme} {cs : List Char}
    (rest : Written lexemes cs) : Written (.text text :: lexemes) (Json.quoted text ++ cs) :=
  cons (.text (Json.escaped_spelled _)) rfl rest

/-- A mark closes what stands before it. -/
theorem closed {c : Char} {lexemes : List Lexeme} {cs : List Char} (written : Written lexemes cs)
    (led : Led cs) (isMark : c ∈ Lexeme.marks) :
    Written (lexemes ++ [.mark c]) (cs ++ [c]) ∧ Led (cs ++ [c]) :=
  ⟨written.append (.mark .nil isMark) (led_mark isMark _), led.append (led_mark isMark _)⟩

end Written

namespace Json

mutual

/-- **What is written for a document** spells a document of the same meaning. -/
theorem compactChars_written : ∀ value : Json, ∃ document : Doc,
    document.meaning Numeral.exact = value.meaning JsonNumber.printed ∧
      Written document.lexemes value.compactChars
  | .null => ⟨.null, rfl, .lexeme (.constant none)⟩
  | .bool true => ⟨.bool true, rfl, .lexeme (.constant (some true))⟩
  | .bool false => ⟨.bool false, rfl, .lexeme (.constant (some false))⟩
  | .number value => by
      obtain ⟨n, spelled, exact⟩ := numberText_spelled value
      exact ⟨.number n, congrArg Meaning.number exact, .lexeme (.number spelled)⟩
  | .text value => ⟨.text value, rfl, .lexeme (.text (escaped_spelled _))⟩
  | .array [] => ⟨.array [], rfl, .mark (.mark .nil)⟩
  | .array (item :: items) => by
      obtain ⟨first, same, written⟩ := compactChars_written item
      obtain ⟨others, alike, behind, led⟩ := compactItems_written items
      refine ⟨.array (first :: others), ?_, ?_⟩
      · rw [Doc.meaning, Doc.itemMeanings, same, alike, meaning, itemMeanings]
      · have closed := behind.closed led (by decide : ']' ∈ Lexeme.marks)
        rw [Doc.lexemes, compactChars, List.append_assoc]
        exact .mark (written.append closed.1 closed.2)
  | .object [] => ⟨.object [], rfl, .mark (.mark .nil)⟩
  | .object ((key, value) :: members) => by
      obtain ⟨first, same, written⟩ := compactChars_written value
      obtain ⟨others, alike, behind, led⟩ := compactMembers_written members
      refine ⟨.object ((key, first) :: others), ?_, ?_⟩
      · rw [Doc.meaning, Doc.memberMeanings, same, alike, meaning, memberMeanings]
      · have closed := behind.closed led (by decide : '\x7d' ∈ Lexeme.marks)
        rw [Doc.lexemes, compactChars]
        simp only [List.append_assoc, List.cons_append]
        exact .mark (.quoted (.mark (written.append closed.1 closed.2)))

/-- The items of an array behind the first are written, each behind a comma. -/
theorem compactItems_written : ∀ items : List Json, ∃ documents : List Doc,
    Doc.itemMeanings Numeral.exact documents = itemMeanings JsonNumber.printed items ∧
      Written (Doc.itemLexemes documents) (compactItems items) ∧ Led (compactItems items)
  | [] => ⟨[], rfl, .nil, nofun⟩
  | item :: items => by
      obtain ⟨first, same, written⟩ := compactChars_written item
      obtain ⟨others, alike, behind, led⟩ := compactItems_written items
      refine ⟨first :: others, ?_, .mark (written.append behind led), led_mark (by decide) _⟩
      rw [Doc.itemMeanings, same, alike, itemMeanings]

/-- The members of an object behind the first are written, each behind a comma. -/
theorem compactMembers_written : ∀ members : List (String × Json),
    ∃ documents : List (String × Doc),
      Doc.memberMeanings Numeral.exact documents = memberMeanings JsonNumber.printed members ∧
        Written (Doc.memberLexemes documents) (compactMembers members) ∧
          Led (compactMembers members)
  | [] => ⟨[], rfl, .nil, nofun⟩
  | (key, value) :: members => by
      obtain ⟨first, same, written⟩ := compactChars_written value
      obtain ⟨others, alike, behind, led⟩ := compactMembers_written members
      refine ⟨(key, first) :: others, ?_, ?_, led_mark (by decide) _⟩
      · rw [Doc.memberMeanings, same, alike, memberMeanings]
      · rw [Doc.memberLexemes, compactMembers]
        simp only [List.append_assoc, List.cons_append]
        exact .mark (.quoted (.mark (written.append behind led)))

end

/-- **What is written for a document is a JSON text** for a document of the same meaning. -/
theorem compact_spells (value : Json) : ∃ document : Doc, document.Spells value.compact ∧
    document.meaning Numeral.exact = value.meaning JsonNumber.printed := by
  obtain ⟨document, same, written⟩ := compactChars_written value
  refine ⟨document, ?_, same⟩
  have spelled := written [] [] .nil nofun
  rw [List.append_nil, List.append_nil] at spelled
  rw [Doc.Spells, compact, String.toList_ofList]
  exact spelled

end Json
end ClusterClient
