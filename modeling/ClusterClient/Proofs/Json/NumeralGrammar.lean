import ClusterClient.Json.Token
import Mathlib.Data.List.TakeWhile
import Mathlib.Data.Option.Basic

/-! # How numerals are written

A numeral is written by its sign, its digits, a fraction behind a point and an exponent behind a
letter (`ClusterClient.Numeral.Spelled`). The characters from which a numeral is read are those that
spell it (`ClusterClient.Numeral.ofChars?_iff`), and they are characters of one word
(`ClusterClient.Numeral.Spelled.word`).
-/

namespace ClusterClient

namespace Numeral

/-- One digit or more and nothing else. -/
def Digits (cs : List Char) : Prop := cs ≠ [] ∧ ∀ c ∈ cs, c.isDigit = true

/-- How the sign of an exponent is written; a plus may be left out. -/
inductive SignSpelled : Bool → List Char → Prop
  | none : SignSpelled false []
  | plus : SignSpelled false ['+']
  | minus : SignSpelled true ['-']

/-- How an exponent is written: behind a letter. -/
inductive ExponentSpelled : Option (Bool × List Char) → List Char → Prop
  | none : ExponentSpelled none []
  | some {letter : Char} {negative : Bool} {sign digits : List Char}
      (named : letter = 'e' ∨ letter = 'E') (signed : SignSpelled negative sign)
      (several : Digits digits) :
      ExponentSpelled (some (negative, digits)) (letter :: (sign ++ digits))

/-- How a fraction is written: behind a point. -/
inductive FractionSpelled : Option (List Char) → List Char → Prop
  | none : FractionSpelled none []
  | some {digits : List Char} (several : Digits digits) :
      FractionSpelled (some digits) ('.' :: digits)

/-- How a numeral is written. No zero stands in front of another digit of the whole part. -/
inductive Spelled : Numeral → List Char → Prop
  | mk {negative : Bool} {whole : List Char} {fraction : Option (List Char)}
      {exponent : Option (Bool × List Char)} {point tail : List Char} (several : Digits whole)
      (leading : whole.head? = some '0' → whole = ['0'])
      (fractional : FractionSpelled fraction point) (scaled : ExponentSpelled exponent tail) :
      Spelled ⟨negative, whole, fraction, exponent⟩
        ((if negative then ['-'] else []) ++ (whole ++ (point ++ tail)))

/-- No digit follows. -/
def Ends (cs : List Char) : Prop := ∀ c ∈ cs.head?, c.isDigit = false

theorem ends_nil : Ends [] := nofun

theorem ends_cons {c : Char} (other : c.isDigit = false) (cs : List Char) : Ends (c :: cs) := by
  rintro _ ⟨⟩
  exact other

/-- Digits are read up to where they end. -/
theorem spanDigits_append {digits rest : List Char} (several : Digits digits) (ends : Ends rest) :
    spanDigits (digits ++ rest) = (digits, rest) := by
  have stop : rest.takeWhile Char.isDigit = [] ∧ rest.dropWhile Char.isDigit = rest := by
    cases rest with
    | nil => exact ⟨rfl, rfl⟩
    | cons c rest =>
        have other : ¬ c.isDigit = true := by rw [ends c rfl]; exact Bool.false_ne_true
        exact ⟨List.takeWhile_cons_of_neg other, List.dropWhile_cons_of_neg other⟩
  rw [spanDigits, List.takeWhile_append_of_pos several.2, List.dropWhile_append_of_pos several.2,
    stop.1, stop.2, List.append_nil]

/-- Digits at the front are split off. -/
theorem spanDigits_split {cs digits rest : List Char} (split : spanDigits cs = (digits, rest)) :
    cs = digits ++ rest ∧ ∀ c ∈ digits, c.isDigit = true := by
  cases split
  exact ⟨List.takeWhile_append_dropWhile.symm, fun c member => List.mem_takeWhile_imp member⟩

/-- Digits have no sign in front. -/
theorem spanSign_digits {digits : List Char} (several : Digits digits) :
    spanSign digits = (false, digits) := by
  unfold spanSign
  split
  · exact absurd (several.2 '-' List.mem_cons_self) (by decide)
  · exact absurd (several.2 '+' List.mem_cons_self) (by decide)
  · rfl

/-- A sign is read as it is written. -/
theorem spanSign_spelled {negative : Bool} {sign digits : List Char}
    (signed : SignSpelled negative sign) (several : Digits digits) :
    spanSign (sign ++ digits) = (negative, digits) := by
  cases signed with
  | none => exact spanSign_digits several
  | plus => rfl
  | minus => rfl

/-- What is split off is a sign. -/
theorem spanSign_split {cs rest : List Char} {negative : Bool}
    (split : spanSign cs = (negative, rest)) :
    ∃ sign, SignSpelled negative sign ∧ cs = sign ++ rest := by
  unfold spanSign at split
  split at split <;> cases split
  · exact ⟨_, .minus, rfl⟩
  · exact ⟨_, .plus, rfl⟩
  · exact ⟨_, .none, rfl⟩

/-- What is split off is digits, if it is anything. -/
theorem spanDigits_several {cs digits rest : List Char} (split : spanDigits cs = (digits, rest))
    (some : digits ≠ []) : Digits digits ∧ cs = digits ++ rest := by
  obtain ⟨same, all⟩ := spanDigits_split split
  exact ⟨⟨some, all⟩, same⟩

/-- An exponent is read as it is written. -/
theorem spanExponent?_spelled {exponent : Option (Bool × List Char)} {tail : List Char}
    (spelled : ExponentSpelled exponent tail) : spanExponent? tail = some (exponent, []) := by
  cases spelled with
  | none => rfl
  | @some letter negative sign digits named signed several =>
      have split := spanDigits_append several ends_nil
      rw [List.append_nil] at split
      obtain ⟨first, others, rfl⟩ := List.exists_cons_of_ne_nil several.1
      rw [spanExponent?, if_pos named, spanSign_spelled signed several]
      simp only [split]

/-- What is read as an exponent is one. -/
theorem spanExponent?_sound {exponent : Option (Bool × List Char)} {tail : List Char}
    (read : spanExponent? tail = some (exponent, [])) : ExponentSpelled exponent tail := by
  cases tail with
  | nil =>
      cases read
      exact .none
  | cons letter rest =>
      rw [spanExponent?] at read
      split at read
      case isFalse => cases read
      case isTrue named =>
        rcases signed : spanSign rest with ⟨negative, behind⟩
        rcases split : spanDigits behind with ⟨digits, left⟩
        obtain ⟨sign, signSpelled, rfl⟩ := spanSign_split signed
        simp only [signed, split] at read
        cases digits with
        | nil => cases read
        | cons first others =>
            cases read
            obtain ⟨several, rfl⟩ := spanDigits_several split (List.cons_ne_nil first others)
            rw [List.append_nil]
            exact .some named signSpelled several

/-- A fraction is read as it is written, unless the digits are followed by a point of their own. -/
theorem spanFraction?_spelled {fraction : Option (List Char)} {point rest : List Char}
    (spelled : FractionSpelled fraction point) (ends : Ends rest) (plain : rest.head? ≠ some '.') :
    spanFraction? (point ++ rest) = some (fraction, rest) := by
  cases spelled with
  | none =>
      rw [List.nil_append]
      unfold spanFraction?
      split
      · exact absurd rfl plain
      · rfl
  | @some digits several =>
      have split := spanDigits_append several ends
      obtain ⟨first, others, rfl⟩ := List.exists_cons_of_ne_nil several.1
      rw [List.cons_append, spanFraction?]
      simp only [split]

/-- What is read as a fraction is one. -/
theorem spanFraction?_sound {cs rest : List Char} {fraction : Option (List Char)}
    (read : spanFraction? cs = some (fraction, rest)) :
    ∃ point, FractionSpelled fraction point ∧ cs = point ++ rest := by
  unfold spanFraction? at read
  split at read
  · rename_i behind
    rcases split : spanDigits behind with ⟨digits, left⟩
    simp only [split] at read
    cases digits with
    | nil => cases read
    | cons first others =>
        cases read
        obtain ⟨several, rfl⟩ := spanDigits_several split (List.cons_ne_nil first others)
        exact ⟨_, .some several, rfl⟩
  · cases read
    exact ⟨_, .none, rfl⟩

/-- The exponent starts with its letter. -/
theorem exponent_head {exponent : Option (Bool × List Char)} {tail : List Char}
    (spelled : ExponentSpelled exponent tail) : Ends tail ∧ tail.head? ≠ some '.' := by
  cases spelled with
  | none => exact ⟨ends_nil, nofun⟩
  | some named signed several =>
      rcases named with rfl | rfl
      · exact ⟨ends_cons rfl _, by simp⟩
      · exact ⟨ends_cons rfl _, by simp⟩

/-- The digits before a fraction end where it starts. -/
theorem fraction_ends {fraction : Option (List Char)} {point tail : List Char}
    (spelled : FractionSpelled fraction point) (ends : Ends tail) : Ends (point ++ tail) := by
  cases spelled with
  | none => exact ends
  | some several => exact ends_cons rfl _

/-- The numeral that the characters behind its sign spell. -/
def magnitude? (negative : Bool) (cs : List Char) : Option Numeral := do
  let (whole, cs) := spanDigits cs
  guard (!whole.isEmpty && (whole.length == 1 || whole.head? != some '0'))
  let (fraction, cs) ← spanFraction? cs
  let (exponent, cs) ← spanExponent? cs
  guard cs.isEmpty
  return ⟨negative, whole, fraction, exponent⟩

theorem ofChars?_minus (cs : List Char) : ofChars? ('-' :: cs) = magnitude? true cs := rfl

theorem ofChars?_plain {cs : List Char} (plain : cs.head? ≠ some '-') :
    ofChars? cs = magnitude? false cs := by
  have sign : ∀ sign : Bool × List Char, sign = (false, cs) →
      (do
        let (whole, cs) := spanDigits sign.2
        guard (!whole.isEmpty && (whole.length == 1 || whole.head? != some '0'))
        let (fraction, cs) ← spanFraction? cs
        let (exponent, cs) ← spanExponent? cs
        guard cs.isEmpty
        return (⟨sign.1, whole, fraction, exponent⟩ : Numeral)) = magnitude? false cs := by
    rintro _ rfl
    rfl
  apply sign
  split
  · exact absurd rfl plain
  · rfl

/-- A numeral without its sign is read as it is written. -/
theorem magnitude?_spelled {negative : Bool} {whole : List Char} {fraction : Option (List Char)}
    {exponent : Option (Bool × List Char)} {point tail : List Char} (several : Digits whole)
    (leading : whole.head? = some '0' → whole = ['0'])
    (fractional : FractionSpelled fraction point) (scaled : ExponentSpelled exponent tail) :
    magnitude? negative (whole ++ (point ++ tail)) =
      some ⟨negative, whole, fraction, exponent⟩ := by
  obtain ⟨ends, plain⟩ := exponent_head scaled
  have proper : (!whole.isEmpty && (whole.length == 1 || whole.head? != some '0')) = true := by
    have filled := several.1
    by_cases zero : whole.head? = some '0'
    · rw [leading zero]
      rfl
    · simp [filled, zero]
  unfold magnitude?
  simp only [spanDigits_append several (fraction_ends fractional ends),
    spanFraction?_spelled fractional ends plain, spanExponent?_spelled scaled, proper,
    List.isEmpty_nil, guard, ↓reduceIte, Option.pure_def, Option.bind_eq_bind, Option.bind_some]

/-- What is read as a numeral is one. -/
theorem magnitude?_sound {negative : Bool} {cs : List Char} {n : Numeral}
    (read : magnitude? negative cs = some n) :
    Spelled n ((if negative then ['-'] else []) ++ cs) := by
  unfold magnitude? at read
  rcases split : spanDigits cs with ⟨whole, behind⟩
  simp only [split, Option.bind_eq_bind, Option.bind_eq_some_iff, Option.pure_def,
    Option.guard_eq_some', exists_const] at read
  obtain ⟨proper, ⟨fraction, rest⟩, fractional, ⟨exponent, left⟩, scaled, none, same⟩ := read
  cases same
  obtain rfl : left = [] := List.isEmpty_iff.mp none
  obtain ⟨filled, single⟩ := (Bool.and_eq_true _ _).mp proper
  have some : whole ≠ [] := by
    rintro rfl
    cases filled
  obtain ⟨several, rfl⟩ := spanDigits_several split some
  obtain ⟨point, pointSpelled, rfl⟩ := spanFraction?_sound fractional
  refine .mk several (fun zero => ?_) pointSpelled (spanExponent?_sound scaled)
  simp only [zero, bne_self_eq_false, Bool.or_false, beq_iff_eq] at single
  obtain ⟨only, rfl⟩ := List.length_eq_one_iff.mp single
  cases zero
  rfl

/-- **Numerals.** The characters that spell a numeral are those from which it is read. -/
theorem ofChars?_iff {cs : List Char} {n : Numeral} : ofChars? cs = some n ↔ Spelled n cs := by
  constructor
  · intro read
    by_cases minus : cs.head? = some '-'
    · obtain ⟨rest, rfl⟩ := List.head?_eq_some_iff.mp minus
      rw [ofChars?_minus] at read
      exact magnitude?_sound read
    · rw [ofChars?_plain minus] at read
      exact magnitude?_sound read
  · rintro ⟨several, leading, fractional, scaled⟩
    rename_i negative whole fraction exponent point tail
    have read : magnitude? negative (whole ++ (point ++ tail)) = _ :=
      magnitude?_spelled several leading fractional scaled
    cases negative with
    | true => exact read
    | false =>
        obtain ⟨first, others, rfl⟩ := List.exists_cons_of_ne_nil several.1
        have plain : first ≠ '-' := by
          rintro rfl
          exact absurd (several.2 '-' List.mem_cons_self) (by decide)
        refine (ofChars?_plain ?_).trans read
        exact fun same => plain (Option.some.inj same)

/-- A digit or a minus. -/
def IsFirst (c : Char) : Prop := c.isDigit = true ∨ c = '-'

theorem isWordChar_of_isDigit {c : Char} (digit : c.isDigit = true) :
    Token.isWordChar c = true := by
  simp only [Token.isWordChar, Char.isAlphanum, digit, Bool.or_true, Bool.true_or]

/-- A fraction is part of the word of its numeral. -/
theorem fraction_words {fraction : Option (List Char)} {point : List Char}
    (spelled : FractionSpelled fraction point) : ∀ c ∈ point, Token.isWordChar c = true := by
  cases spelled with
  | none => exact List.forall_mem_nil _
  | some several =>
      exact List.forall_mem_cons.mpr
        ⟨rfl, fun c member => isWordChar_of_isDigit (several.2 c member)⟩

/-- An exponent is part of the word of its numeral. -/
theorem exponent_words {exponent : Option (Bool × List Char)} {tail : List Char}
    (spelled : ExponentSpelled exponent tail) : ∀ c ∈ tail, Token.isWordChar c = true := by
  cases spelled with
  | none => exact List.forall_mem_nil _
  | some named signed several =>
      have digits := fun c member => isWordChar_of_isDigit (several.2 c member)
      refine List.forall_mem_cons.mpr ⟨?_, List.forall_mem_append.mpr ⟨?_, digits⟩⟩
      · rcases named with rfl | rfl <;> rfl
      · cases signed <;> exact List.all_eq_true.mp rfl

/-- A numeral is a word that starts with a digit or a minus. -/
theorem Spelled.word {n : Numeral} {cs : List Char} (spelled : Spelled n cs) :
    (∃ c rest, cs = c :: rest ∧ IsFirst c) ∧ ∀ c ∈ cs, Token.isWordChar c = true := by
  cases spelled with
  | @mk negative whole fraction exponent point tail several _ fractional scaled =>
      have digits := fun c member => isWordChar_of_isDigit (several.2 c member)
      have words : ∀ c ∈ whole ++ (point ++ tail), Token.isWordChar c = true :=
        List.forall_mem_append.mpr ⟨digits,
          List.forall_mem_append.mpr ⟨fraction_words fractional, exponent_words scaled⟩⟩
      cases negative with
      | true => exact ⟨⟨'-', _, rfl, .inr rfl⟩, List.forall_mem_cons.mpr ⟨rfl, words⟩⟩
      | false =>
          obtain ⟨first, others, rfl⟩ := List.exists_cons_of_ne_nil several.1
          exact ⟨⟨first, _, rfl, .inl (several.2 first List.mem_cons_self)⟩, words⟩

end Numeral

end ClusterClient
