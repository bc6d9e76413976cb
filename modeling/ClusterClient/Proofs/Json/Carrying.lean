import ClusterClient.Proofs.Json.Precision
import ClusterClient.Proofs.Json.Writing

/-! # What a document carries over

A document that is read and written again keeps its meaning up to what its numerals are rewritten
to (`ClusterClient.Json.compact_carries`). A numeral is rewritten to itself if it is a whole number
of 64 bits or a short one, and to the shortest decimal of its double otherwise
(`ClusterClient.Numeral.Rewritten`).
-/

namespace ClusterClient

namespace Double

/-- A decimal reads back as a double, and with the fewest digits that do; a double that is zero has
the decimal zero. -/
structure IsShortest (d : Double) (decimal : Decimal) : Prop where
  regular : d.Regular
  zero : d.mantissa = 0 → decimal.worth = 0
  covered : d.mantissa ≠ 0 → d.Covers decimal.worth
  fewest : d.mantissa ≠ 0 → ∀ (digits length : Nat) (power : Int),
    d.Covers (digits * 10 ^ power) → digits < 10 ^ length → decimal.digits < 10 ^ length

/-- The decimal that is found for a double is one of the shortest that stand for it. -/
theorem isShortest (d : Double) (regular : d.Regular) : d.IsShortest d.shortest where
  regular := regular
  zero none := by
    have isZero : d.isZero = true := beq_iff_eq.mpr none
    rw [shortest, if_pos isZero, Decimal.worth, Nat.cast_zero, zero_mul]
  covered some := shortest_covered regular (Nat.pos_of_ne_zero some)
  fewest some digits length power :=
    shortest_fewest regular (Nat.pos_of_ne_zero some)

end Double

namespace Numeral

/-- What a numeral is rewritten to. -/
def rewritten (n : Numeral) : ℚ := Doc.readWorth JsonNumber.printed n

/-- What a numeral is rewritten to: itself if it is a whole number of 64 bits or a short one, and
the shortest decimal of its double otherwise, which agrees with it in fifteen digits if the double
has all 53 bits. -/
structure Rewritten (n : Numeral) (x : ℚ) : Prop where
  exactly : n.Whole ∨ n.Short → x = n.exact
  rounded : ¬ n.Whole → ∃ d decimal, n.double? = some d ∧ d.IsShortest decimal ∧
    x = n.sign * decimal.worth ∧ (2 ^ 52 ≤ d.mantissa → |x - n.exact| ≤ |n.exact| / 10 ^ 15)

/-- A numeral that is read is rewritten to the decimal of what it is read as. -/
theorem rewritten_spec {n : Numeral} {cs : List Char} (spelled : n.Spelled cs) {value : JsonNumber}
    (read : n.value? = some value) : n.Rewritten n.rewritten := by
  have same : n.rewritten = value.printed := by
    rw [rewritten, Doc.readWorth, read]
    rfl
  obtain ⟨exactly, double⟩ := printed_value? read
  rw [same]
  refine ⟨exactly, fun other => ?_⟩
  obtain ⟨d, found, rfl⟩ := double other
  obtain ⟨regular, printed⟩ := double?_regular found
  exact ⟨d, d.shortest, found, d.isShortest regular, printed, double?_error spelled.digits found⟩

end Numeral
/-- The lexemes of a text are spelled. -/
theorem Spelled.lexeme {lexemes : List Lexeme} {cs : List Char} (spelled : Spelled lexemes cs) :
    ∀ lexeme ∈ lexemes, ∃ spelling, lexeme.Spelled spelling := by
  induction spelled with
  | nil => exact List.forall_mem_nil _
  | blank _ _ ih => exact ih
  | cons first _ _ ih => exact List.forall_mem_cons.mpr ⟨⟨_, first⟩, ih⟩

namespace Doc

/-- Whether a numeral stands in a document. -/
def Has (document : Doc) (n : Numeral) : Prop := .number n ∈ document.lexemes

mutual

/-- The numerals of a document that is read have values. -/
theorem value?_of_json? : ∀ {document : Doc} {value : Json}, document.json? = some value →
    ∀ n : Numeral, .number n ∈ document.lexemes → ∃ number, n.value? = some number
  | .null, _, _, n, member => by simp [lexemes] at member
  | .bool _, _, _, n, member => by simp [lexemes] at member
  | .text _, _, _, n, member => by simp [lexemes] at member
  | .number m, _, read, n, member => by
      obtain ⟨number, found, rfl⟩ := Option.map_eq_some_iff.mp read
      obtain rfl : n = m := by simpa [lexemes] using member
      exact ⟨number, found⟩
  | .array [], _, _, n, member => by simp [lexemes] at member
  | .array (item :: items), _, read, n, member => by
      obtain ⟨held, found, rfl⟩ := Option.map_eq_some_iff.mp read
      obtain ⟨first, found, others⟩ := Option.bind_eq_some_iff.mp found
      obtain ⟨rest, behind, _⟩ := Option.bind_eq_some_iff.mp others
      simp only [lexemes, List.mem_cons, List.mem_append, List.not_mem_nil, or_false, reduceCtorEq,
        false_or] at member
      rcases member with inside | inside
      · exact value?_of_json? found n inside
      · exact value?_of_itemsJson? behind n inside
  | .object [], _, _, n, member => by simp [lexemes] at member
  | .object ((key, value) :: members), _, read, n, member => by
      obtain ⟨held, found, rfl⟩ := Option.map_eq_some_iff.mp read
      obtain ⟨first, found, others⟩ := Option.bind_eq_some_iff.mp found
      simp only [lexemes, List.mem_cons, List.mem_append, List.not_mem_nil, or_false, reduceCtorEq,
        false_or] at member
      rcases member with inside | inside
      · exact value?_of_json? found n inside
      · exact value?_of_membersJson? others n inside

/-- The numerals in items that are read have values. -/
theorem value?_of_itemsJson? : ∀ {items : List Doc} {held : List Json},
    itemsJson? items = some held →
      ∀ n : Numeral, .number n ∈ itemLexemes items → ∃ number, n.value? = some number
  | [], _, _, n, member => by simp [itemLexemes] at member
  | item :: items, _, read, n, member => by
      obtain ⟨first, found, others⟩ := Option.bind_eq_some_iff.mp read
      obtain ⟨rest, behind, _⟩ := Option.bind_eq_some_iff.mp others
      simp only [itemLexemes, List.mem_cons, List.mem_append, reduceCtorEq, false_or] at member
      rcases member with inside | inside
      · exact value?_of_json? found n inside
      · exact value?_of_itemsJson? behind n inside

/-- The numerals in members that are read have values, even in members that are replaced later. -/
theorem value?_of_membersJson? : ∀ {members : List (String × Doc)} {before held : Members},
    membersJson? before members = some held →
      ∀ n : Numeral, .number n ∈ memberLexemes members → ∃ number, n.value? = some number
  | [], _, _, _, n, member => by simp [memberLexemes] at member
  | (name, value) :: members, before, held, read, n, member => by
      obtain ⟨first, found, others⟩ := Option.bind_eq_some_iff.mp read
      simp only [memberLexemes, List.mem_cons, List.mem_append, reduceCtorEq, false_or] at member
      rcases member with inside | inside
      · exact value?_of_json? found n inside
      · exact value?_of_membersJson? others n inside

end

end Doc

/-- One text carries over the document of another: they spell documents of the same meaning, up to
what the numerals of the other are rewritten to. -/
def Carries (line payload : String) : Prop :=
  ∃ given sent : Doc, given.Spells line ∧ sent.Spells payload ∧
    sent.meaning Numeral.exact = given.meaning Numeral.rewritten ∧
      ∀ n : Numeral, given.Has n → n.Rewritten n.rewritten

/-- **What is written for a document that was read carries it over.** -/
theorem Json.compact_carries {line : String} {value : Json} (read : Json.parse? line = some value) :
    Carries line value.compact := by
  obtain ⟨given, spells, same⟩ := Json.parse?_sound read
  obtain ⟨sent, spells', meaning⟩ := Json.compact_spells value
  refine ⟨given, sent, spells, spells', meaning.trans (Doc.meaning_of_json? same), fun n has => ?_⟩
  obtain ⟨spelling, spelled⟩ := Spelled.lexeme spells _ has
  obtain ⟨number, found⟩ := Doc.value?_of_json? same n has
  cases spelled with
  | number spelled => exact Numeral.rewritten_spec spelled found

end ClusterClient
