import ClusterClient.Json.Printer
import Mathlib.Tactic.SplitIfs

/-! # Compact texts have no control character

Every control character of a text is escaped by characters that are none, and everything else in a
compact text is a digit, a letter of a word or a mark of punctuation. So the compact text of a
document stands on one line, whatever texts and keys the document has at whatever depth
(`ClusterClient.Json.compactChars_printable`).
-/

namespace ClusterClient

/-- Characters none of which is a control character. -/
def Printable (cs : List Char) : Prop := ∀ c ∈ cs, 32 ≤ c.toNat

namespace Printable

variable {c : Char} {cs ds : List Char}

theorem nil : Printable [] := List.forall_mem_nil _

theorem cons_iff : Printable (c :: cs) ↔ 32 ≤ c.toNat ∧ Printable cs := List.forall_mem_cons

theorem append_iff : Printable (cs ++ ds) ↔ Printable cs ∧ Printable ds := List.forall_mem_append

theorem cons (first : 32 ≤ c.toNat) (rest : Printable cs) : Printable (c :: cs) :=
  cons_iff.mpr ⟨first, rest⟩

theorem append (first : Printable cs) (rest : Printable ds) : Printable (cs ++ ds) :=
  append_iff.mpr ⟨first, rest⟩

theorem of_subset (all : Printable ds) (part : ∀ c ∈ cs, c ∈ ds) : Printable cs :=
  fun c member => all c (part c member)

theorem replicate (count : Nat) (visible : 32 ≤ c.toNat) :
    Printable (List.replicate count c) := by
  intro other member
  rw [List.eq_of_mem_replicate member]
  exact visible

/-- Characters that are known are looked at one by one. -/
theorem of_all (visible : cs.all (fun c => decide (32 ≤ c.toNat)) = true) : Printable cs :=
  fun c member => of_decide_eq_true (List.all_eq_true.mp visible c member)

/-- Line breaks are control characters. -/
theorem no_break (printable : Printable cs) : '\n' ∉ cs ∧ '\r' ∉ cs := by
  constructor
  · intro member
    exact absurd (printable _ member) (by decide)
  · intro member
    exact absurd (printable _ member) (by decide)

end Printable

theorem printable_decimalDigits (n : Nat) : Printable (decimalDigits n) := by
  intro c member
  have isDigit : c.isDigit = true :=
    Nat.isDigit_of_mem_toDigits (by decide) (Nat.le_refl 10) member
  have bounds : 48 ≤ c.toNat ∧ c.toNat ≤ 57 := Char.isDigit_iff_toNat.mp isDigit
  omega

namespace DecimalLayout

/-- An exponent is a letter, a sign and digits. -/
theorem printable_exponentText (power : Int) : Printable (exponentText power) := by
  unfold exponentText
  split_ifs
  · exact .cons (by decide) (printable_decimalDigits _)
  · exact .cons (by decide) (printable_decimalDigits _)

/-- Only a point, zeros and a sign are put to the digits of a number in the layout with a point. -/
theorem printable_positional {digits : List Char} (visible : Printable digits) (power : Int) :
    Printable (positional digits power) := by
  have taken : ∀ count, Printable (digits.take count) :=
    fun count => visible.of_subset fun _ => List.mem_of_mem_take
  have dropped : ∀ count, Printable (digits.drop count) :=
    fun count => visible.of_subset fun _ => List.mem_of_mem_drop
  have zeros : ∀ count, Printable (List.replicate count '0') :=
    fun count => .replicate count (by decide)
  have fraction : ∀ rest : List Char, Printable rest →
      Printable (if rest.isEmpty then ['0'] else rest) := by
    intro rest restVisible
    split_ifs
    · exact zeros 1
    · exact restVisible
  unfold positional
  by_cases whole : 0 ≤ power
  · rw [if_pos whole]
    exact ((taken _).append (zeros _)).append (.cons (by decide) (fraction _ (dropped _)))
  · rw [if_neg whole]
    exact .cons (by decide) (.cons (by decide) ((zeros _).append visible))

/-- In the other layout an exponent is put to them as well. -/
theorem printable_scientific {digits : List Char} (visible : Printable digits) (power : Int) :
    Printable (scientific digits power) := by
  have exponent : Printable ('e' :: exponentText power) :=
    .cons (by decide) (printable_exponentText power)
  cases digits with
  | nil => exact exponent
  | cons first rest =>
      obtain ⟨firstVisible, restVisible⟩ := Printable.cons_iff.mp visible
      cases rest with
      | nil => exact visible.append exponent
      | cons second rest =>
          exact (Printable.cons firstVisible (.cons (by decide) restVisible)).append exponent

/-- So every layout of a number is printable. -/
theorem printable_text (layout : DecimalLayout) (d : Double) : Printable (layout.text d) := by
  have magnitude : ∀ power : Int,
      Printable (if layout.leastPower ≤ power ∧ power ≤ layout.greatestPower
        then positional (decimalDigits d.shortest.digits) power
        else scientific (decimalDigits d.shortest.digits) power) := by
    intro power
    split_ifs
    · exact printable_positional (printable_decimalDigits _) power
    · exact printable_scientific (printable_decimalDigits _) power
  unfold text
  by_cases negative : d.negative = true
  · rw [if_pos negative]
    exact .cons (by decide) (magnitude _)
  · rw [if_neg negative]
    exact magnitude _

end DecimalLayout

namespace Json

/-- The digits of an escape are visible. -/
theorem printable_hexDigit : ∀ n < 16, 32 ≤ (hexDigit n).toNat := by decide

/-- A control character is escaped, and what it is escaped by is none. -/
theorem printable_escapeChar (c : Char) : Printable (escapeChar c) := by
  have letter : ∀ name : Char, 32 ≤ name.toNat → Printable ['\\', name] :=
    fun name visible => .cons (by decide) (.cons visible .nil)
  unfold escapeChar
  split_ifs with quote backslash backspace feed newline return_ tab control
  · exact letter '\x22' (by decide)
  · exact letter '\\' (by decide)
  · exact letter 'b' (by decide)
  · exact letter 'f' (by decide)
  · exact letter 'n' (by decide)
  · exact letter 'r' (by decide)
  · exact letter 't' (by decide)
  · have high := printable_hexDigit (c.toNat / 16) (by omega)
    have low := printable_hexDigit (c.toNat % 16) (by omega)
    have start : Printable ['\\', 'u', '0', '0'] := .of_all rfl
    exact start.append (.cons high (.cons low .nil))
  · exact .cons (Nat.le_of_not_lt control) .nil

/-- A text is printable with its quotes, as each of its characters is with its escapes. -/
theorem printable_quoted (text : String) : Printable (quoted text) := by
  have escaped : Printable (text.toList.flatMap escapeChar) := by
    intro c member
    obtain ⟨source, _, escapes⟩ := List.mem_flatMap.mp member
    exact printable_escapeChar source c escapes
  exact .cons (by decide) (escaped.append (.cons (by decide) .nil))

/-- Whole numbers and doubles are printable. -/
theorem printable_numberText (number : JsonNumber) : Printable (numberText number) := by
  cases number with
  | double d => exact numberLayout.printable_text d
  | whole n =>
      cases n with
      | ofNat n => exact printable_decimalDigits n
      | negSucc n => exact .cons (by decide) (printable_decimalDigits (n + 1))

mutual

/-- **A compact text stands on one line.** It has no control character, whatever the document. -/
theorem compactChars_printable : ∀ document : Json, Printable document.compactChars
  | .null => .of_all rfl
  | .bool true => .of_all rfl
  | .bool false => .of_all rfl
  | .number n => printable_numberText n
  | .text t => printable_quoted t
  | .array [] => .of_all rfl
  | .array (item :: items) => by
      have inner := (compactChars_printable item).append (compactItems_printable items)
      exact .cons (by decide) (inner.append (.cons (by decide) .nil))
  | .object [] => .of_all rfl
  | .object ((key, value) :: members) => by
      have first := (printable_quoted key).append
        (.cons (c := ':') (by decide) (compactChars_printable value))
      have inner := first.append (compactMembers_printable members)
      exact .cons (by decide) (inner.append (.cons (by decide) .nil))

/-- The items of an array are printable. -/
theorem compactItems_printable : ∀ items : List Json, Printable (compactItems items)
  | [] => .nil
  | item :: items =>
      .cons (by decide) ((compactChars_printable item).append (compactItems_printable items))

/-- The members of an object are printable with their names. -/
theorem compactMembers_printable :
    ∀ members : List (String × Json), Printable (compactMembers members)
  | [] => .nil
  | (key, value) :: members => by
      have first := (printable_quoted key).append
        (.cons (c := ':') (by decide) (compactChars_printable value))
      exact .cons (by decide) (first.append (compactMembers_printable members))

end

/-- The compact text of a document is printable. -/
theorem printable_compact (document : Json) : Printable document.compact.toList := by
  rw [compact, String.toList_ofList]
  exact compactChars_printable document

end Json
end ClusterClient
