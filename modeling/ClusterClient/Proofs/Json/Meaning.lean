import ClusterClient.Proofs.Json.Reading
import Mathlib.Data.Rat.Defs
import Mathlib.Data.String.Basic
import Mathlib.Logic.Function.Basic

/-! # What documents mean

A document means a tree in which numbers are exact and the members of an object are found by their
names, the last of a name being the one that counts (`ClusterClient.Meaning`). Reading keeps what a
document means, up to the values that its numerals are read as
(`ClusterClient.Doc.meaning_of_json?`).
-/

namespace ClusterClient

/-- What a document means: a tree whose numbers are exact and whose members are found by their
names. -/
inductive Meaning where
  | null
  | bool (value : Bool)
  | number (value : ℚ)
  | text (value : String)
  | array (items : List Meaning)
  | object (member : String → Option Meaning)

/-- The last entry of a name. -/
def lastOf {α : Type} : List (String × α) → String → Option α
  | [], _ => none
  | (name, value) :: rest, key => (lastOf rest key).or (if name = key then some value else none)

namespace Doc

mutual

/-- What a document means, from what its numerals are worth. -/
def meaning (worth : Numeral → ℚ) : Doc → Meaning
  | .null => .null
  | .bool value => .bool value
  | .number numeral => .number (worth numeral)
  | .text value => .text value
  | .array items => .array (itemMeanings worth items)
  | .object members => .object (lastOf (memberMeanings worth members))

/-- What the items of an array mean. -/
def itemMeanings (worth : Numeral → ℚ) : List Doc → List Meaning
  | [] => []
  | item :: items => meaning worth item :: itemMeanings worth items

/-- What the members of an object mean. -/
def memberMeanings (worth : Numeral → ℚ) : List (String × Doc) → List (String × Meaning)
  | [] => []
  | (key, value) :: members => (key, meaning worth value) :: memberMeanings worth members

end

end Doc

namespace Json

mutual

/-- What a document means, from what its numbers are worth. -/
def meaning (worth : JsonNumber → ℚ) : Json → Meaning
  | .null => .null
  | .bool value => .bool value
  | .number value => .number (worth value)
  | .text value => .text value
  | .array items => .array (itemMeanings worth items)
  | .object members => .object (lastOf (memberMeanings worth members))

/-- What the items of an array mean. -/
def itemMeanings (worth : JsonNumber → ℚ) : List Json → List Meaning
  | [] => []
  | item :: items => meaning worth item :: itemMeanings worth items

/-- What the members of an object mean. -/
def memberMeanings (worth : JsonNumber → ℚ) : List (String × Json) → List (String × Meaning)
  | [] => []
  | (key, value) :: members => (key, meaning worth value) :: memberMeanings worth members

end

end Json

namespace Keyed

variable {α : Type}

/-- The keys stand in increasing order. -/
def Sorted (entries : Keyed α) : Prop := entries.Pairwise fun first second => first.1 < second.1

/-- A key before all others has no entry. -/
theorem lastOf_of_lt {key : String} {entries : Keyed α} (later : ∀ entry ∈ entries, key < entry.1) :
    lastOf entries key = none := by
  induction entries with
  | nil => rfl
  | cons entry entries ih =>
      obtain ⟨first, others⟩ := List.forall_mem_cons.mp later
      obtain ⟨name, value⟩ := entry
      rw [lastOf, ih others, if_neg first.ne', Option.or_none]

/-- An entry is the new one or one of those before. -/
theorem mem_insert {key : String} {value : α} {entries : Keyed α} {entry : String × α}
    (member : entry ∈ entries.insert key value) : entry = (key, value) ∨ entry ∈ entries := by
  induction entries with
  | nil => exact .inl (List.mem_singleton.mp member)
  | cons first entries ih =>
      obtain ⟨other, held⟩ := first
      unfold insert at member
      split_ifs at member
      · rcases List.mem_cons.mp member with rfl | behind
        · exact .inl rfl
        · exact .inr behind
      · rcases List.mem_cons.mp member with rfl | behind
        · exact .inl rfl
        · exact .inr (List.mem_cons_of_mem _ behind)
      · rcases List.mem_cons.mp member with rfl | behind
        · exact .inr List.mem_cons_self
        · exact (ih behind).imp_right (List.mem_cons_of_mem _)

/-- Inserting keeps the entries sorted. -/
theorem sorted_insert {entries : Keyed α} (sorted : Sorted entries) (key : String) (value : α) :
    Sorted (entries.insert key value) := by
  induction entries with
  | nil => exact List.pairwise_singleton _ _
  | cons first entries ih =>
      obtain ⟨other, held⟩ := first
      obtain ⟨least, rest⟩ := List.pairwise_cons.mp sorted
      unfold insert
      split_ifs with before same
      · refine List.pairwise_cons.mpr ⟨?_, sorted⟩
        exact List.forall_mem_cons.mpr
          ⟨before, fun entry member => before.trans (least entry member)⟩
      · subst same
        exact List.pairwise_cons.mpr ⟨least, rest⟩
      · refine List.pairwise_cons.mpr ⟨fun entry member => ?_, ih rest⟩
        rcases mem_insert member with rfl | behind
        · exact lt_of_le_of_ne (le_of_not_gt before) (Ne.symm same)
        · exact least entry behind

/-- An entry that is added is the last of its key, and the others stay. -/
theorem lastOf_insert {entries : Keyed α} (sorted : Sorted entries) (key : String) (value : α) :
    lastOf (entries.insert key value) = Function.update (lastOf entries) key (some value) := by
  funext name
  induction entries with
  | nil => simp only [insert, lastOf, Function.update_apply, Option.none_or, eq_comm]
  | cons first entries ih =>
      obtain ⟨other, held⟩ := first
      obtain ⟨least, rest⟩ := List.pairwise_cons.mp sorted
      unfold insert
      split_ifs with before same
      · by_cases own : name = key
        · subst own
          have later : ∀ entry ∈ (other, held) :: entries, name < entry.1 :=
            List.forall_mem_cons.mpr
              ⟨before, fun entry member => before.trans (least entry member)⟩
          rw [lastOf, lastOf_of_lt later, if_pos rfl, Function.update_self]
          rfl
        · rw [lastOf, if_neg (Ne.symm own), Option.or_none, Function.update_of_ne own]
      · subst same
        by_cases own : name = key
        · subst own
          rw [lastOf, lastOf_of_lt least, if_pos rfl, Function.update_self]
          rfl
        · rw [Function.update_of_ne own]
          simp only [lastOf, if_neg (Ne.symm own)]
      · rw [lastOf, ih rest]
        by_cases own : name = key
        · subst own
          rw [Function.update_self, Function.update_self]
          rfl
        · rw [Function.update_of_ne own, Function.update_of_ne own]
          rfl

end Keyed

/-- The meanings of members are found one by one. -/
theorem Json.memberMeanings_eq (worth : JsonNumber → ℚ) (members : List (String × Json)) :
    Json.memberMeanings worth members =
      members.map fun member => (member.1, member.2.meaning worth) := by
  induction members with
  | nil => rfl
  | cons member members ih => rw [Json.memberMeanings, ih, List.map_cons]

/-- Changing the values does not change which entry of a key is the last. -/
theorem lastOf_map {α β : Type} (entries : List (String × α)) (f : α → β) (key : String) :
    lastOf (entries.map fun entry => (entry.1, f entry.2)) key = (lastOf entries key).map f := by
  induction entries with
  | nil => rfl
  | cons entry entries ih =>
      rw [List.map_cons, lastOf, lastOf, ih]
      cases lastOf entries key with
      | some value => rfl
      | none =>
          by_cases same : entry.1 = key
          · rw [if_pos same, if_pos same]
            rfl
          · rw [if_neg same, if_neg same]
            rfl

/-- What a member of the given name means behind one that is added. -/
theorem Json.lastOf_insert {held : Members} (sorted : Keyed.Sorted held)
    (worth : JsonNumber → ℚ) (key : String) (value : Json) :
    lastOf (memberMeanings worth (held.insert key value)) =
      Function.update (lastOf (memberMeanings worth held)) key (some (value.meaning worth)) := by
  funext name
  rw [memberMeanings_eq, memberMeanings_eq, lastOf_map, Keyed.lastOf_insert sorted]
  by_cases own : name = key
  · rw [own, Function.update_self, Function.update_self]
    rfl
  · rw [Function.update_of_ne own, Function.update_of_ne own, lastOf_map]

namespace Doc

/-- What a numeral is worth when it is read. -/
def readWorth (worth : JsonNumber → ℚ) (n : Numeral) : ℚ := (n.value?.map worth).getD 0

variable {worth : JsonNumber → ℚ}

mutual

/-- **Reading keeps what a document means**, up to what its numerals are read as. -/
theorem meaning_of_json? : ∀ {document : Doc} {value : Json}, document.json? = some value →
    value.meaning worth = document.meaning (readWorth worth)
  | .null, _, read => by
      cases read
      rfl
  | .bool _, _, read => by
      cases read
      rfl
  | .text _, _, read => by
      cases read
      rfl
  | .number n, _, read => by
      obtain ⟨number, found, rfl⟩ := Option.map_eq_some_iff.mp read
      rw [Json.meaning, meaning, readWorth, found]
      rfl
  | .array items, _, read => by
      obtain ⟨held, found, rfl⟩ := Option.map_eq_some_iff.mp read
      rw [Json.meaning, meaning, itemMeanings_of_json? found]
  | .object members, _, read => by
      obtain ⟨held, found, rfl⟩ := Option.map_eq_some_iff.mp read
      rw [Json.meaning, meaning, (memberMeanings_of_json? found List.Pairwise.nil).2]
      simp only [Json.memberMeanings, lastOf, Option.or_none]

/-- The items that are read mean what the items that are written mean. -/
theorem itemMeanings_of_json? : ∀ {items : List Doc} {held : List Json},
    itemsJson? items = some held →
      Json.itemMeanings worth held = itemMeanings (readWorth worth) items
  | [], _, read => by
      cases read
      rfl
  | item :: items, _, read => by
      obtain ⟨first, found, others⟩ := Option.bind_eq_some_iff.mp read
      obtain ⟨rest, behind, same⟩ := Option.bind_eq_some_iff.mp others
      cases same
      rw [Json.itemMeanings, itemMeanings, meaning_of_json? found, itemMeanings_of_json? behind]

/-- A member of an object is found among those that are read last, or else among those before. -/
theorem memberMeanings_of_json? : ∀ {members : List (String × Doc)} {before held : Members},
    membersJson? before members = some held → Keyed.Sorted before →
      Keyed.Sorted held ∧ lastOf (Json.memberMeanings worth held) = fun key =>
        (lastOf (memberMeanings (readWorth worth) members) key).or
          (lastOf (Json.memberMeanings worth before) key)
  | [], _, _, read, sorted => by
      cases read
      exact ⟨sorted, rfl⟩
  | (name, value) :: members, before, held, read, sorted => by
      obtain ⟨first, found, others⟩ := Option.bind_eq_some_iff.mp read
      obtain ⟨last, all⟩ := memberMeanings_of_json? others (Keyed.sorted_insert sorted name first)
      refine ⟨last, ?_⟩
      rw [all]
      funext key
      rw [memberMeanings, lastOf, Json.lastOf_insert sorted, meaning_of_json? found,
        Option.or_assoc]
      by_cases own : name = key
      · rw [own, Function.update_self, if_pos rfl, Option.some_or]
      · rw [Function.update_of_ne (Ne.symm own), if_neg own, Option.none_or]

end

end Doc
end ClusterClient
